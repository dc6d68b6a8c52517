import JobExpansion.Value.Basic

/-!
# Shapes

A shape says what kind of value a field takes when it is not keyed.
-/

namespace JobExpansion

/-- What a field may hold. -/
inductive Shape where
  | string
  | boolean
  | integer
  | stringList
  | stringOrList
  | oneOf (words : List String)
  /-- A string, null, or a mapping with an index and a name. -/
  | target
  deriving DecidableEq, Repr

namespace Shape

/-- A list of strings is meant. -/
def isStringList : Value → Bool
  | .list items => items.all Value.isText
  | _ => false

/-- A value has a shape. -/
def accepts : Shape → Value → Bool
  | .string, v => v.isText
  | .boolean, .bool _ => true
  | .integer, .number (.int _) => true
  | .stringList, v => isStringList v
  | .stringOrList, v => v.isText || isStringList v
  | .oneOf words, .text s => words.contains s
  | .target, .null => true
  | .target, .text _ => true
  | .target, .mapping entries => Entries.has entries "index" && Entries.has entries "name"
  | _, _ => false

/-- A shape in words. -/
def description : Shape → String
  | .string => "a string"
  | .boolean => "a boolean"
  | .integer => "an integer"
  | .stringList => "a list of strings"
  | .stringOrList => "a string or a list of strings"
  | .oneOf words => "one of " ++ ", ".intercalate words
  | .target => "a string, null, or a mapping with index and name"

end Shape

end JobExpansion
