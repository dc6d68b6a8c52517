/-!
# Parts of texts

A text as a part of another: at its start, at its end, or anywhere.
-/

namespace JobExpansion.Text

/-- The characters occur one after another in a list. -/
def occursIn (part : List Char) : List Char → Bool
  | [] => part.isEmpty
  | c :: cs => part.isPrefixOf (c :: cs) || occursIn part cs

/-- A text contains another. -/
def contains (s part : String) : Bool := occursIn part.toList s.toList

/-- A text starts with another. -/
def startsWith (s part : String) : Bool := part.toList.isPrefixOf s.toList

/-- What stands before a text at the end of another. -/
def beforeSuffix? (s part : String) : Option String :=
  if part.toList.isSuffixOf s.toList then
    some (String.ofList (s.toList.take (s.toList.length - part.toList.length)))
  else none

end JobExpansion.Text
