import JobExpansion.Log.Level
import JobExpansion.Pattern.Reader
import JobExpansion.Text.Blank

/-!
# Directives

A directive `target[span{field=value}]=level` says which remarks are let through. All of its parts
but one may be missing; without a level everything is let through. Its parts are told apart with
the blanks around it left out, but they are cut from the text with those blanks.
-/

namespace JobExpansion.Log

/-- A field that a directive asks for. -/
structure FieldTest where
  name : String
  value : Option String := none
  deriving Repr, DecidableEq

namespace FieldTest

/-- A value is a pattern, or a number with a sign. -/
def isValue (s : String) : Bool :=
  match s.toList with
  | '+' :: cs => !cs.isEmpty && cs.all Char.isDigit
  | cs => (Pattern.read cs).toOption.isSome

/-- The test that a text writes. -/
def read? (s : String) : Option FieldTest :=
  match s.splitOn "=" with
  | name :: value :: _ => if isValue value then some ⟨name, some value⟩ else none
  | [name] => if name = "" then none else some ⟨name, none⟩
  | [] => none

end FieldTest

/-- What is let through. -/
structure Directive where
  target : Option String := none
  span : Option String := none
  fields : List FieldTest := []
  threshold : Threshold := some .trace
  deriving Repr, DecidableEq

namespace Directive

/-- Where the reader of a directive is; the numbers are places in the text, in bytes. -/
inductive Place where
  | start
  | name (first : Nat)
  | span (first : Nat)
  | field (first : Nat)
  | afterFields
  | afterSpan
  | level (first : Nat)
  | finished
  deriving DecidableEq, Repr

/-- A part of a text; none if it does not start and end between characters. -/
def cut? (text : String) (first last : Nat) : Option String :=
  if first ≤ last then String.fromUTF8? (text.toUTF8.extract first last) else none

/-- The rest of a text. -/
def rest? (text : String) (first : Nat) : Option String := cut? text first text.utf8ByteSize

/-- A character that may start a directive without a span. -/
def startsName (c : Char) : Bool := c = '-' || c = ':' || c = '_' || Pattern.isLetterOrNumber c

/-- The directive with what stands there alone: a level, or else a target. -/
def withWord (d : Directive) (word : String) : Directive :=
  if word = "" then { d with target := none, threshold := some .trace }
  else
    match Threshold.read? word with
    | some t => { d with target := none, threshold := t }
    | none => { d with target := some word, threshold := some .trace }

/-- The directive with a level; nothing at all stands for the last one. -/
def withLevel (d : Directive) (word : String) : Option Directive :=
  if word = "" then some { d with threshold := some .trace }
  else (Threshold.read? word).map fun t => { d with threshold := t }

/-- The directive with one more field. -/
def withField (d : Directive) (text : String) : Option Directive :=
  if text = "" then none
  else (FieldTest.read? text).map fun f => { d with fields := d.fields ++ [f] }

/-- The directive and the place after a character at a place of the text. -/
def step (text : String) (i : Nat) (c : Char) (d : Directive) :
    Place → Option (Directive × Place)
  | .start =>
    if c = '[' then some (d, .span (i + 1))
    else if startsName c then some (d, .name i)
    else none
  | .name first =>
    if c = '=' then (cut? text first i).map fun s => ({ d with target := some s }, .level (i + 1))
    else if c = '[' then
      (cut? text first i).map fun s => ({ d with target := some s }, .span (i + 1))
    else if c = ',' then (rest? text first).map fun s => (d.withWord s, .finished)
    else some (d, .name first)
  | .span first =>
    if c = ']' then (cut? text first i).map fun s => ({ d with span := some s }, .afterSpan)
    else if c = '\x7b' then
      (cut? text first i).map fun s =>
        ({ d with span := if s = "" then none else some s }, .field (i + 1))
    else some (d, .span first)
  | .field first =>
    if c = '\x7d' then ((cut? text first i).bind d.withField).map fun d => (d, .afterFields)
    else if c = ',' then ((cut? text first i).bind d.withField).map fun d => (d, .field (i + 1))
    else some (d, .field first)
  | .afterFields => if c = ']' then some (d, .afterSpan) else none
  | .afterSpan => if c = '=' then some (d, .level (i + 1)) else none
  | .level first =>
    if c = ',' then ((cut? text first i).bind d.withLevel).map fun d => (d, .finished)
    else some (d, .level first)
  | .finished => none

/-- The directive at the end of the text. -/
def finish (text : String) (d : Directive) : Place → Option Directive
  | .name first => (rest? text first).map d.withWord
  | .level first => (rest? text first).bind d.withLevel
  | .afterSpan | .finished => some d
  | .start | .span _ | .field _ | .afterFields => none

/-- The directive at the end of some characters of the text. -/
def readFrom (text : String) : Nat → Directive → Place → List Char → Option Directive
  | _, d, place, [] => finish text d place
  | i, d, place, c :: cs =>
    (step text i c d place).bind fun (d, place) => readFrom text (i + c.utf8Size) d place cs

/-- The directive that a text writes. -/
def read? (text : String) : Option Directive :=
  readFrom text 0 {} .start (Text.trimChars text.toList)

end Directive

end JobExpansion.Log
