/-!
# Levels of remarks

A remark has a level; a threshold lets through the levels up to one of them, or none at all.
-/

namespace JobExpansion.Log

/-- How important a remark is. -/
inductive Level where
  | error | warn | info | debug | trace
  deriving DecidableEq, Repr

namespace Level

/-- The place of a level, the most important one first. -/
def rank : Level → Nat
  | .error => 1
  | .warn => 2
  | .info => 3
  | .debug => 4
  | .trace => 5

/-- The word for a level. -/
def name : Level → String
  | .error => "ERROR"
  | .warn => "WARN"
  | .info => "INFO"
  | .debug => "DEBUG"
  | .trace => "TRACE"

/-- The width of the longest words for a level. -/
def labelWidth : Nat := 5

/-- The word for a level in front of a remark, with blanks before it so that all are of one
width. -/
def label (l : Level) : String := "".pushn ' ' (labelWidth - l.name.length) ++ l.name

/-- All levels, the most important one first. -/
def all : List Level := [.error, .warn, .info, .debug, .trace]

end Level

/-- The least important level that is let through, if any is. -/
abbrev Threshold := Option Level

namespace Threshold

/-- A level is let through. -/
def allows (t : Threshold) (l : Level) : Bool := t.any fun least => l.rank ≤ least.rank

/-- A letter of ASCII in upper case. -/
def upperAscii (s : String) : String := s.map Char.toUpper

/-- The threshold of a number from 0, which lets nothing through, to 5. -/
def ofNumber? (s : String) : Option Threshold :=
  let digits := match s.toList with
    | '+' :: cs => cs
    | cs => cs
  if digits.isEmpty || !digits.all Char.isDigit then none
  else
    match digits.foldl (fun n c => 10 * n + (c.toNat - 48)) 0 with
    | 0 => some none
    | n => (Level.all[n - 1]?).map some

/-- The threshold that a number or a word in any case stands for. -/
def read? (s : String) : Option Threshold :=
  match ofNumber? s with
  | some t => some t
  | none =>
    if s = "" then some (some .error)
    else if upperAscii s = "OFF" then some none
    else (Level.all.find? fun l => l.name = upperAscii s).map some

end Threshold

end JobExpansion.Log
