/-!
# Tables over code points

Properties of characters are constant on long runs of code points, so a table lists runs: a
`RangeSet` the ranges that belong to a set, a `RunMap` the value of each run and its length,
from 0 on, a `ShiftMap` the distance from each character to its image. Tables are written as
text, numbers in hexadecimal, and read once.
-/

namespace JobExpansion.Text

/-- The value of a hexadecimal digit; anything else counts as 0. -/
def hexValue (c : Char) : Nat :=
  if c.isDigit then c.toNat - 48
  else if 'a' ≤ c ∧ c ≤ 'f' then c.toNat - 87
  else if 'A' ≤ c ∧ c ≤ 'F' then c.toNat - 55
  else 0

/-- A hexadecimal number. -/
def readHex (s : String) : Nat := s.foldl (fun n c => 16 * n + hexValue c) 0

/-- A range `a-b`, or `a` alone for `a-a`. -/
def readRange (s : String) : Nat × Nat :=
  match s.splitOn "-" with
  | [a, b] => (readHex a, readHex b)
  | _ => (readHex s, readHex s)

/-- The tokens of a table's lines. -/
def tokens (lines : List String) : List String := lines.flatMap (·.splitOn " ")

/-- The number of leading entries of a sorted array that are at most `n`. -/
def countUpTo (starts : Array Nat) (n : Nat) : Nat :=
  let rec go : Nat → Nat → Nat → Nat
    | 0, lo, _ => lo
    | fuel + 1, lo, hi =>
      if lo < hi then
        let mid := (lo + hi) / 2
        if starts.getD mid 0 ≤ n then go fuel (mid + 1) hi else go fuel lo mid
      else lo
  go 32 0 starts.size

/-- A set of code points, as its ranges in rising order. -/
structure RangeSet where
  firsts : Array Nat
  lasts : Array Nat
  deriving Repr, Inhabited

namespace RangeSet

/-- The set of these ranges, which rise and do not touch. -/
def ofList (ranges : List (Nat × Nat)) : RangeSet :=
  ⟨(ranges.map (·.1)).toArray, (ranges.map (·.2)).toArray⟩

/-- The set a table lists. -/
def read (lines : List String) : RangeSet := ofList ((tokens lines).map readRange)

/-- A code point belongs to the set. -/
def contains (s : RangeSet) (n : Nat) : Bool :=
  match countUpTo s.firsts n with
  | 0 => false
  | i + 1 => n ≤ s.lasts.getD i 0

/-- The code points at which membership may change. -/
def cuts (s : RangeSet) : List Nat := s.firsts.toList ++ s.lasts.toList.map (· + 1)

end RangeSet

/-- A value for each code point, as the first code point of each run and the value there. -/
structure RunMap where
  firsts : Array Nat
  values : Array String
  deriving Repr, Inhabited

namespace RunMap

/-- The map a table lists, each run as `value:length`. -/
def read (lines : List String) : RunMap :=
  let step (acc : RunMap × Nat) (token : String) : RunMap × Nat :=
    match token.splitOn ":" with
    | [value, length] =>
      (⟨acc.1.firsts.push acc.2, acc.1.values.push value⟩, acc.2 + readHex length)
    | _ => acc
  ((tokens lines).foldl step (⟨#[], #[]⟩, 0)).1

/-- The value of a code point. -/
def get (m : RunMap) (n : Nat) : String := m.values.getD (countUpTo m.firsts n - 1) ""

/-- The code points at which the value changes. -/
def cuts (m : RunMap) : List Nat := m.firsts.toList

end RunMap

/-- Code points from `first` to `last`, `step` apart, that are all moved by one distance. -/
structure Shift where
  first : Nat
  last : Nat
  step : Nat
  distance : Int
  deriving Repr, Inhabited

namespace Shift

/-- A row `first-last/step:distance`; the step is 1 if it is not given. -/
def read (token : String) : Shift :=
  match token.splitOn ":" with
  | [domain, distance] =>
    let (range, step) := match domain.splitOn "/" with
      | [range, step] => (range, readHex step)
      | _ => (domain, 1)
    let (first, last) := readRange range
    let distance : Int :=
      if distance.startsWith "-" then -(readHex (distance.drop 1).toString : Int)
      else readHex distance
    ⟨first, last, step, distance⟩
  | _ => ⟨1, 0, 1, 0⟩

/-- The row moves this code point. -/
def covers (s : Shift) (n : Nat) : Bool := s.first ≤ n ∧ n ≤ s.last ∧ (n - s.first) % s.step = 0

/-- The code point that the row moves to `n`. -/
def source? (s : Shift) (n : Nat) : Option Nat :=
  let m := ((n : Int) - s.distance).toNat
  if s.covers m ∧ (m : Int) + s.distance = n then some m else none

end Shift

/-- A map that moves some code points and keeps the others. -/
abbrev ShiftMap := Array Shift

namespace ShiftMap

/-- The map a table lists. -/
def read (lines : List String) : ShiftMap := ((tokens lines).map Shift.read).toArray

/-- The image of a code point. -/
def get (m : ShiftMap) (n : Nat) : Nat :=
  match m.find? (·.covers n) with
  | some s => ((n : Int) + s.distance).toNat
  | none => n

/-- The code points other than `n` that are moved to `n`. -/
def sources (m : ShiftMap) (n : Nat) : List Nat := m.toList.filterMap (·.source? n)

/-- The code points at which the map may change its distance, each with its follower. -/
def points (m : ShiftMap) : List Nat :=
  m.toList.flatMap fun s =>
    (List.range ((s.last - s.first) / s.step + 1)).map (fun i => s.first + i * s.step)

end ShiftMap

end JobExpansion.Text
