import JobExpansion.Pattern.Syntax

/-!
# Matching

A set of places in a text is a number whose bits are the places that belong to it. `reach`
takes the places at which an expression may start to those at which it may end; a repetition
goes on until it adds no place. A text matches when some place can be reached from some place,
so an expression that is to match the whole text has to say so with assertions.
-/

namespace JobExpansion

/-- A code point is part of a word. -/
def Look.isWord (ascii : Bool) (c : Option Char) : Bool :=
  match c with
  | some c => if ascii then CharClass.isAsciiWord c.toNat else CharClass.isWord c.toNat
  | none => false

/-- An assertion holds between these two characters. -/
def Look.holds (l : Look) (before after : Option Char) : Bool :=
  match l with
  | .textStart => before.isNone
  | .textEnd => after.isNone
  | .lineStart => before.isNone || before = some '\n'
  | .lineEnd => after.isNone || after = some '\n'
  | .lineStartCrlf => before.isNone || before = some '\n'
      || (before = some '\r' && after != some '\n')
  | .lineEndCrlf => after.isNone || after = some '\r'
      || (after = some '\n' && before != some '\r')
  | .word edge ascii =>
    let left := Look.isWord ascii before
    let right := Look.isWord ascii after
    match edge with
    | .boundary => left != right
    | .inside => left == right
    | .start => !left && right
    | .finish => left && !right
    | .startHalf => !left
    | .finishHalf => !right

namespace Regex

/-- The places at which an assertion holds, from the one after `before` on. -/
def lookPlaces (l : Look) (before : Option Char) : List Char → Nat
  | [] => (l.holds before none).toNat
  | c :: cs => (l.holds before (some c)).toNat + 2 * lookPlaces l (some c) cs

/-- The places after a character of the class that starts at one of the given places. -/
def stepPlaces (set : CharClass) : List Char → Nat → Nat
  | [], _ => 0
  | c :: cs, places =>
    if places = 0 then 0
    else (if places % 2 = 1 ∧ set.contains c.toNat then 2 else 0)
      + 2 * stepPlaces set cs (places / 2)

/-- A step taken `n` times, or until it changes nothing. -/
def iterate (step : Nat → Nat) : Nat → Nat → Nat
  | 0, places => places
  | n + 1, places =>
    let next := step places
    if next = places then places else iterate step n next

/-- The places reached by at most `n` steps, or until a step finds nothing new. -/
def accumulate (step : Nat → Nat) : Nat → Nat → Nat → Nat
  | 0, seen, _ => seen
  | n + 1, seen, front =>
    let next := step front
    if seen ||| next = seen then seen else accumulate step n (seen ||| next) next

/-- The places at which an expression may end when it starts at one of the given places. -/
def reach (text : List Char) : Regex → Nat → Nat
  | .empty, places => places
  | .chars set, places => stepPlaces set text places
  | .look l, places => places &&& lookPlaces l none text
  | .seq a b, places => reach text b (reach text a places)
  | .alt a b, places => reach text a places ||| reach text b places
  | .rep a min max, places =>
    let start := iterate (reach text a) min places
    let more := match max with
      | some max => max - min
      | none => text.length + 1
    accumulate (reach text a) more start start
  | .capture a, places => reach text a places

/-- The expression matches somewhere in the text. -/
def matchesIn (r : Regex) (text : List Char) : Bool :=
  r.reach text (Nat.pow 2 (text.length + 1) - 1) != 0

end Regex

end JobExpansion
