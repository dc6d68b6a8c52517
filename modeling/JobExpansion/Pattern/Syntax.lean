import JobExpansion.Pattern.Class

/-!
# Regular expressions

A regular expression over characters, with assertions about the place between two characters.
What a group captures and whether a repetition is greedy does not matter to whether a text
matches, so neither is kept; a capturing group is, because it takes room.
-/

namespace JobExpansion

/-- Which halves of a word boundary are asserted. -/
inductive WordEdge where
  | boundary | inside | start | finish | startHalf | finishHalf
  deriving Repr, DecidableEq, Inhabited

/-- An assertion about a place in a text. -/
inductive Look where
  | textStart
  | textEnd
  /-- The start of a line; lines end in a line feed. -/
  | lineStart
  | lineEnd
  /-- The start of a line; lines end in a carriage return, a line feed or both. -/
  | lineStartCrlf
  | lineEndCrlf
  /-- An edge of a word, with words of any script or of ASCII. -/
  | word (edge : WordEdge) (ascii : Bool)
  deriving Repr, DecidableEq, Inhabited

/-- A regular expression. -/
inductive Regex where
  | empty
  | chars (set : CharClass)
  | look (l : Look)
  | seq (a b : Regex)
  | alt (a b : Regex)
  /-- At least `min` times, at most `max` times if there is a bound. -/
  | rep (a : Regex) (min : Nat) (max : Option Nat)
  /-- A capturing group. -/
  | capture (a : Regex)
  deriving Repr, DecidableEq, Inhabited

namespace Regex

/-- One expression after another. -/
def ofSeq : List Regex → Regex
  | [] => .empty
  | [a] => a
  | a :: as => .seq a (ofSeq as)

/-- One of several expressions. -/
def ofAlt : List Regex → Regex
  | [] => .empty
  | [a] => a
  | a :: as => .alt a (ofAlt as)

end Regex

end JobExpansion
