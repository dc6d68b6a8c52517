import JobExpansion.Pattern.Weight
import JobExpansion.Pattern.Matching

/-!
# Anchored patterns

A key is made a pattern by putting it into a group between two anchors, as text: a key that is no
pattern by itself may become one that way.
-/

namespace JobExpansion.Pattern

/-- The pattern text of a key. -/
def anchored (key : List Char) : List Char :=
  ['^', '(', '?', ':'] ++ key ++ [')', '$']

/-- The expression of a key, or why there is none. -/
def compile (key : String) : Except Fault Regex := do
  let r ← read (anchored key.toList)
  if r.fits then return r else .error .tooBig

/-- A key's expression accepts a text. -/
def accepts (r : Regex) (text : String) : Bool := r.matchesIn text.toList

end JobExpansion.Pattern
