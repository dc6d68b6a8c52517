import JobExpansion.Text.Blank
import JobExpansion.Text.Case
import JobExpansion.Text.Script
import JobExpansion.Text.Age

/-!
# Character classes

A class is kept as it was written: ranges, named sets, and the operations on sets. `contains`
says which code points belong to it, and `ranges` gives them in rising order.
-/

namespace JobExpansion

/-- A set of characters. -/
inductive CharClass where
  /-- No character. -/
  | none
  /-- The code points from `first` to `last`. -/
  | range (first last : Nat)
  | digit
  | blank
  | word
  | category (members : List String)
  | script (name : String)
  | usedWith (script : String)
  | presentIn (version : String)
  | property (name : String)
  | union (a b : CharClass)
  | inter (a b : CharClass)
  | diff (a b : CharClass)
  | symmDiff (a b : CharClass)
  | compl (a : CharClass)
  /-- The class closed under simple case folding. -/
  | fold (a : CharClass)
  /-- The class closed under the case of the letters from A to Z. -/
  | foldAscii (a : CharClass)
  deriving Repr, DecidableEq, Inhabited

namespace CharClass

/-- The largest code point. -/
def lastCodePoint : Nat := 0x10FFFF

/-- Every character. -/
def all : CharClass := .range 0 lastCodePoint

/-- One character. -/
def single (c : Char) : CharClass := .range c.toNat c.toNat

/-- A decimal digit of any script. -/
def isDigit (n : Nat) : Bool :=
  if n < 128 then 48 ≤ n && n ≤ 57 else Text.Property.among ["Nd"] n

/-- A letter, mark, digit, connector or joiner. -/
def isWord (n : Nat) : Bool :=
  if n < 128 then (48 ≤ n && n ≤ 57) || (65 ≤ n && n ≤ 90) || n = 95 || (97 ≤ n && n ≤ 122)
  else Text.Property.alphabetic n || Text.Property.among ["Mn", "Mc", "Me", "Nd", "Pc"] n
    || n = 0x200C || n = 0x200D

/-- A letter from A to Z, an underscore or an ASCII digit. -/
def isAsciiWord (n : Nat) : Bool := n < 128 && isWord n

/-- The other case of a letter from A to Z. -/
def otherAsciiCase (n : Nat) : Nat :=
  if 65 ≤ n ∧ n ≤ 90 then n + 32 else if 97 ≤ n ∧ n ≤ 122 then n - 32 else n

/-- A code point belongs to a class. -/
def contains : CharClass → Nat → Bool
  | .none, _ => false
  | .range first last, n => first ≤ n && n ≤ last
  | .digit, n => isDigit n
  | .blank, n => Text.isBlank (Char.ofNat n)
  | .word, n => isWord n
  | .category members, n => Text.Property.among members n
  | .script name, n => Text.inScript name n
  | .usedWith name, n => Text.usedWithScript name n
  | .presentIn version, n => Text.presentIn version n
  | .property name, n =>
    match Text.Property.named? name with
    | some set => set.contains n
    | Option.none => false
  | .union a b, n => a.contains n || b.contains n
  | .inter a b, n => a.contains n && b.contains n
  | .diff a b, n => a.contains n && !b.contains n
  | .symmDiff a b, n => a.contains n != b.contains n
  | .compl a, n => !a.contains n
  | .fold a, n => a.contains n || (Text.caseVariants n).any fun m => a.contains m
  | .foldAscii a, n => a.contains n || a.contains (otherAsciiCase n)

/-- Code points among which those are where membership changes. -/
def cuts : CharClass → List Nat
  | .none => []
  | .range first last => [first, last + 1]
  | .digit | .category _ => Text.categories.cuts
  | .blank => [9, 14, 32, 33, 0x85, 0x86, 0xA0, 0xA1, 0x1680, 0x1681, 0x2000, 0x200B, 0x2028,
      0x202A, 0x202F, 0x2030, 0x205F, 0x2060, 0x3000, 0x3001]
  | .word => Text.categories.cuts ++ Text.Property.otherAlphabetic.cuts ++ [0x200C, 0x200E]
  | .script _ => Text.scripts.cuts
  | .usedWith _ =>
    Text.scripts.cuts ++ Text.scriptExtensions.flatMap fun ((a, b), _) => [a, b + 1]
  | .presentIn _ => Text.ages.cuts
  | .property name =>
    match Text.Property.named? name with
    | some (.listed set) => set.cuts
    | _ => Text.categories.cuts ++ (List.range 0x10000)
  | .union a b | .inter a b | .diff a b | .symmDiff a b => a.cuts ++ b.cuts
  | .compl a => a.cuts
  | .fold a =>
    a.cuts ++ (Text.foldShifts.points.flatMap fun n =>
      let m := Text.foldShifts.get n
      [n, n + 1, m, m + 1])
  | .foldAscii a => a.cuts ++ [65, 91, 97, 123] ++ List.range 128

/-- The ranges of a class in rising order; the code points between two halves of a pair of
surrogates belong to no character. -/
def ranges (c : CharClass) : List (Nat × Nat) :=
  let points := (0 :: 0xD800 :: 0xE000 :: (lastCodePoint + 1) :: c.cuts).mergeSort (· ≤ ·)
  let step (acc : List (Nat × Nat)) (a b : Nat) : List (Nat × Nat) :=
    if a < b ∧ b ≤ lastCodePoint + 1 ∧ a ≠ 0xD800 ∧ !(0xD800 < a ∧ a < 0xE000) ∧ c.contains a then
      match acc with
      | (x, y) :: rest => if y + 1 = a then (x, b - 1) :: rest else (a, b - 1) :: acc
      | [] => [(a, b - 1)]
    else acc
  ((points.zip points.tail).foldl (fun acc (a, b) => step acc a b) []).reverse

/-! ### Named classes -/

/-- A name as it is looked up: lower case, only ASCII, no blanks, hyphens or underscores, and no
`is` in front. -/
def normalName (name : String) : String :=
  let keep (cs : List Char) : List Char :=
    (cs.filter fun c => c.toNat < 128 ∧ c ≠ ' ' ∧ c ≠ '_' ∧ c ≠ '-').map Char.toLower
  match name.toList with
  | a :: b :: rest =>
    if (a = 'i' ∨ a = 'I') ∧ (b = 's' ∨ b = 'S') then
      let kept := keep rest
      if kept = ['c'] then "isc" else String.ofList kept
    else String.ofList (keep (a :: b :: rest))
  | cs => String.ofList (keep cs)

/-- A general category, or one of the three sets that are named like one. -/
def ofCategory? (name : String) : Option CharClass :=
  if name = "any" then some all
  else if name = "assigned" then some (.compl (.category ["Cn"]))
  else if name = "ascii" then some (.range 0 127)
  else (Text.categoriesNamed? name).map .category

/-- The class of a name: a property, a general category or a script. -/
def ofName? (name : String) : Option CharClass :=
  let name := normalName name
  let ownProperty := name ≠ "cf" ∧ name ≠ "sc" ∧ name ≠ "lc"
  if ownProperty ∧ (Text.Property.named? name).isSome then some (.property name)
  else (ofCategory? name).or ((Text.scriptNamed? name).map .script)

/-- The class of a named property with a value. -/
def ofValue? (property value : String) : Option CharClass :=
  let property := normalName property
  let value := normalName value
  if property = "generalcategory" ∨ property = "gc" then ofCategory? value
  else if property = "script" ∨ property = "sc" then (Text.scriptNamed? value).map .script
  else if property = "scriptextensions" ∨ property = "scx" then
    (Text.scriptNamed? value).map .usedWith
  else if property = "age" then (Text.versionNamed? value).map .presentIn
  else Option.none

/-- The ASCII classes that may be named between colons. -/
def ofAsciiName? (name : String) : Option CharClass :=
  let ranges (rs : List (Char × Char)) : CharClass :=
    rs.foldr (fun (a, b) acc => .union (.range a.toNat b.toNat) acc) .none
  if name = "alnum" then some (ranges [('0', '9'), ('A', 'Z'), ('a', 'z')])
  else if name = "alpha" then some (ranges [('A', 'Z'), ('a', 'z')])
  else if name = "ascii" then some (.range 0 127)
  else if name = "blank" then some (ranges [('\t', '\t'), (' ', ' ')])
  else if name = "cntrl" then some (.union (.range 0 31) (.range 127 127))
  else if name = "digit" then some (ranges [('0', '9')])
  else if name = "graph" then some (ranges [('!', '~')])
  else if name = "lower" then some (ranges [('a', 'z')])
  else if name = "print" then some (ranges [(' ', '~')])
  else if name = "punct" then some (ranges [('!', '/'), (':', '@'), ('[', '\x60'), ('\x7b', '~')])
  else if name = "space" then some (ranges [('\t', '\r'), (' ', ' ')])
  else if name = "upper" then some (ranges [('A', 'Z')])
  else if name = "word" then some (ranges [('0', '9'), ('A', 'Z'), ('_', '_'), ('a', 'z')])
  else if name = "xdigit" then some (ranges [('0', '9'), ('A', 'F'), ('a', 'f')])
  else Option.none

end CharClass

end JobExpansion
