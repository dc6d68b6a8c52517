import JobExpansion.Text.Runs
import JobExpansion.Toml.Basic

/-!
# Quoted TOML texts

Texts between quotes may have escapes, texts between apostrophes have none. Three of either stand
around texts of several lines, in which one or two may occur, also right before the end. A text is
first cut out and then its escapes are read; lines end with a line feed alone.
-/

namespace JobExpansion.Toml

/-! ### Cutting out -/

/-- A text that was read, and what follows it. -/
abbrev Quoted := Option (List Char × List Char)

/-- Characters in front of a text. -/
def Quoted.push (cs : List Char) (q : Quoted) : Quoted :=
  q.map fun (text, rest) => (cs ++ text, rest)

/-- The characters up to a mark; one after a backslash does not count, if there are escapes. -/
def upTo (mark : Char) (escapes : Bool) : List Char → Quoted
  | [] => none
  | [c] => if c = mark then some ([], []) else none
  | c :: d :: cs =>
    if c = mark then some ([], d :: cs)
    else if escapes && c = '\\' then Quoted.push [c, d] (upTo mark escapes cs)
    else Quoted.push [c] (upTo mark escapes (d :: cs))

/-- The characters up to three marks in a row, or up to the last three of at most five. -/
def upToThree (mark : Char) (escapes : Bool) : List Char → Quoted
  | [] | [_] => none
  | c :: d :: cs =>
    if [mark, mark, mark].isPrefixOf (c :: d :: cs) then
      let rest := cs.drop 1
      let more := min 2 (rest.takeWhile (· = mark)).length
      some (List.replicate more mark, rest.drop more)
    else if escapes && c = '\\' then Quoted.push [c, d] (upToThree mark escapes cs)
    else Quoted.push [c] (upToThree mark escapes (d :: cs))

/-! ### Escapes -/

/-- The character of an escape. -/
def escape? : Char → Option Char
  | 'b' => some '\x08'
  | 't' => some '\t'
  | 'n' => some '\n'
  | 'f' => some '\x0c'
  | 'r' => some '\r'
  | '"' => some '"'
  | '\\' => some '\\'
  | _ => none

/-- A hexadecimal digit. -/
def isHexDigit (c : Char) : Bool :=
  c.isDigit || ('a' ≤ c && c ≤ 'f') || ('A' ≤ c && c ≤ 'F')

/-- The character with a number. -/
def codePoint? (digits : List Char) : Option Char :=
  let n := digits.foldl (fun n c => 16 * n + Text.hexValue c) 0
  if digits.all isHexDigit then
    if h : n.isValidChar then some (Char.ofNatAux n h) else none
  else none

/-- A blank or the end of a line. -/
def isGap (c : Char) : Bool := isBlank c || c = '\n'

/-- What follows the end of a line that a backslash hides, and the gap after it. -/
def afterHidden? (cs : List Char) : Option (List Char) :=
  match cs.dropWhile isBlank with
  | '\n' :: rest => some (rest.dropWhile isGap)
  | _ => none

theorem length_afterHidden? {cs rest : List Char} (h : afterHidden? cs = some rest) :
    rest.length < cs.length := by
  unfold afterHidden? at h
  have hd := (List.dropWhile_sublist (l := cs) isBlank).length_le
  split at h
  · rename_i r hr
    obtain rfl := Option.some.inj h
    have := (List.dropWhile_sublist (l := r) isGap).length_le
    rw [hr] at hd
    simp only [List.length_cons] at hd
    omega
  · cases h

/-- A text with its escapes read; only one of several lines may hide the end of a line. -/
def unescape (lines : Bool) (cs : List Char) : Option (List Char) :=
  match cs with
  | [] => some []
  | '\\' :: 'u' :: a :: b :: c :: d :: rest => do
    return (← codePoint? [a, b, c, d]) :: (← unescape lines rest)
  | '\\' :: 'U' :: a :: b :: c :: d :: e :: f :: g :: h :: rest => do
    return (← codePoint? [a, b, c, d, e, f, g, h]) :: (← unescape lines rest)
  | '\\' :: e :: rest =>
    match escape? e with
    | some c => (unescape lines rest).map (c :: ·)
    | none =>
      match _h : afterHidden? (e :: rest) with
      | some rest' => if lines then unescape lines rest' else none
      | none => none
  | c :: rest =>
    if c ≠ '\\' && (isText c || (lines && c = '\n')) then (unescape lines rest).map (c :: ·)
    else none
termination_by cs.length
decreasing_by
  all_goals simp_wf
  any_goals omega
  have := length_afterHidden? ‹_›
  simp only [List.length_cons] at this
  omega

/-- A text without escapes, if all its characters may stand there. -/
def plain (lines : Bool) (cs : List Char) : Option (List Char) :=
  if cs.all fun c => isText c || (lines && c = '\n') then some cs else none

/-! ### Quoted texts -/

/-- The characters of a text of several lines; the end of the line right at its start does not
count. -/
def firstLine : List Char → List Char
  | '\n' :: cs => cs
  | cs => cs

/-- A text that is read by some rule. -/
def Quoted.read (f : List Char → Option (List Char)) (q : Quoted) : Quoted :=
  q.bind fun (raw, rest) => (f raw).map (·, rest)

/-- The text on one line between the marks at the start of some characters. -/
def readQuoted : List Char → Quoted
  | '"' :: cs => (upTo '"' true cs).read (unescape false)
  | '\'' :: cs => (upTo '\'' false cs).read (plain false)
  | _ => none

/-- The text on one or more lines between the marks at the start of some characters. -/
def readQuotedLines : List Char → Quoted
  | '"' :: '"' :: '"' :: cs => (upToThree '"' true (firstLine cs)).read (unescape true)
  | '\'' :: '\'' :: '\'' :: cs => (upToThree '\'' false (firstLine cs)).read (plain true)
  | cs => readQuoted cs

end JobExpansion.Toml
