/-!
# Places in a YAML text

A `Cursor` is a place in a text with the characters from there on, its distance from the start,
its line and its column. Five characters end a line, of which all but two are read as a line feed.
-/

namespace JobExpansion.Yaml

/-- A character that may stand in a YAML text. -/
def isAllowed (c : Char) : Bool :=
  let n := c.toNat
  n = 9 || n = 10 || n = 13 || (0x20 ≤ n && n ≤ 0x7E) || n = 0x85 || (0xA0 ≤ n && n ≤ 0xD7FF)
    || (0xE000 ≤ n && n ≤ 0xFFFD) || 0x10000 ≤ n

/-- A character that ends a line. -/
def isBreak (c : Char) : Bool :=
  c = '\n' || c = '\r' || c = '\x85' || c = '\u2028' || c = '\u2029'

/-- A space or a tab. -/
def isBlank (c : Char) : Bool := c = ' ' || c = '\t'

/-- A letter, a digit, an underscore or a hyphen. -/
def isWord (c : Char) : Bool := c.isAlphanum || c = '_' || c = '-'

/-- A blank, the end of a line or the end of the text. -/
def isGap : Option Char → Bool
  | none => true
  | some c => isBlank c || isBreak c

/-- The end of a line or of the text. -/
def isLineEnd : Option Char → Bool
  | none => true
  | some c => isBreak c

/-- A place in a text. -/
structure Cursor where
  /-- The characters from here on. -/
  rest : List Char
  index : Nat := 0
  line : Nat := 0
  column : Nat := 0
  deriving Repr, Inhabited

namespace Cursor

/-- The character here. -/
def char? (c : Cursor) : Option Char := c.rest.head?

/-- The character some places on. -/
def at? (c : Cursor) (n : Nat) : Option Char := c.rest[n]?

/-- The place some characters of the same line on. -/
def advance (c : Cursor) (n : Nat) : Cursor :=
  { c with rest := c.rest.drop n, index := c.index + n, column := c.column + n }

/-- The place after the characters for which a test holds; they are all on one line. -/
def skipWhile (test : Char → Bool) (c : Cursor) : Cursor :=
  c.advance (c.rest.takeWhile test).length

/-- The place after the end of a line; a carriage return and a line feed end one line. -/
def nextLine (c : Cursor) : Cursor :=
  match c.rest with
  | '\r' :: '\n' :: rest => ⟨rest, c.index + 2, c.line + 1, 0⟩
  | d :: rest => if isBreak d then ⟨rest, c.index + 1, c.line + 1, 0⟩ else c
  | [] => c

/-- The text of the end of a line here. -/
def breakText (c : Cursor) : List Char :=
  match c.rest with
  | d :: _ =>
    if d = '\u2028' ∨ d = '\u2029' then [d] else if isBreak d then ['\n'] else []
  | [] => []

/-- The rest of the line, as far as its end. -/
def skipLine (c : Cursor) : Cursor := c.skipWhile fun d => !isBreak d

/-- Blanks and a comment after them. -/
def skipComment (c : Cursor) : Cursor :=
  let c := c.skipWhile isBlank
  if c.char? = some '#' then c.skipLine else c

/-- Three equal characters at the start of a line, with a gap behind them. -/
def atMarker (c : Cursor) (d : Char) : Bool :=
  c.column = 0 && c.at? 0 = some d && c.at? 1 = some d && c.at? 2 = some d && isGap (c.at? 3)

/-- The start or the end of a document. -/
def atDocumentMarker (c : Cursor) : Bool := c.atMarker '-' || c.atMarker '.'

end Cursor

end JobExpansion.Yaml
