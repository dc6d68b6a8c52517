import JobExpansion.Text.Runs
import JobExpansion.Yaml.Token.Basic

/-!
# Reading scalars

Scalars are plain, quoted or blocks. In plain and quoted ones the end of a line and the blanks
around it are folded into a space, or into the empty lines that follow it.
-/

namespace JobExpansion.Yaml

/-! ### Folding -/

/-- Blanks and line ends between two words of a scalar. -/
structure Blanks where
  /-- The blanks on the line of the first word. -/
  spaces : List Char := []
  /-- The end of that line. -/
  first : List Char := []
  /-- The ends of the empty lines after it. -/
  more : List Char := []
  /-- A line has ended. -/
  broken : Bool := false
  deriving Repr

/-- What stands for blanks and line ends in the text of a scalar. -/
def Blanks.text (b : Blanks) : List Char :=
  if b.broken then
    if b.first = ['\n'] then if b.more.isEmpty then [' '] else b.more
    else b.first ++ b.more
  else b.spaces

/-- The blanks and line ends at a place. In a plain scalar, a tab may not stand to the left of its
indentation. -/
def readBlanks (minColumn : Option Nat) : Nat → Blanks → Cursor → Except Fault (Blanks × Cursor)
  | 0, b, c => .ok (b, c)
  | fuel + 1, b, c =>
    match c.char? with
    | none => .ok (b, c)
    | some d =>
      if isBlank d then
        if d = '\t' ∧ b.broken ∧ minColumn.any (c.column < ·) then .error .tab
        else
          readBlanks minColumn fuel (if b.broken then b else { b with spaces := b.spaces ++ [d] })
            (c.advance 1)
      else if isBreak d then
        let b := if b.broken then { b with more := b.more ++ c.breakText }
          else { b with spaces := [], first := c.breakText, broken := true }
        readBlanks minColumn fuel b c.nextLine
      else .ok (b, c)

/-! ### Quoted scalars -/

/-- The character of a hexadecimal escape of some width. -/
def readCodePoint (width : Nat) (cs : List Char) : Except Fault Char :=
  let digits := cs.take width
  let isHex (c : Char) := c.isDigit || ('a' ≤ c && c ≤ 'f') || ('A' ≤ c && c ≤ 'F')
  let n := digits.foldl (fun n c => 16 * n + Text.hexValue c) 0
  if digits.length = width ∧ digits.all isHex then
    if h : n.isValidChar then .ok (Char.ofNatAux n h) else .error .escape
  else .error .escape

/-- The character of an escape after its backslash, and the number of characters it takes. -/
def readEscape : List Char → Except Fault (Char × Nat)
  | [] => .error .escape
  | c :: cs =>
    match c with
    | '0' => .ok ('\x00', 1)
    | 'a' => .ok ('\x07', 1)
    | 'b' => .ok ('\x08', 1)
    | 't' | '\t' => .ok ('\t', 1)
    | 'n' => .ok ('\n', 1)
    | 'v' => .ok ('\x0b', 1)
    | 'f' => .ok ('\x0c', 1)
    | 'r' => .ok ('\r', 1)
    | 'e' => .ok ('\x1b', 1)
    | ' ' => .ok (' ', 1)
    | '"' => .ok ('"', 1)
    | '/' => .ok ('/', 1)
    | '\\' => .ok ('\\', 1)
    | 'N' => .ok ('\x85', 1)
    | '_' => .ok ('\xa0', 1)
    | 'L' => .ok ('\u2028', 1)
    | 'P' => .ok ('\u2029', 1)
    | 'x' => (readCodePoint 2 cs).map (·, 3)
    | 'u' => (readCodePoint 4 cs).map (·, 5)
    | 'U' => (readCodePoint 8 cs).map (·, 9)
    | _ => .error .escape

/-- The characters of a quoted scalar as far as a blank, the end of a line or the closing quote.
The flag tells that a backslash ended the line. -/
def readQuotedWord (quote : Char) :
    Nat → List Char → Cursor → Except Fault (List Char × Cursor × Bool)
  | 0, acc, c => .ok (acc, c, false)
  | fuel + 1, acc, c =>
    match c.char? with
    | none => .ok (acc, c, false)
    | some d =>
      if isBlank d ∨ isBreak d then .ok (acc, c, false)
      else if d = quote then
        if quote = '\'' ∧ c.at? 1 = some '\'' then
          readQuotedWord quote fuel ('\'' :: acc) (c.advance 2)
        else .ok (acc, c, false)
      else if d = '\\' ∧ quote = '"' then
        if (c.at? 1).any isBreak then .ok (acc, (c.advance 1).nextLine, true)
        else
          match readEscape (c.rest.drop 1) with
          | .error e => .error e
          | .ok (e, n) => readQuotedWord quote fuel (e :: acc) (c.advance (n + 1))
      else readQuotedWord quote fuel (d :: acc) (c.advance 1)

/-- The words of a quoted scalar as far as its closing quote, and the place after it. -/
def readQuotedFrom (quote : Char) : Nat → List Char → Cursor → Except Fault (List Char × Cursor)
  | 0, _, _ => .error .unterminated
  | fuel + 1, acc, c => do
    if c.atDocumentMarker ∨ c.rest.isEmpty then .error .unterminated
    else
      let (acc, c, continued) ← readQuotedWord quote c.rest.length acc c
      if c.char? = some quote then return (acc.reverse, c.advance 1)
      else
        let (blanks, c) ← readBlanks none c.rest.length { broken := continued } c
        readQuotedFrom quote fuel (blanks.text.reverse ++ acc) c

/-- A quoted scalar, at its opening quote. -/
def readQuoted (quote : Char) (c : Cursor) : Except Fault (Token × Cursor) := do
  let (text, c) ← readQuotedFrom quote (c.rest.length + 1) [] (c.advance 1)
  return (.scalar (String.ofList text) false, c)

/-! ### Plain scalars -/

/-- The flow indicators. -/
def isFlowIndicator (c : Char) : Bool := c = ',' || c = '[' || c = ']' || c = '\x7b' || c = '\x7d'

/-- The characters of a plain scalar as far as a gap or an indicator that ends it. -/
def plainWord (inFlow : Bool) : List Char → Except Fault (List Char)
  | [] => .ok []
  | c :: cs =>
    if isGap (some c) then .ok []
    else if inFlow ∧ c = ':' ∧ cs.head?.any (fun d => d = '?' || isFlowIndicator d) then
      .error .misplaced
    else if c = ':' ∧ isGap cs.head? then .ok []
    else if inFlow ∧ isFlowIndicator c then .ok []
    else (plainWord inFlow cs).map (c :: ·)

/-- The words of a plain scalar, the place after it, and whether a line ended there. -/
def readPlainFrom (inFlow : Bool) (minColumn : Nat) :
    Nat → List Char → Blanks → Cursor → Except Fault (List Char × Cursor × Bool)
  | 0, acc, pending, c => .ok (acc, c, pending.broken)
  | fuel + 1, acc, pending, c => do
    if c.atDocumentMarker ∨ c.char? = some '#' then return (acc, c, pending.broken)
    let word ← plainWord inFlow c.rest
    let (acc, after) := if word.isEmpty then (acc, c)
      else (word.reverse ++ pending.text.reverse ++ acc, c.advance word.length)
    let pending := if word.isEmpty then pending else {}
    match after.char? with
    | none => return (acc, after, pending.broken)
    | some d =>
      if isBlank d ∨ isBreak d then
        let (blanks, after) ← readBlanks (some minColumn) after.rest.length pending after
        if !inFlow ∧ after.column < minColumn then return (acc, after, blanks.broken)
        else readPlainFrom inFlow minColumn fuel acc blanks after
      else return (acc, after, pending.broken)

/-- A plain scalar, the place after it, and whether a line ended there. -/
def readPlain (inFlow : Bool) (minColumn : Nat) (c : Cursor) :
    Except Fault (Token × Cursor × Bool) := do
  let (acc, after, broken) ← readPlainFrom inFlow minColumn (c.rest.length + 1) [] {} c
  return (.scalar (String.ofList acc.reverse) true, after, broken)

/-! ### Block scalars -/

/-- What happens to the line ends after a block scalar. -/
inductive Chomping where
  | strip | clip | keep
  deriving Repr, DecidableEq

/-- The header of a block scalar after its indicator: chomping and additional indentation. -/
def readBlockHeader (c : Cursor) : Except Fault (Chomping × Option Nat × Cursor) :=
  let chomping (d : Option Char) : Option Chomping :=
    if d = some '+' then some .keep else if d = some '-' then some .strip else none
  let increment (d : Option Char) : Option Nat :=
    d.bind fun d => if d.isDigit then some (d.toNat - 48) else none
  let done (ch : Chomping) (n : Option Nat) (used : Nat) :=
    if n = some 0 then .error .blockHeader else .ok (ch, n, c.advance used)
  match chomping c.char?, increment c.char? with
  | some ch, _ =>
    match increment (c.at? 1) with
    | some n => done ch (some n) 2
    | none => done ch none 1
  | none, some n =>
    match chomping (c.at? 1) with
    | some ch => done ch (some n) 2
    | none => done .clip (some n) 1
  | none, none => done .clip none 0

/-- The indentation and the empty lines at a place of a block scalar; an indentation of 0 is not
known yet. Gives the line ends and the widest indentation seen. -/
def readBlockBreaks (indent : Nat) :
    Nat → List Char → Nat → Cursor → Except Fault (List Char × Nat × Cursor)
  | 0, breaks, widest, c => .ok (breaks, widest, c)
  | fuel + 1, breaks, widest, c =>
    let spaces := (c.rest.takeWhile (· = ' ')).length
    let c := c.advance (if indent = 0 then spaces else min spaces (indent - c.column))
    let widest := max widest c.column
    if (indent = 0 ∨ c.column < indent) ∧ c.char? = some '\t' then .error .tab
    else if c.char?.any isBreak then
      readBlockBreaks indent fuel (breaks ++ c.breakText) widest c.nextLine
    else .ok (breaks, widest, c)

/-- The text of a block scalar read so far. -/
structure BlockText where
  /-- The characters, the last one first. -/
  text : List Char := []
  /-- The end of the last line. -/
  last : List Char := []
  /-- The ends of the empty lines after it. -/
  more : List Char := []
  /-- The last line started with a blank. -/
  indented : Bool := false

/-- The lines of a block scalar of known indentation. -/
def readBlockLines (literal : Bool) (indent : Nat) :
    Nat → BlockText → Cursor → Except Fault (BlockText × Cursor)
  | 0, b, c => .ok (b, c)
  | fuel + 1, b, c =>
    if c.column ≠ indent ∨ c.rest.isEmpty then .ok (b, c)
    else
      let indented := c.char?.any isBlank
      let joint :=
        if !literal ∧ b.last = ['\n'] ∧ !b.indented ∧ !indented then
          if b.more.isEmpty then [' '] else b.more
        else b.last ++ b.more
      let line := c.rest.takeWhile fun d => !isBreak d
      let after := c.advance line.length
      match readBlockBreaks indent after.rest.length [] 0 after.nextLine with
      | .error e => .error e
      | .ok (more, _, next) =>
        readBlockLines literal indent fuel
          ⟨line.reverse ++ joint.reverse ++ b.text, after.breakText, more, indented⟩ next

/-- A block scalar, at its indicator, inside a block of some indentation. -/
def readBlock (literal : Bool) (outer : Int) (c : Cursor) : Except Fault (Token × Cursor) := do
  let (chomping, increment, c) ← readBlockHeader (c.advance 1)
  let c := c.skipComment
  if !isLineEnd c.char? then .error .blockHeader
  else
    let c := c.nextLine
    let base := outer.toNat
    let known := match increment with
      | some n => if 0 ≤ outer then base + n else n
      | none => 0
    let (more, widest, c) ← readBlockBreaks known c.rest.length [] 0 c
    let indent := if known = 0 then max (max widest (outer + 1).toNat) 1 else known
    let (b, c) ← readBlockLines literal indent (c.rest.length + 1) { more := more } c
    let tail := match chomping with
      | .strip => []
      | .clip => b.last
      | .keep => b.last ++ b.more
    return (.scalar (String.ofList (tail.reverse ++ b.text).reverse) false, c)

end JobExpansion.Yaml
