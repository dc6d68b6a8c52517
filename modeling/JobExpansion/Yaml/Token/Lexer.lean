import JobExpansion.Yaml.Token.Scalar

/-!
# Reading tokens

Tokens are read from left to right. A token that may turn out to start a key is remembered until
its line ends or a colon follows; the tokens for the key and, where the indentation grows, for the
start of a mapping are then put in front of it.
-/

namespace JobExpansion.Yaml

/-- A token that may turn out to be a key. -/
structure KeyCandidate where
  /-- Something else than a key cannot stand there. -/
  required : Bool
  /-- The number of tokens before it. -/
  position : Nat
  cursor : Cursor
  deriving Repr

/-- The tokens read so far and what decides how to read on. -/
structure Lexer where
  cursor : Cursor
  tokens : Array Token := #[]
  /-- The indentation of the block being read; -1 outside. -/
  indent : Int := -1
  /-- The indentations of the blocks around it. -/
  outer : List Int := []
  /-- A key may start here. -/
  keyAllowed : Bool := true
  /-- The candidate of each flow collection being read, the innermost first, and at last that of
  the block. -/
  candidates : List (Option KeyCandidate) := [none]
  deriving Repr

namespace Lexer

/-- Inside a flow collection. -/
def inFlow (l : Lexer) : Bool := 1 < l.candidates.length

/-- One more token. -/
def push (t : Token) (l : Lexer) : Lexer := { l with tokens := l.tokens.push t }

/-- A token in front of others. -/
def insertAt (n : Nat) (t : Token) (l : Lexer) : Lexer :=
  { l with tokens := l.tokens.insertIdxIfInBounds n t }

/-- A token of some characters. -/
def take (t : Token) (n : Nat) (l : Lexer) : Lexer :=
  { l.push t with cursor := l.cursor.advance n }

/-- The candidate at hand can no longer be a key. -/
def dropCandidate (l : Lexer) : Except Fault Lexer :=
  match l.candidates with
  | some k :: ks =>
    if k.required then .error .keyWithoutColon else .ok { l with candidates := none :: ks }
  | _ => .ok l

/-- A candidate that is on an earlier line or too far back can no longer be a key. -/
def dropStale (l : Lexer) : Except Fault Lexer := do
  let fresh (k : KeyCandidate) : Bool :=
    l.cursor.line ≤ k.cursor.line && l.cursor.index ≤ k.cursor.index + 1024
  let ks ← l.candidates.mapM fun k? =>
    match k? with
    | some k =>
      if fresh k then pure (some k)
      else if k.required then .error .keyWithoutColon
      else pure none
    | none => pure none
  return { l with candidates := ks }

/-- The next token may be a key. -/
def noteCandidate (l : Lexer) : Except Fault Lexer := do
  if !l.keyAllowed then return l
  let required := !l.inFlow && l.indent = l.cursor.column
  let l ← l.dropCandidate
  return { l with candidates := some ⟨required, l.tokens.size, l.cursor⟩ :: l.candidates.tail }

/-- A block starts at a column if that is to the right of the block being read. -/
def openBlock (column : Nat) (at? : Option Nat) (t : Token) (l : Lexer) : Lexer :=
  if l.inFlow ∨ (column : Int) ≤ l.indent then l
  else
    let l := { l with outer := l.indent :: l.outer, indent := column }
    match at? with
    | some n => l.insertAt n t
    | none => l.push t

/-- The blocks to the right of a column end. -/
def closeBlocks (column : Int) (l : Lexer) : Lexer :=
  if l.inFlow then l
  else
    let rec go : List Int → Int → Array Token → List Int × Int × Array Token
      | [], indent, ts => ([], indent, ts)
      | up :: outer, indent, ts =>
        if column < indent then go outer up (ts.push .blockEnd) else (up :: outer, indent, ts)
    let (outer, indent, ts) := go l.outer l.indent l.tokens
    { l with outer := outer, indent := indent, tokens := ts }

/-- Blanks, comments and line ends before the next token. A tab may not stand where a key may. -/
def skipToToken : Nat → Lexer → Lexer
  | 0, l => l
  | fuel + 1, l =>
    let c := l.cursor
    let c := if c.index = 0 ∧ c.char? = some '\ufeff' then c.advance 1 else c
    let tabs := l.inFlow || !l.keyAllowed
    let c := c.skipWhile fun d => d = ' ' || (tabs && d = '\t')
    let c := if c.char? = some '#' then c.skipLine else c
    if c.char?.any isBreak then
      skipToToken fuel { l with cursor := c.nextLine, keyAllowed := l.keyAllowed || !l.inFlow }
    else { l with cursor := c }

/-! ### Directives, anchors and tags -/

/-- The digits of a version number. -/
def readVersionNumber (c : Cursor) : Except Fault (Nat × Cursor) :=
  let digits := c.rest.takeWhile Char.isDigit
  if digits.isEmpty ∨ 9 < digits.length then .error .directive
  else .ok (digits.foldl (fun n d => 10 * n + (d.toNat - 48)) 0, c.advance digits.length)

/-- A handle of tags, with its exclamation marks; in a directive it ends with one. -/
def readTagHandle (inDirective : Bool) (c : Cursor) : Except Fault (String × Cursor) :=
  if c.char? ≠ some '!' then .error .tag
  else
    let word := (c.rest.drop 1).takeWhile isWord
    let after := c.advance (word.length + 1)
    if after.char? = some '!' then .ok (String.ofList ('!' :: word ++ ['!']), after.advance 1)
    else if inDirective ∧ !word.isEmpty then .error .tag
    else .ok (String.ofList ('!' :: word), after)

/-- A byte written as a percent sign and two hexadecimal digits. -/
def readByte : List Char → Option Nat
  | '%' :: a :: b :: _ =>
    let isHex (c : Char) := c.isDigit || ('a' ≤ c && c ≤ 'f') || ('A' ≤ c && c ≤ 'F')
    if isHex a && isHex b then some (16 * Text.hexValue a + Text.hexValue b) else none
  | _ => none

/-- The trailing bytes of an escaped character. -/
def readTrailing : Nat → Nat → List Char → Option Nat
  | 0, value, _ => some value
  | n + 1, value, cs =>
    match readByte cs with
    | some b => if b / 64 = 2 then readTrailing n (64 * value + b % 64) (cs.drop 3) else none
    | none => none

/-- A character written as the bytes of its encoding, and the number of those bytes. -/
def readEscapedChar (cs : List Char) : Option (Char × Nat) := do
  let b ← readByte cs
  let (width, lead) ←
    if b < 0x80 then some (1, b)
    else if b / 32 = 6 then some (2, b % 32)
    else if b / 16 = 14 then some (3, b % 16)
    else if b / 8 = 30 then some (4, b % 8)
    else none
  let value ← readTrailing (width - 1) lead (cs.drop 3)
  if h : value.isValidChar then some (Char.ofNatAux value h, width) else none

/-- A character of a tag. -/
def isUriChar (verbatim : Bool) (c : Char) : Bool :=
  isWord c || ";/?:@&=+$.!~*'()%".toList.contains c || (verbatim && (c = ',' || c = '[' || c = ']'))

/-- The characters of a tag. -/
def readUri (verbatim : Bool) : Nat → List Char → Cursor → Except Fault (List Char × Cursor)
  | 0, acc, c => .ok (acc.reverse, c)
  | fuel + 1, acc, c =>
    match c.char? with
    | some d =>
      if isUriChar verbatim d then
        if d = '%' then
          match readEscapedChar c.rest with
          | some (e, width) => readUri verbatim fuel (e :: acc) (c.advance (3 * width))
          | none => .error .tag
        else readUri verbatim fuel (d :: acc) (c.advance 1)
      else .ok (acc.reverse, c)
    | none => .ok (acc.reverse, c)

/-- The characters of a tag after what is already known of it; there is at least one. -/
def readTagUri (verbatim : Bool) (known : List Char) (c : Cursor) :
    Except Fault (String × Cursor) := do
  let (text, c) ← readUri verbatim c.rest.length [] c
  if text.isEmpty ∧ known.isEmpty then .error .tag
  else return (String.ofList (known.drop 1 ++ text), c)

/-- A tag, at its exclamation mark. -/
def readTag (inFlow : Bool) (c : Cursor) : Except Fault (Token × Cursor) := do
  let (t, c) ← show Except Fault (Token × Cursor) from
    if c.at? 1 = some '<' then do
      let (suffix, c) ← readTagUri true [] (c.advance 2)
      if c.char? = some '>' then return (.tag "" suffix, c.advance 1) else .error .tag
    else do
      let (handle, c) ← readTagHandle false c
      if 2 ≤ handle.length ∧ handle.endsWith "!" then
        let (suffix, c) ← readTagUri false [] c
        return (.tag handle suffix, c)
      else
        let (suffix, c) ← readTagUri false handle.toList c
        return (if suffix.isEmpty then .tag "" "!" else .tag "!" suffix, c)
  if isGap c.char? ∨ (inFlow ∧ c.char? = some ',') then return (t, c) else .error .tag

/-- The name of an anchor or an alias, after its indicator. -/
def readAnchorName (c : Cursor) : Except Fault (String × Cursor) :=
  let name := c.rest.takeWhile isWord
  let after := c.advance name.length
  let ends := isGap after.char? || after.char?.any fun d => "?:,]\x7d%@\x60".toList.contains d
  if name.isEmpty ∨ !ends then .error .anchor else .ok (String.ofList name, after)

/-- A directive, at its percent sign, with the rest of its line. -/
def readDirective (c : Cursor) : Except Fault (Token × Cursor) := do
  let c := c.advance 1
  let name := String.ofList (c.rest.takeWhile isWord)
  let c := c.advance name.length
  if !isGap c.char? then .error .directive
  else
    let c := c.skipWhile isBlank
    let (t, c) ← show Except Fault (Token × Cursor) from
      if name = "YAML" then do
        let (major, c) ← readVersionNumber c
        if c.char? ≠ some '.' then .error .directive
        else
          let (minor, c) ← readVersionNumber (c.advance 1)
          return (.version major minor, c)
      else if name = "TAG" then do
        let (handle, c) ← readTagHandle true c
        if !c.char?.any isBlank then .error .directive
        else
          let (start, c) ← readTagUri true [] (c.skipWhile isBlank)
          if isGap c.char? then return (.tagDirective handle start, c) else .error .directive
      else .error .directive
    let c := c.skipComment
    if isLineEnd c.char? then return (t, c.nextLine) else .error .directive

/-! ### One token -/

/-- The end of all blocks and of the candidate at hand, before a directive or a document marker. -/
def endBlocks (l : Lexer) : Except Fault Lexer := do
  return { ← (l.closeBlocks (-1)).dropCandidate with keyAllowed := false }

/-- The start of a flow collection. -/
def openFlow (t : Token) (l : Lexer) : Except Fault Lexer := do
  let l ← l.noteCandidate
  return { l.take t 1 with candidates := none :: l.candidates, keyAllowed := true }

/-- The end of a flow collection. -/
def closeFlow (t : Token) (l : Lexer) : Except Fault Lexer := do
  let l ← l.dropCandidate
  let candidates := if l.inFlow then l.candidates.tail else l.candidates
  return { l.take t 1 with candidates := candidates, keyAllowed := false }

/-- An entry of a block sequence. -/
def blockEntry (l : Lexer) : Except Fault Lexer := do
  if !l.inFlow ∧ !l.keyAllowed then .error .entryNotAllowed
  else
    let l ← (l.openBlock l.cursor.column none .blockSequenceStart).dropCandidate
    return { l.take .blockEntry 1 with keyAllowed := true }

/-- A key after a question mark. -/
def complexKey (l : Lexer) : Except Fault Lexer := do
  if !l.inFlow ∧ !l.keyAllowed then .error .keyNotAllowed
  else
    let l ← (l.openBlock l.cursor.column none .blockMappingStart).dropCandidate
    return { l.take .key 1 with keyAllowed := !l.inFlow }

/-- A value after a colon. -/
def value (l : Lexer) : Except Fault Lexer :=
  match l.candidates with
  | some k :: ks =>
    let l := (l.insertAt k.position .key).openBlock k.cursor.column (some k.position)
      .blockMappingStart
    .ok { l.take .value 1 with candidates := none :: ks, keyAllowed := false }
  | _ =>
    if !l.inFlow ∧ !l.keyAllowed then .error .valueNotAllowed
    else
      let l := l.openBlock l.cursor.column none .blockMappingStart
      .ok { l.take .value 1 with keyAllowed := !l.inFlow }

/-- A token read by itself that may start a key. -/
def nodeToken (read : Cursor → Except Fault (Token × Cursor)) (l : Lexer) : Except Fault Lexer := do
  let l ← l.noteCandidate
  let (t, c) ← read l.cursor
  return { l.push t with cursor := c, keyAllowed := false }

/-- A plain scalar. -/
def plain (l : Lexer) : Except Fault Lexer := do
  let l ← l.noteCandidate
  let (t, c, broken) ← readPlain l.inFlow (l.indent + 1).toNat l.cursor
  return { l.push t with cursor := c, keyAllowed := broken }

/-- A block scalar. -/
def block (literal : Bool) (l : Lexer) : Except Fault Lexer := do
  let l ← l.dropCandidate
  let (t, c) ← readBlock literal l.indent l.cursor
  return { l.push t with cursor := c, keyAllowed := true }

/-- A plain scalar may start with this character, another one following it. -/
def startsPlain (inFlow : Bool) (d : Char) (next : Option Char) : Bool :=
  (!isGap (some d) && !("-?:,[]\x7b\x7d#&*!|>'\"%@\x60".toList.contains d))
    || (d = '-' && !next.any isBlank)
    || (!inFlow && (d = '?' || d = ':') && !isGap next)

/-- The next token, which starts with this character. -/
def readToken (d : Char) (l : Lexer) : Except Fault Lexer :=
  let c := l.cursor
  let next := c.at? 1
  if c.column = 0 ∧ d = '%' then do
    let l ← l.endBlocks
    let (t, c) ← readDirective c
    return { l.push t with cursor := c }
  else if c.atMarker '-' then do return (← l.endBlocks).take .documentStart 3
  else if c.atMarker '.' then do return (← l.endBlocks).take .documentEnd 3
  else if d = '[' then l.openFlow .flowSequenceStart
  else if d = '\x7b' then l.openFlow .flowMappingStart
  else if d = ']' then l.closeFlow .flowSequenceEnd
  else if d = '\x7d' then l.closeFlow .flowMappingEnd
  else if d = ',' then do return { (← l.dropCandidate).take .flowEntry 1 with keyAllowed := true }
  else if d = '-' ∧ isGap next then l.blockEntry
  else if d = '?' ∧ (l.inFlow ∨ isGap next) then l.complexKey
  else if d = ':' ∧ (l.inFlow ∨ isGap next) then l.value
  else if d = '*' then
    l.nodeToken fun c => (readAnchorName (c.advance 1)).map fun (name, c) => (.alias name, c)
  else if d = '&' then
    l.nodeToken fun c => (readAnchorName (c.advance 1)).map fun (name, c) => (.anchor name, c)
  else if d = '!' then l.nodeToken (readTag l.inFlow)
  else if d = '|' ∧ !l.inFlow then l.block true
  else if d = '>' ∧ !l.inFlow then l.block false
  else if d = '\'' then l.nodeToken (readQuoted '\'')
  else if d = '"' then l.nodeToken (readQuoted '"')
  else if startsPlain l.inFlow d next then l.plain
  else .error .token

/-- All tokens from a place on. -/
def readAll : Nat → Lexer → Except Fault Lexer
  | 0, l => .ok l
  | fuel + 1, l => do
    let l ← (l.skipToToken (l.cursor.rest.length + 1)).dropStale
    let l := l.closeBlocks l.cursor.column
    match l.cursor.char? with
    | some d => readAll fuel (← l.readToken d)
    | none => l.endBlocks

end Lexer

/-- The tokens of a text. -/
def Token.read (text : String) : Except Fault (List Token) := do
  let cs := text.toList
  if cs.all isAllowed then
    let l ← Lexer.readAll (cs.length + 1) { cursor := ⟨cs, 0, 0, 0⟩ }
    return l.tokens.toList
  else .error .character

end JobExpansion.Yaml
