import JobExpansion.Pattern.Syntax

/-!
# Reading patterns

A pattern is read from left to right with a stack of open groups; a bracketed class is read the
same way with a stack of open classes. Flags hold from where they are set to the end of their
group. `Pattern.read` gives the expression, or the fault that makes the text no pattern.
-/

namespace JobExpansion

namespace Pattern

/-- Why a text is no pattern. -/
inductive Fault where
  | groupUnopened
  | groupUnclosed
  | groupName
  | lookAround
  | flags
  | repetitionMissing
  | repetitionCount
  | escape
  | backreference
  | codePoint
  | property
  | classUnclosed
  | classRange
  | classEscape
  | wordBoundary
  | invalidText
  | unicodeNeeded
  | nestedTooDeeply
  | tooBig
  deriving Repr, DecidableEq, Inhabited

/-- The wording of a fault. -/
def Fault.message : Fault → String
  | .groupUnopened => "unopened group"
  | .groupUnclosed => "unclosed group"
  | .groupName => "invalid capture group name"
  | .lookAround => "look-around is not supported"
  | .flags => "invalid flags"
  | .repetitionMissing => "repetition operator missing expression"
  | .repetitionCount => "invalid repetition count"
  | .escape => "unrecognized escape sequence"
  | .backreference => "backreferences are not supported"
  | .codePoint => "invalid hexadecimal escape"
  | .property => "unknown property"
  | .classUnclosed => "unclosed character class"
  | .classRange => "invalid character class range"
  | .classEscape => "invalid escape sequence in character class"
  | .wordBoundary => "invalid word boundary assertion"
  | .invalidText => "pattern can match invalid text"
  | .unicodeNeeded => "not allowed when Unicode mode is off"
  | .nestedTooDeeply => "too deeply nested"
  | .tooBig => "compiled pattern is too big"

/-- What the flags say at some place of a pattern. -/
structure Flags where
  ignoreCase : Bool := false
  multiLine : Bool := false
  dotAll : Bool := false
  crlf : Bool := false
  unicode : Bool := true
  /-- Blanks and comments in the pattern do not count. -/
  verbose : Bool := false
  deriving Repr, DecidableEq

/-- The characters after blanks and comments. -/
def dropComments : Bool → List Char → List Char
  | _, [] => []
  | true, c :: cs => dropComments (c ≠ '\n') cs
  | false, c :: cs =>
    if Text.isBlank c then dropComments false cs
    else if c = '#' then dropComments true cs
    else c :: cs

/-- The characters at which reading goes on, blanks and comments left out if they do not count. -/
def skip (flags : Flags) (cs : List Char) : List Char :=
  if flags.verbose then dropComments false cs else cs

/-- The text as far as a delimiter, and the characters from the delimiter on. -/
def spanUntil (stop : Char) (cs : List Char) : List Char × List Char :=
  (cs.takeWhile (· ≠ stop), cs.dropWhile (· ≠ stop))

/-- Up to `n` significant characters for which a test holds, and the rest. -/
def takeSome (flags : Flags) (test : Char → Bool) : Nat → List Char → List Char × List Char
  | 0, cs => ([], cs)
  | n + 1, cs =>
    match cs with
    | [] => ([], [])
    | c :: rest =>
      if test c then
        let (taken, left) := takeSome flags test n (skip flags rest)
        (c :: taken, left)
      else ([], cs)

/-! ### Escapes -/

/-- What an escape or a plain character stands for. -/
inductive Atom where
  | char (c : Char)
  /-- A code point given by two hexadecimal digits. -/
  | byte (c : Char)
  | set (c : CharClass) (negated : Bool)
  | property (c : CharClass) (negated : Bool)
  | look (l : Look)
  deriving Repr, DecidableEq

/-- A hexadecimal digit. -/
def isHexDigit (c : Char) : Bool :=
  c.isDigit || ('a' ≤ c && c ≤ 'f') || ('A' ≤ c && c ≤ 'F')

/-- The character with a code point written in hexadecimal. -/
def charOfHex (digits : List Char) : Except Fault Char :=
  let n := digits.foldl (fun n c => 16 * n + Text.hexValue c) 0
  if digits.isEmpty ∨ 8 < (digits.dropWhile (· = '0')).length then .error .codePoint
  else if h : n.isValidChar then .ok (Char.ofNatAux n h)
  else .error .codePoint

/-- A code point after `\x`, `\u` or `\U`: in braces, or `width` digits. -/
def readHexEscape (flags : Flags) (width : Nat) (cs : List Char) :
    Except Fault (Atom × List Char) :=
  match skip flags cs with
  | '\x7b' :: rest =>
    let (digits, left) := takeSome flags isHexDigit rest.length (skip flags rest)
    match left with
    | '\x7d' :: left => (charOfHex digits).map fun c => (.char c, skip flags left)
    | _ => .error .codePoint
  | cs =>
    let (digits, left) := takeSome flags isHexDigit width cs
    if digits.length = width then
      (charOfHex digits).map fun c => (if width = 2 then .byte c else .char c, left)
    else .error .codePoint

/-- The place of a text inside another, as the characters before it and those after it. -/
def splitAtText (needle : List Char) : List Char → Option (List Char × List Char)
  | [] => none
  | c :: cs =>
    if needle.isPrefixOf (c :: cs) then some ([], (c :: cs).drop needle.length)
    else (splitAtText needle cs).map fun (a, b) => (c :: a, b)

/-- The class named between the braces of `\p`; the flag says whether `!=` negates it. -/
def namedClass (name : List Char) : Option (CharClass × Bool) :=
  let value (parts : List Char × List Char) :=
    CharClass.ofValue? (String.ofList parts.1) (String.ofList parts.2)
  match splitAtText ['!', '='] name, splitAtText [':'] name, splitAtText ['='] name with
  | some parts, _, _ => (value parts).map (·, true)
  | none, some parts, _ => (value parts).map (·, false)
  | none, none, some parts => (value parts).map (·, false)
  | none, none, none => (CharClass.ofName? (String.ofList name)).map (·, false)

/-- A property after `\p` or `\P`. -/
def readProperty (flags : Flags) (negated : Bool) (cs : List Char) :
    Except Fault (Atom × List Char) :=
  match skip flags cs with
  | [] => .error .escape
  | '\x7b' :: rest =>
    let (name, left) := takeSome flags (· ≠ '\x7d') rest.length (skip flags rest)
    match left with
    | '\x7d' :: left =>
      match namedClass name with
      | some (set, differs) => .ok (.property set (negated != differs), left)
      | none => .error .property
    | _ => .error .escape
  | c :: rest =>
    if c = '\\' then .error .property
    else match CharClass.ofCategory? (CharClass.normalName c.toString) with
      | some set => .ok (.property set negated, skip flags rest)
      | none => .error .property

/-- The kinds of word edges that can be named in braces after `\b`. -/
def wordEdge? (name : String) : Option WordEdge :=
  if name = "start" then some .start
  else if name = "end" then some .finish
  else if name = "start-half" then some .startHalf
  else if name = "end-half" then some .finishHalf
  else none

/-- A letter or a hyphen, as in the names of word edges. -/
def isEdgeNameChar (c : Char) : Bool := c.isAlpha || c = '-'

/-- A word boundary after `\b`; braces that name nothing are left to be read as a count. -/
def readBoundary (flags : Flags) (cs : List Char) : Except Fault (Atom × List Char) :=
  match cs with
  | '\x7b' :: rest =>
    match skip flags rest with
    | [] => .error .wordBoundary
    | c :: rest' =>
      if isEdgeNameChar c then
        let (name, left) := takeSome flags isEdgeNameChar rest.length (c :: rest')
        match left, wordEdge? (String.ofList name) with
        | '\x7d' :: left, some edge => .ok (.look (.word edge (!flags.unicode)), left)
        | _, _ => .error .wordBoundary
      else .ok (.look (.word .boundary (!flags.unicode)), cs)
  | _ => .ok (.look (.word .boundary (!flags.unicode)), cs)

/-- The characters that mean something of their own somewhere in a pattern. -/
def isMeta (c : Char) : Bool := "\\.+*?()|[]\x7b\x7d^$#&-~".toList.contains c

/-- The digits, blanks and word characters, in Unicode or in ASCII. -/
def perlClass (unicode : Bool) (c : Char) : CharClass :=
  match c, unicode with
  | 'd', true => .digit
  | 'd', false => .range 48 57
  | 's', true => .blank
  | 's', false => .union (.range 9 13) (.range 32 32)
  | _, true => .word
  | _, false =>
    .union (.union (.range 48 57) (.range 65 90)) (.union (.range 95 95) (.range 97 122))

/-- What follows a backslash. -/
def readEscape (flags : Flags) : List Char → Except Fault (Atom × List Char)
  | [] => .error .escape
  | c :: cs =>
    if c.isDigit then .error .backreference
    else if c = 'x' then readHexEscape flags 2 cs
    else if c = 'u' then readHexEscape flags 4 cs
    else if c = 'U' then readHexEscape flags 8 cs
    else if c = 'p' then readProperty flags false cs
    else if c = 'P' then readProperty flags true cs
    else if c = 'd' ∨ c = 's' ∨ c = 'w' then .ok (.set (perlClass flags.unicode c) false, cs)
    else if c = 'D' ∨ c = 'S' ∨ c = 'W' then .ok (.set (perlClass flags.unicode c.toLower) true, cs)
    else if isMeta c then .ok (.char c, cs)
    else if c.toNat < 128 ∧ !c.isAlphanum ∧ c ≠ '<' ∧ c ≠ '>' then .ok (.char c, cs)
    else if c = 'a' then .ok (.char '\x07', cs)
    else if c = 'f' then .ok (.char '\x0c', cs)
    else if c = 't' then .ok (.char '\t', cs)
    else if c = 'n' then .ok (.char '\n', cs)
    else if c = 'r' then .ok (.char '\r', cs)
    else if c = 'v' then .ok (.char '\x0b', cs)
    else if c = 'A' then .ok (.look .textStart, cs)
    else if c = 'z' then .ok (.look .textEnd, cs)
    else if c = 'b' then readBoundary flags cs
    else if c = 'B' then .ok (.look (.word .inside (!flags.unicode)), cs)
    else if c = '<' then .ok (.look (.word .start (!flags.unicode)), cs)
    else if c = '>' then .ok (.look (.word .finish (!flags.unicode)), cs)
    else .error .escape

/-! ### Classes -/

/-- A class closed under case if case is to be ignored. -/
def foldClass (flags : Flags) (c : CharClass) : CharClass :=
  if flags.ignoreCase then if flags.unicode then .fold c else .foldAscii c else c

/-- A complement; outside Unicode it would hold bytes that are no text. -/
def negate (flags : Flags) (negated : Bool) (c : CharClass) : Except Fault CharClass :=
  if negated then if flags.unicode then .ok (.compl c) else .error .invalidText else .ok c

/-- The class of an escape or a character as a member of a bracketed class. -/
def Atom.member (flags : Flags) : Atom → Except Fault CharClass
  | .char c => if flags.unicode ∨ c.toNat < 128 then .ok (.single c) else .error .unicodeNeeded
  | .byte c => if flags.unicode ∨ c.toNat < 128 then .ok (.single c) else .error .invalidText
  | .set c negated => negate flags negated c
  | .property c negated =>
    if flags.unicode then negate flags negated (foldClass flags c) else .error .unicodeNeeded
  | .look _ => .error .classEscape

/-- The character of an end of a range. -/
def Atom.rangeEnd (flags : Flags) : Atom → Except Fault Char
  | .char c => if flags.unicode ∨ c.toNat < 128 then .ok c else .error .unicodeNeeded
  | .byte c => if flags.unicode ∨ c.toNat < 128 then .ok c else .error .invalidText
  | _ => .error .classRange

/-- An operation between two parts of a bracketed class. -/
inductive SetOp where
  | inter | diff | symmDiff
  deriving Repr, DecidableEq

/-- The class that an operation gives. -/
def SetOp.apply : SetOp → CharClass → CharClass → CharClass
  | .inter => .inter
  | .diff => .diff
  | .symmDiff => .symmDiff

/-- A class and how deeply it is nested. -/
structure Member where
  set : CharClass
  depth : Nat
  deriving Repr

/-- An open bracketed class. -/
structure ClassLevel where
  negated : Bool
  /-- The operation that waits for its right side, with its left side. -/
  pending : Option (SetOp × Member) := none
  /-- The members of the part being read, the last one first. -/
  members : List Member := []
  deriving Repr

/-- The union of the members read so far. -/
def ClassLevel.part (level : ClassLevel) : Member :=
  match level.members with
  | [] => ⟨.none, 0⟩
  | [m] => m
  | ms =>
    ⟨ms.foldl (fun acc m => .union m.set acc) .none, 1 + ms.foldl (fun d m => max d m.depth) 0⟩

/-- The part being read, joined with the operation that waits for it. -/
def ClassLevel.joined (flags : Flags) (level : ClassLevel) : Member :=
  let part := level.part
  match level.pending with
  | none => part
  | some (op, left) =>
    ⟨op.apply (foldClass flags left.set) (foldClass flags part.set), 1 + max left.depth part.depth⟩

/-- A character or an escape inside a class. -/
def readClassAtom (flags : Flags) : List Char → Except Fault (Atom × List Char)
  | [] => .error .classUnclosed
  | '\\' :: cs => readEscape flags cs
  | c :: cs => .ok (.char c, cs)

/-- The significant character after the one at hand. A `#` hides at most the rest of its blanks. -/
def peekAfter (flags : Flags) (cs : List Char) : Option Char :=
  let rec look (inComment : Bool) : List Char → Option Char
    | [] => none
    | c :: rest =>
      if Text.isBlank c then look inComment rest
      else if !inComment ∧ c = '#' then look true rest
      else some c
  if flags.verbose then (look false cs).or cs.head? else cs.head?

/-- A member of a class: one character or escape, or a range between two. -/
def readMember (flags : Flags) (cs : List Char) : Except Fault (CharClass × List Char) := do
  let (first, rest) ← readClassAtom flags cs
  match skip flags rest with
  | [] => .error .classUnclosed
  | '-' :: after =>
    if peekAfter flags after = some ']' ∨ peekAfter flags after = some '-' then
      return (← first.member flags, '-' :: after)
    else
      match skip flags after with
      | [] => .error .classUnclosed
      | after =>
        let (last, rest) ← readClassAtom flags after
        let a ← first.rangeEnd flags
        let b ← last.rangeEnd flags
        if a ≤ b then return (.range a.toNat b.toNat, rest) else .error .classRange
  | rest => return (← first.member flags, rest)

/-- An ASCII class `[:name:]`, after its bracket. -/
def readAsciiClass? (flags : Flags) (cs : List Char) :
    Option (Except Fault CharClass × List Char) :=
  match cs with
  | ':' :: rest =>
    let (negated, rest) := match rest with
      | '^' :: rest => (true, rest)
      | _ => (false, rest)
    match spanUntil ':' rest with
    | (name, ':' :: ']' :: left) =>
      (CharClass.ofAsciiName? (String.ofList name)).map fun c =>
        (negate flags negated (foldClass flags c), left)
    | _ => none
  | _ => none

/-- The hyphens at the start of a class. -/
def leadingHyphens (flags : Flags) : Nat → List Char → List Member × List Char
  | 0, cs => ([], cs)
  | fuel + 1, cs =>
    match cs with
    | '-' :: rest =>
      let (members, left) := leadingHyphens flags fuel (skip flags rest)
      (⟨.single '-', 0⟩ :: members, left)
    | _ => ([], cs)

/-- An open class, after its bracket: its negation, hyphens, and a closing bracket that stands
first and so belongs to the class. -/
def openClass (flags : Flags) (cs : List Char) : Except Fault (ClassLevel × List Char) :=
  let (negated, cs) := match skip flags cs with
    | '^' :: rest => (true, skip flags rest)
    | cs => (false, cs)
  let (hyphens, cs) := leadingHyphens flags cs.length cs
  match hyphens, cs with
  | _, [] => .error .classUnclosed
  | [], ']' :: rest =>
    match skip flags rest with
    | [] => .error .classUnclosed
    | rest => .ok (⟨negated, none, [⟨.single ']', 0⟩]⟩, rest)
  | _, cs => .ok (⟨negated, none, hyphens⟩, cs)

/-- A closed class. -/
def closeClass (flags : Flags) (level : ClassLevel) : Except Fault Member := do
  let joined := level.joined flags
  return ⟨← negate flags level.negated (foldClass flags joined.set), 1 + joined.depth⟩

/-- The rest of a bracketed class, with the classes around the one being read. -/
def readClassFrom (flags : Flags) :
    Nat → ClassLevel → List ClassLevel → List Char → Except Fault (Member × List Char)
  | 0, _, _, _ => .error .classUnclosed
  | fuel + 1, level, outer, cs =>
    let operator (op : SetOp) (rest : List Char) :=
      readClassFrom flags fuel ⟨level.negated, some (op, level.joined flags), []⟩ outer rest
    match skip flags cs with
    | [] => .error .classUnclosed
    | '[' :: rest =>
      match readAsciiClass? flags rest with
      | some (set, left) => do
        readClassFrom flags fuel { level with members := ⟨← set, 0⟩ :: level.members } outer left
      | none => do
        let (inner, left) ← openClass flags rest
        readClassFrom flags fuel inner (level :: outer) left
    | ']' :: rest => do
      let member ← closeClass flags level
      match outer with
      | [] => return (member, rest)
      | up :: outer =>
        readClassFrom flags fuel { up with members := member :: up.members } outer rest
    | '&' :: '&' :: rest => operator .inter rest
    | '-' :: '-' :: rest => operator .diff rest
    | '~' :: '~' :: rest => operator .symmDiff rest
    | cs => do
      let (set, left) ← readMember flags cs
      readClassFrom flags fuel { level with members := ⟨set, 0⟩ :: level.members } outer left

/-- A bracketed class, after its first bracket. -/
def readClass (flags : Flags) (cs : List Char) : Except Fault (Member × List Char) := do
  let (level, rest) ← openClass flags cs
  readClassFrom flags (cs.length + 1) level [] rest

/-! ### Repetition counts -/

/-- The largest count. -/
def maxCount : Nat := Nat.pow 2 32 - 1

/-- A decimal number, with blanks around it. -/
def readCount (flags : Flags) (cs : List Char) : Except Fault (Nat × List Char) :=
  let cs := cs.dropWhile Text.isBlank
  let (digits, left) := takeSome flags Char.isDigit cs.length cs
  let n := digits.foldl (fun n c => 10 * n + (c.toNat - 48)) 0
  if digits.isEmpty ∨ maxCount < n then .error .repetitionCount
  else .ok (n, (takeSome flags Text.isBlank left.length left).2)

/-- A question mark after a count only makes it lazy. -/
def dropLazy : List Char → List Char
  | '?' :: rest => rest
  | cs => cs

/-- The bounds between braces, after the opening one. -/
def readBounds (flags : Flags) (cs : List Char) :
    Except Fault ((Nat × Option Nat) × List Char) := do
  let (min, rest) ← readCount flags (skip flags cs)
  let (max, rest) ← match rest with
    | ',' :: rest =>
      match skip flags rest with
      | '\x7d' :: rest => pure (none, '\x7d' :: rest)
      | rest => do
        let (max, rest) ← readCount flags rest
        pure (some max, rest)
    | rest => pure (some min, rest)
  match rest with
  | '\x7d' :: rest =>
    if max.all (min ≤ ·) then return ((min, max), dropLazy (skip flags rest))
    else .error .repetitionCount
  | _ => .error .repetitionCount

/-! ### Groups -/

/-- A flag is turned on or off. -/
def Flags.set (flags : Flags) (letter : Char) (on : Bool) : Flags :=
  match letter with
  | 'i' => { flags with ignoreCase := on }
  | 'm' => { flags with multiLine := on }
  | 's' => { flags with dotAll := on }
  | 'R' => { flags with crlf := on }
  | 'u' => { flags with unicode := on }
  | 'x' => { flags with verbose := on }
  | _ => flags

/-- The flags as far as a colon or a closing parenthesis. Each letter and the hyphen may stand
once, and something follows the hyphen. -/
def readFlags (flags : Flags) (on : Bool) (seen : List Char) :
    List Char → Except Fault (Flags × List Char × Bool)
  | [] => .error .flags
  | c :: cs =>
    if c = ':' ∨ c = ')' then
      if seen.head? = some '-' then .error .flags else .ok (flags, c :: cs, seen.isEmpty)
    else if seen.contains c then .error .flags
    else if c = '-' then readFlags flags false ('-' :: seen) cs
    else if ['i', 'm', 's', 'U', 'u', 'R', 'x'].contains c then
      readFlags (flags.set c on) on (c :: seen) cs
    else .error .flags

/-- A letter of any script. -/
def isLetter (c : Char) : Bool := Text.Property.alphabetic c.toNat

/-- A letter or a number of any script. -/
def isLetterOrNumber (c : Char) : Bool :=
  isLetter c || Text.Property.among ["Nd", "Nl", "No"] c.toNat

/-- A name of a group. -/
def isGroupName : List Char → Bool
  | [] => false
  | c :: cs => (c = '_' || isLetter c)
      && cs.all fun c => c = '_' || c = '.' || c = '[' || c = ']' || isLetterOrNumber c

/-- What an opening parenthesis starts. -/
inductive Opening where
  /-- A group, its flags, and whether it captures, with a name if it has one. -/
  | group (flags : Flags) (capturing : Bool) (name : Option (List Char))
  /-- Flags for the rest of the group. -/
  | setFlags (flags : Flags)

/-- The start of a group, after its parenthesis. -/
def readOpening (flags : Flags) (cs : List Char) : Except Fault (Opening × List Char) :=
  let named (cs : List Char) : Except Fault (Opening × List Char) :=
    match spanUntil '>' cs with
    | (name, '>' :: rest) =>
      if isGroupName name then .ok (.group flags true (some name), rest) else .error .groupName
    | _ => .error .groupName
  match skip flags cs with
  | '?' :: '=' :: _ | '?' :: '!' :: _ | '?' :: '<' :: '=' :: _ | '?' :: '<' :: '!' :: _ =>
    .error .lookAround
  | '?' :: 'P' :: '<' :: rest => named rest
  | '?' :: '<' :: rest => named rest
  | '?' :: rest => do
    let (inner, left, bare) ← readFlags flags true [] rest
    match left with
    | ':' :: left => return (.group inner false none, left)
    | _ => if bare then .error .repetitionMissing else return (.setFlags inner, left.drop 1)
  | cs => .ok (.group flags true none, cs)

/-! ### Whole patterns -/

/-- An expression and how deeply it is nested. -/
structure Node where
  regex : Regex
  depth : Nat
  /-- A repetition may follow; it may not follow flags. -/
  repeatable : Bool := true
  deriving Repr

/-- An open group, or the whole pattern. -/
structure Level where
  /-- The flags to go back to after the group. -/
  outerFlags : Flags
  capturing : Bool
  /-- The alternatives before the one being read, the last one first. -/
  branches : List Node := []
  /-- The items of the alternative being read, the last one first. -/
  items : List Node := []
  deriving Repr

/-- One alternative. -/
def Level.branch (level : Level) : Node :=
  match level.items with
  | [] => ⟨.empty, 0, true⟩
  | [n] => n
  | ns => ⟨.ofSeq (ns.reverse.map (·.regex)), 1 + ns.foldl (fun d n => max d n.depth) 0, true⟩

/-- All alternatives. -/
def Level.node (level : Level) : Node :=
  match level.branches with
  | [] => level.branch
  | bs =>
    let all := level.branch :: bs
    ⟨.ofAlt (all.reverse.map (·.regex)), 1 + all.foldl (fun d n => max d n.depth) 0, true⟩

/-- The level with one more item. -/
def Level.push (level : Level) (node : Node) : Level := { level with items := node :: level.items }

/-- The level with its last item repeated. -/
def Level.repeatLast (level : Level) (min : Nat) (max : Option Nat) : Except Fault Level :=
  match level.items with
  | last :: items =>
    if last.repeatable then
      .ok { level with items := ⟨.rep last.regex min max, last.depth + 1, true⟩ :: items }
    else .error .repetitionMissing
  | [] => .error .repetitionMissing

/-- The expression for a character outside a class. -/
def charNode (flags : Flags) (c : Char) : Regex :=
  if flags.ignoreCase then
    if flags.unicode then .chars (.fold (.single c))
    else if c.isAlpha then .chars (.foldAscii (.single c)) else .chars (.single c)
  else .chars (.single c)

/-- The expression for an escape or a character outside a class. -/
def Atom.regex (flags : Flags) : Atom → Except Fault Regex
  | .char c => .ok (charNode flags c)
  | .byte c => if flags.unicode ∨ c.toNat < 128 then .ok (charNode flags c) else .error .invalidText
  | .look l => .ok (.look l)
  | atom => (atom.member flags).map .chars

/-- The expression for a dot. -/
def dot (flags : Flags) : Except Fault Regex :=
  if !flags.unicode then .error .invalidText
  else if flags.dotAll then .ok (.chars .all)
  else if flags.crlf then .ok (.chars (.compl (.union (.single '\n') (.single '\r'))))
  else .ok (.chars (.compl (.single '\n')))

/-- The assertion for `^`. -/
def lineStart (flags : Flags) : Look :=
  if flags.multiLine then if flags.crlf then .lineStartCrlf else .lineStart else .textStart

/-- The assertion for `$`. -/
def lineEnd (flags : Flags) : Look :=
  if flags.multiLine then if flags.crlf then .lineEndCrlf else .lineEnd else .textEnd

/-- The deepest nesting that is read. -/
def nestLimit : Nat := 250

/-- The rest of a pattern, with the groups around the one being read and the names used. -/
def readFrom : Nat → Flags → Level → List Level → List (List Char) → List Char → Except Fault Node
  | 0, _, _, _, _, _ => .error .groupUnclosed
  | fuel + 1, flags, level, outer, names, cs =>
    let item (regex : Regex) (depth : Nat) (rest : List Char) :=
      readFrom fuel flags (level.push ⟨regex, depth, true⟩) outer names rest
    let repeated (min : Nat) (max : Option Nat) (rest : List Char) := do
      readFrom fuel flags (← level.repeatLast min max) outer names rest
    match skip flags cs with
    | [] => if outer.isEmpty then .ok level.node else .error .groupUnclosed
    | '(' :: rest => do
      let (opening, rest) ← readOpening flags rest
      match opening with
      | .setFlags inner =>
        readFrom fuel inner (level.push ⟨.empty, 0, false⟩) outer names rest
      | .group inner capturing name =>
        match name with
        | some name =>
          if names.contains name then .error .groupName
          else readFrom fuel inner ⟨flags, capturing, [], []⟩ (level :: outer) (name :: names) rest
        | none => readFrom fuel inner ⟨flags, capturing, [], []⟩ (level :: outer) names rest
    | ')' :: rest =>
      match outer with
      | [] => .error .groupUnopened
      | up :: outer =>
        let node := level.node
        let regex := if level.capturing then .capture node.regex else node.regex
        readFrom fuel level.outerFlags (up.push ⟨regex, node.depth + 1, true⟩) outer names rest
    | '|' :: rest =>
      readFrom fuel flags { level with branches := level.branch :: level.branches, items := [] }
        outer names rest
    | '[' :: rest => do
      let (member, rest) ← readClass flags rest
      item (.chars member.set) member.depth rest
    | '?' :: rest => repeated 0 (some 1) (dropLazy rest)
    | '*' :: rest => repeated 0 none (dropLazy rest)
    | '+' :: rest => repeated 1 none (dropLazy rest)
    | '\x7b' :: rest => do
      let _ ← level.repeatLast 0 none
      let ((min, max), rest) ← readBounds flags rest
      repeated min max rest
    | '\\' :: rest => do
      let (atom, rest) ← readEscape flags rest
      item (← atom.regex flags) 0 rest
    | '.' :: rest => do item (← dot flags) 0 rest
    | '^' :: rest => item (.look (lineStart flags)) 0 rest
    | '$' :: rest => item (.look (lineEnd flags)) 0 rest
    | c :: rest => item (charNode flags c) 0 rest

/-- The expression that a text stands for. -/
def read (text : List Char) : Except Fault Regex := do
  let node ← readFrom (text.length + 1) {} ⟨{}, false, [], []⟩ [] [] text
  if nestLimit < node.depth then .error .nestedTooDeeply else return node.regex

end Pattern

end JobExpansion
