import JobExpansion.Yaml.Cursor
import JobExpansion.Yaml.Resolution

/-!
# Styles of scalars

How a string is written: plain if that reads back as the same string, in quotes if not, and as a
literal block if it has several lines. A string with characters that do not print, or with blanks
before the end of a line, is only safe between double quotes.
-/

namespace JobExpansion.Yaml

/-- The ways to write a scalar. -/
inductive Style where
  | plain | single | double | literal
  deriving Repr, DecidableEq

/-- A character that may be written as it is. -/
def isPrintable (c : Char) : Bool :=
  let n := c.toNat
  n = 10 || (0x20 ≤ n && n ≤ 0x7E) || (0xA0 ≤ n && n ≤ 0xD7FF)
    || (0xE000 ≤ n && n ≤ 0xFFFD && n != 0xFEFF) || 0x10000 ≤ n

/-- A gap in a string that is being written; so is the character of code 0. -/
def isWrittenGap (c : Option Char) : Bool := isGap c || c = some '\x00'

/-- The pairs of neighbours in a string. -/
def neighbours (cs : List Char) : List (Char × Char) := cs.zip cs.tail

/-- A character that makes a plain scalar end or mean something else, given what is before it and
after it; nothing is before the first one. -/
def isIndicator (before : Option Char) (c : Char) (after : Option Char) : Bool :=
  match before with
  | none => "#,[]\x7b\x7d&*!|>'\"%@\x60".toList.contains c
      || ("?:-".toList.contains c && isWrittenGap after)
  | some b => (c = ':' && isWrittenGap after) || (c = '#' && isWrittenGap (some b))

/-- Some character of a string is an indicator. -/
def hasIndicator : Option Char → List Char → Bool
  | _, [] => false
  | before, c :: cs => isIndicator before c cs.head? || hasIndicator (some c) cs

/-- Three hyphens or dots at the start of a string. -/
def startsLikeMarker (cs : List Char) : Bool :=
  ['-', '-', '-'].isPrefixOf cs || ['.', '.', '.'].isPrefixOf cs

/-- The first or the last character is a space or ends a line. -/
def hasOuterGap (cs : List Char) : Bool :=
  let outer (c : Option Char) := c.any fun c => c = ' ' || isBreak c
  outer cs.head? || outer cs.getLast?

/-- A plain scalar can hold the string. -/
def plainAllowed (cs : List Char) : Bool :=
  !(startsLikeMarker cs || hasIndicator none cs || hasOuterGap cs || cs.any isBreak
    || cs.any fun c => !isPrintable c)

/-- A space before the end of a line, or a character that does not print. -/
def needsEscapes (cs : List Char) : Bool :=
  (neighbours cs).any (fun (a, b) => a = ' ' && isBreak b) || cs.any fun c => !isPrintable c

/-- Single quotes can hold the string. -/
def singleAllowed (cs : List Char) : Bool :=
  !(needsEscapes cs || (neighbours cs).any fun (a, b) => isBreak a && b = ' ')

/-- A block can hold the string. -/
def blockAllowed (cs : List Char) : Bool := !(needsEscapes cs || cs.getLast? = some ' ')

/-- A plain scalar would be read as something else than a string. -/
def readsAsOther (s : String) : Bool := resolve s != .string || hasLeadingZero s.toList

/-- How a string is written. -/
def style (s : String) : Style :=
  let cs := s.toList
  let quoted : Style := if singleAllowed cs then .single else .double
  if cs.contains '\n' then if blockAllowed cs then .literal else .double
  else if readsAsOther s then quoted
  else if plainAllowed cs then .plain else quoted

/-- The longest key, in bytes, that stands on one line with its value. -/
def maxKeyBytes : Nat := 128

/-- A key stands on one line with its value. -/
def isSimpleKey (s : String) : Bool := !s.toList.any isBreak && s.utf8ByteSize ≤ maxKeyBytes

end JobExpansion.Yaml
