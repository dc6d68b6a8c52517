import JobExpansion.Value.Basic
import JobExpansion.Decimal.Layout

/-!
# JSON text of values

`compact` writes a value without blanks, `indented` with one row or item a line and two blanks
for each level. Keys keep their order; only `"`, `\` and the characters below the blank are
escaped.
-/

namespace JobExpansion

/-- The text of a number; a double that is not finite has no JSON text but `null`. -/
def Number.text (layout : Decimal.Layout) : Number → String
  | .int n => toString n
  | .double bits => (Decimal.text? layout bits).getD "null"

namespace Json

/-- A hexadecimal digit, in lower case. -/
def hexDigit (n : Nat) : Char := if n < 10 then Char.ofNat (48 + n) else Char.ofNat (87 + n)

/-- A character inside quotes. -/
def escape (c : Char) : List Char :=
  match c with
  | '"' => ['\\', '"']
  | '\\' => ['\\', '\\']
  | '\x08' => ['\\', 'b']
  | '\x0c' => ['\\', 'f']
  | '\n' => ['\\', 'n']
  | '\r' => ['\\', 'r']
  | '\t' => ['\\', 't']
  | c => if c.toNat < 32 then
      ['\\', 'u', '0', '0', hexDigit (c.toNat / 16), hexDigit (c.toNat % 16)] else [c]

/-- A string in quotes. -/
def quote (s : String) : String := String.ofList ('"' :: s.toList.flatMap escape ++ ['"'])

/-- The brackets of a list around the texts of its items. -/
def brackets (texts : List String) : String := "[" ++ ",".intercalate texts ++ "]"

/-- The braces of a mapping around the texts of its rows. -/
def braces (texts : List String) : String := "\x7b" ++ ",".intercalate texts ++ "\x7d"

mutual
/-- A value without blanks. -/
def compact : Value → String
  | .null => "null"
  | .bool b => if b then "true" else "false"
  | .number n => n.text .signed
  | .text s => quote s
  | .list items => brackets (compactItems items)
  | .mapping entries => braces (compactEntries entries)

/-- The texts of items. -/
def compactItems : List Value → List String
  | [] => []
  | v :: vs => compact v :: compactItems vs

/-- The texts of rows. -/
def compactEntries : List (String × Value) → List String
  | [] => []
  | (k, v) :: es => (quote k ++ ":" ++ compact v) :: compactEntries es
end

/-- Lines between two brackets, each text on a line of its own one level in. -/
def block (opening closing : String) (depth : Nat) (texts : List String) : String :=
  let margin (d : Nat) := "\n" ++ String.ofList (List.replicate (2 * d) ' ')
  if texts.isEmpty then opening ++ closing
  else opening ++ ",".intercalate (texts.map (margin (depth + 1) ++ ·)) ++ margin depth ++ closing

mutual
/-- A value at some depth, with a line for each item or row. -/
def indentedAt (depth : Nat) : Value → String
  | .list items => block "[" "]" depth (indentedItems (depth + 1) items)
  | .mapping entries => block "\x7b" "\x7d" depth (indentedEntries (depth + 1) entries)
  | .null => compact .null
  | .bool b => compact (.bool b)
  | .number n => compact (.number n)
  | .text s => compact (.text s)

/-- The texts of items one level in. -/
def indentedItems (depth : Nat) : List Value → List String
  | [] => []
  | v :: vs => indentedAt depth v :: indentedItems depth vs

/-- The texts of rows one level in. -/
def indentedEntries (depth : Nat) : List (String × Value) → List String
  | [] => []
  | (k, v) :: es => (quote k ++ ": " ++ indentedAt depth v) :: indentedEntries depth es
end

/-- A value with a line for each item or row. -/
def indented (v : Value) : String := indentedAt 0 v

end Json

end JobExpansion
