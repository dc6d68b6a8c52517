import JobExpansion.Text.Property

/-!
# Quoted text in messages

A text between double quotes in which a reader sees every character: quotes and backslashes are
marked, and what does not show by itself is written by its code point.
-/

namespace JobExpansion.Text

/-- A code point in hexadecimal, in lower case. -/
def hexText (n : Nat) : String := String.ofList (Nat.toDigits 16 n)

/-- A character that shows by itself. -/
def isVisible (c : Char) : Bool :=
  if c.toNat < 128 then 32 ≤ c.toNat && c.toNat < 127
  else !(Property.among ["Cc", "Cf", "Cs", "Co", "Cn", "Zl", "Zp", "Zs"] c.toNat
    || Property.graphemeExtend c.toNat)

/-- A character inside quotes. -/
def quoteChar (c : Char) : String :=
  if c = '\x00' then "\\0"
  else if c = '\t' then "\\t"
  else if c = '\r' then "\\r"
  else if c = '\n' then "\\n"
  else if c = '\\' then "\\\\"
  else if c = '"' then "\\\""
  else if isVisible c then c.toString
  else "\\u\x7b" ++ hexText c.toNat ++ "\x7d"

/-- A text between quotes. -/
def quoted (s : String) : String := "\"" ++ String.join (s.toList.map quoteChar) ++ "\""

end JobExpansion.Text
