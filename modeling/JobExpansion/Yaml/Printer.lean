import JobExpansion.Value.Json
import JobExpansion.Yaml.Style

/-!
# YAML text of values

A value is written in block style, two columns deeper on each level; only a list under a key is
not moved in. A key that does not fit on one line with its value is marked by a question mark.
-/

namespace JobExpansion.Yaml

/-- The columns between two levels. -/
def indentStep : Nat := 2

/-- Blanks in front of a line. -/
def margin (indent : Nat) : List Char := List.replicate indent ' '

/-- An upper-case hexadecimal number of some width. -/
def upperHex (width n : Nat) : List Char :=
  let digits := (Nat.toDigits 16 n).map Char.toUpper
  List.replicate (width - digits.length) '0' ++ digits

/-- A character between double quotes. -/
def escape (c : Char) : List Char :=
  let n := c.toNat
  if isPrintable c ∧ !isBreak c ∧ c ≠ '"' ∧ c ≠ '\\' then [c]
  else
    '\\' ::
      (if n = 0 then ['0']
      else if n = 7 then ['a']
      else if n = 8 then ['b']
      else if n = 9 then ['t']
      else if n = 10 then ['n']
      else if n = 11 then ['v']
      else if n = 12 then ['f']
      else if n = 13 then ['r']
      else if n = 0x1B then ['e']
      else if c = '"' ∨ c = '\\' then [c]
      else if n = 0x85 then ['N']
      else if n = 0x2028 then ['L']
      else if n = 0x2029 then ['P']
      else if n ≤ 0xFF then 'x' :: upperHex 2 n
      else if n ≤ 0xFFFF then 'u' :: upperHex 4 n
      else 'U' :: upperHex 8 n)

/-- A string between double quotes. -/
def doubleQuoted (cs : List Char) : List Char := '"' :: cs.flatMap escape ++ ['"']

/-- The characters of a string over several lines, each line that is not empty moved in. -/
def moveIn (indent : Nat) (write : Char → List Char) (atStart : Bool) : List Char → List Char
  | [] => []
  | c :: cs =>
    if isBreak c then c :: moveIn indent write true cs
    else (if atStart then margin indent else []) ++ write c ++ moveIn indent write false cs

/-- A string between single quotes; an end of a line is followed by the margin also at the end. -/
def singleQuoted (indent : Nat) (cs : List Char) : List Char :=
  let write (c : Char) := if c = '\'' then ['\'', '\''] else [c]
  let tail := if cs.getLast?.any isBreak then margin indent else []
  '\'' :: moveIn indent write false cs ++ tail ++ ['\'']

/-- What a literal block says about its indentation and its end. -/
def literalHints (cs : List Char) : List Char :=
  let indentation := if cs.head?.any fun c => c = ' ' || isBreak c then ['2'] else []
  let chomping := match cs.reverse with
    | [] => ['-']
    | [c] => if isBreak c then ['+'] else ['-']
    | c :: d :: _ => if !isBreak c then ['-'] else if isBreak d then ['+'] else []
  indentation ++ chomping

/-- A literal block. -/
def literalBlock (indent : Nat) (cs : List Char) : List Char :=
  '|' :: literalHints cs ++ '\n' :: moveIn indent (fun c => [c]) true cs

/-- A string whose further lines are moved in. -/
def stringText (indent : Nat) (s : String) : List Char :=
  match style s with
  | .plain => s.toList
  | .single => singleQuoted indent s.toList
  | .double => doubleQuoted s.toList
  | .literal => literalBlock indent s.toList

/-- The end of a line, unless a line has just ended. -/
def lineEnd (written : List Char) : List Char :=
  if written.getLast?.any isBreak then [] else ['\n']

/-- Texts one below the other at some margin, the first one standing there already. -/
def stack (indent : Nat) : List (List Char) → List Char
  | [] => []
  | [text] => text
  | text :: texts => text ++ lineEnd text ++ margin indent ++ stack indent texts

mutual
/-- A value that starts at the column of its own margin. -/
def inlineText (indent : Nat) : Value → List Char
  | .list items => match items with
    | [] => ['[', ']']
    | items => stack indent (itemTexts indent items)
  | .mapping entries => match entries with
    | [] => ['\x7b', '\x7d']
    | entries => stack indent (rowTexts indent entries)
  | .null => "null".toList
  | .bool b => (if b then "true" else "false").toList
  | .number n => (n.text .bare).toList
  | .text s => stringText indent s

/-- The texts of items at some margin. -/
def itemTexts (indent : Nat) : List Value → List (List Char)
  | [] => []
  | v :: vs => ('-' :: ' ' :: inlineText (indent + indentStep) v) :: itemTexts indent vs

/-- The texts of rows at some margin. -/
def rowTexts (indent : Nat) : List (String × Value) → List (List Char)
  | [] => []
  | (k, v) :: rows =>
    let key := stringText (indent + indentStep) k
    let row :=
      if isSimpleKey k then key ++ ':' :: besideKey indent v
      else
        let marked := '?' :: ' ' :: key
        marked ++ lineEnd marked ++ margin indent
          ++ ':' :: ' ' :: inlineText (indent + indentStep) v
    row :: rowTexts indent rows

/-- A value after the colon of a key at some margin. -/
def besideKey (indent : Nat) : Value → List Char
  | .list items => match items with
    | [] => [' ', '[', ']']
    | items => '\n' :: margin indent ++ stack indent (itemTexts indent items)
  | .mapping entries => match entries with
    | [] => [' ', '\x7b', '\x7d']
    | entries =>
      '\n' :: margin (indent + indentStep)
        ++ stack (indent + indentStep) (rowTexts (indent + indentStep) entries)
  | .null => " null".toList
  | .bool b => (if b then " true" else " false").toList
  | .number n => ' ' :: (n.text .bare).toList
  | .text s => ' ' :: stringText (indent + indentStep) s
end

/-- The text of a whole document. -/
def documentText (v : Value) : List Char :=
  let body := match v with
    | .text s => stringText indentStep s
    | v => inlineText 0 v
  body ++ lineEnd body

/-- The YAML text of a value. -/
def print (v : Value) : String := String.ofList (documentText v)

end JobExpansion.Yaml
