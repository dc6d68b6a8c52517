import JobExpansion.Toml.Atom
import JobExpansion.Toml.Table

/-!
# TOML documents

A document is a sequence of lines: rows `key = value`, headers of tables, comments and empty lines.
Nesting is bounded.
-/

namespace JobExpansion.Toml

/-- One more than how deeply arrays and inline tables may be nested, and than how many parts a key
may have. -/
def depthLimit : Nat := 80

/-! ### Layout -/

/-- Characters without the blanks in front. -/
def skipBlanks (cs : List Char) : List Char := cs.dropWhile isBlank

/-- What follows a comment, if its characters may stand there. -/
def skipComment? (cs : List Char) : Option (List Char) :=
  match cs with
  | '#' :: cs =>
    let comment := cs.takeWhile (· ≠ '\n')
    if comment.all isText then some (cs.drop comment.length) else none
  | cs => some cs

/-- What follows the end of a line and the comment in front of it. -/
def endLine? (cs : List Char) : Option (List Char) := do
  match ← skipComment? (skipBlanks cs) with
  | [] => return []
  | '\n' :: cs => return cs
  | _ => none

/-- What follows blanks, line ends and comments. -/
def skipLayout : Nat → List Char → Option (List Char)
  | 0, _ => none
  | fuel + 1, cs =>
    match cs.dropWhile isGap with
    | '#' :: cs => do skipLayout fuel (← skipComment? ('#' :: cs))
    | cs => some cs

/-! ### Keys -/

/-- One part of a key. -/
def readPart (cs : List Char) : Option (String × List Char) :=
  match readQuoted cs with
  | some (text, rest) => some (String.ofList text, rest)
  | none =>
    let name := cs.takeWhile isBare
    if name.isEmpty then none else some (String.ofList name, cs.drop name.length)

/-- The parts of a key; there is at least one. -/
def readKey : Nat → List Char → Option (List String × List Char)
  | 0, _ => none
  | fuel + 1, cs => do
    let (part, cs) ← readPart (skipBlanks cs)
    match skipBlanks cs with
    | '.' :: cs =>
      let (parts, cs) ← readKey fuel cs
      return (part :: parts, cs)
    | cs => return ([part], cs)

/-- The parts of a key but the last one, and the last one. -/
def readPath (cs : List Char) : Option (List String × String × List Char) := do
  let (parts, cs) ← readKey (depthLimit - 1) cs
  return (parts.dropLast, ← parts.getLast?, cs)

/-! ### Values -/

mutual
/-- A value, and what follows it. -/
def readValue : Nat → Nat → List Char → Option (Value × List Char)
  | 0, _, _ => none
  | fuel + 1, depth, cs =>
    match cs with
    | '"' :: _ | '\'' :: _ =>
      (readQuotedLines cs).map fun (text, cs) => (.string (String.ofList text), cs)
    | '[' :: cs =>
      match depth with
      | 0 => none
      | depth + 1 => do
        match ← skipLayout (fuel + 1) cs with
        | ']' :: cs => return (.array [], cs)
        | cs =>
          let (items, cs) ← readItems fuel depth cs
          return (.array items, cs)
    | '\x7b' :: cs =>
      match depth with
      | 0 => none
      | depth + 1 => do
        match skipBlanks cs with
        | '\x7d' :: cs => return (.table [], cs)
        | cs =>
          let (d, cs) ← readRows fuel depth {} cs
          return (.table (Item.rowsToValues d.rows), cs)
    | cs => let (text, cs) := spanAtom cs; (atom? text).map (·, cs)

/-- The items of an array up to its end; a comma may stand behind the last one. -/
def readItems : Nat → Nat → List Char → Option (List Value × List Char)
  | 0, _, _ => none
  | fuel + 1, depth, cs => do
    let (v, cs) ← readValue fuel depth cs
    match ← skipLayout (fuel + 1) cs with
    | ']' :: cs => return ([v], cs)
    | ',' :: cs =>
      match ← skipLayout (fuel + 1) cs with
      | ']' :: cs => return ([v], cs)
      | cs =>
        let (items, cs) ← readItems fuel depth cs
        return (v :: items, cs)
    | _ => none

/-- The rows of an inline table up to its end. -/
def readRows : Nat → Nat → Draft → List Char → Option (Draft × List Char)
  | 0, _, _, _ => none
  | fuel + 1, depth, d, cs => do
    let (path, key, cs) ← readPath cs
    let (v, cs) ← readValue fuel depth (skipBlanks (← after? '=' cs))
    let d ← d.addRow path key v
    match skipBlanks cs with
    | '\x7d' :: cs => return (d, cs)
    | ',' :: cs => readRows fuel depth d cs
    | _ => none
end

/-! ### Lines -/

/-- The document so far, and the header of the table that rows go to. -/
structure Progress where
  root : Draft := {}
  header : List String := []

/-- A document after the line at the start of some characters, and what follows that line. -/
def readLine (p : Progress) (cs : List Char) : Option (Progress × List Char) := do
  match skipBlanks cs with
  | [] => return (p, [])
  | '\n' :: cs => return (p, cs)
  | '#' :: cs => return (p, ← endLine? ('#' :: cs))
  | '[' :: '[' :: cs =>
    let (path, key, cs) ← readPath cs
    let root ← p.root.addElement path key
    return ({ root, header := path ++ [key] }, ← endLine? (← after? ']' (← after? ']' cs)))
  | '[' :: cs =>
    let (path, key, cs) ← readPath cs
    let root ← p.root.addTable path key
    return ({ root, header := path ++ [key] }, ← endLine? (← after? ']' cs))
  | cs =>
    let (path, key, cs) ← readPath cs
    let (v, cs) ← readValue (cs.length + 1) (depthLimit - 1) (skipBlanks (← after? '=' cs))
    let root ← p.root.addBelow p.header path key v
    return ({ p with root }, ← endLine? cs)

/-- The document that some characters write. -/
def readLines : Nat → Progress → List Char → Option Progress
  | _, p, [] => some p
  | 0, _, _ => none
  | fuel + 1, p, cs => do
    let (p, cs) ← readLine p cs
    readLines fuel p cs

/-- Characters with each line end as a line feed. -/
def joinLineEnds : List Char → List Char
  | '\r' :: '\n' :: cs => '\n' :: joinLineEnds cs
  | c :: cs => c :: joinLineEnds cs
  | [] => []

/-- A text without the mark of its byte order. -/
def skipOrderMark : List Char → List Char
  | '\uFEFF' :: cs => cs
  | cs => cs

/-- The table that a text writes. -/
def read? (text : String) : Option Rows := do
  let cs := joinLineEnds (skipOrderMark text.toList)
  let p ← readLines (cs.length + 1) {} cs
  return Item.rowsToValues p.root.rows

end JobExpansion.Toml
