import JobExpansion.Decimal.Binary64
import JobExpansion.Toml.Quoted

/-!
# TOML numbers, dates and booleans

Values without quotes and brackets are told by their form. Digits may be grouped by underscores
between them. Integers have 64 bits and no leading zeros; dates exist in the calendar.
-/

namespace JobExpansion.Toml

/-! ### Numbers -/

/-- Digits without the underscores between them. -/
def ungroup (isDigit : Char → Bool) : List Char → Option (List Char)
  | [] => none
  | [c] => if isDigit c then some [c] else none
  | c :: '_' :: cs => if isDigit c then (ungroup isDigit cs).map (c :: ·) else none
  | c :: cs => if isDigit c then (ungroup isDigit cs).map (c :: ·) else none

/-- The number that digits write in a base. -/
def number (base : Nat) (digits : List Char) : Nat :=
  digits.foldl (fun n c => base * n + Text.hexValue c) 0

/-- A sign, and what follows it. -/
def sign : List Char → Bool × List Char
  | '-' :: cs => (true, cs)
  | '+' :: cs => (false, cs)
  | cs => (false, cs)

/-- Decimal digits without a leading zero. -/
def decimalDigits? (cs : List Char) : Option (List Char) :=
  (ungroup Char.isDigit cs).filter fun ds => ds.length = 1 || ds.head? ≠ some '0'

/-- An integer of 64 bits. -/
def bounded? (n : Int) : Option Int := 
  if -(Int.pow 2 63) ≤ n ∧ n < Int.pow 2 63 then some n else none

/-- The digit belongs to a base up to ten. -/
def isDigitBelow (base : Nat) (c : Char) : Bool := c.isDigit && c.toNat - 48 < base

/-- An integer. -/
def integer? : List Char → Option Int
  | '0' :: 'x' :: cs => (ungroup isHexDigit cs).bind fun ds => bounded? (number 16 ds)
  | '0' :: 'o' :: cs => (ungroup (isDigitBelow 8) cs).bind fun ds => bounded? (number 8 ds)
  | '0' :: 'b' :: cs => (ungroup (isDigitBelow 2) cs).bind fun ds => bounded? (number 2 ds)
  | cs =>
    let (negative, cs) := sign cs
    (decimalDigits? cs).bind fun ds =>
      bounded? (if negative then -(number 10 ds : Int) else number 10 ds)

/-- The exponent after its letter. -/
def exponent? (cs : List Char) : Option Int :=
  let (negative, cs) := sign cs
  (ungroup Char.isDigit cs).map fun ds =>
    if negative then -(number 10 ds : Int) else number 10 ds

/-- A character that starts an exponent. -/
def isExponentMark (c : Char) : Bool := c = 'e' || c = 'E'

/-- The characters write a number with a fraction or an exponent that a double can hold. -/
def isFloat (cs : List Char) : Bool :=
  let (_, cs) := sign cs
  if cs = "inf".toList || cs = "nan".toList then true
  else
    let whole := cs.takeWhile fun c => c ≠ '.' && !isExponentMark c
    let rest := cs.drop whole.length
    let (fraction, rest) := match rest with
      | '.' :: rest =>
        let fraction := rest.takeWhile fun c => !isExponentMark c
        (ungroup Char.isDigit fraction, rest.drop fraction.length)
      | _ => (some [], rest)
    let exponent := match rest with
      | [] => if cs.contains '.' then some 0 else none
      | _ :: rest => exponent? rest
    match decimalDigits? whole, fraction, exponent with
    | some whole, some fraction, some e =>
      Binary64.isFinite (Binary64.round false (number 10 (whole ++ fraction)) (e - fraction.length))
    | _, _, _ => false

/-! ### Dates and times -/

/-- A number of exactly so many digits, within bounds, and what follows it. -/
def field? (width low high : Nat) (cs : List Char) : Option (Nat × List Char) :=
  let digits := cs.take width
  let n := number 10 digits
  if digits.length = width ∧ digits.all Char.isDigit ∧ low ≤ n ∧ n ≤ high then
    some (n, cs.drop width)
  else none

/-- What follows a character. -/
def after? (c : Char) : List Char → Option (List Char)
  | d :: cs => if d = c then some cs else none
  | [] => none

/-- The number of days of a month. -/
def daysIn (year month : Nat) : Nat :=
  if month = 2 then
    if year % 4 = 0 ∧ (year % 100 ≠ 0 ∨ year % 400 = 0) then 29 else 28
  else if month = 4 ∨ month = 6 ∨ month = 9 ∨ month = 11 then 30
  else 31

/-- What follows a date. -/
def afterDate? (cs : List Char) : Option (List Char) := do
  let (year, cs) ← field? 4 0 9999 cs
  let (month, cs) ← field? 2 1 12 (← after? '-' cs)
  let (_, cs) ← field? 2 1 (daysIn year month) (← after? '-' cs)
  return cs

/-- What follows the fraction of a second, if there is one. -/
def afterFraction? : List Char → Option (List Char)
  | '.' :: cs =>
    if (cs.takeWhile Char.isDigit).isEmpty then none else some (cs.dropWhile Char.isDigit)
  | cs => some cs

/-- What follows a time of the day. -/
def afterTime? (cs : List Char) : Option (List Char) := do
  let (_, cs) ← field? 2 0 23 cs
  let (_, cs) ← field? 2 0 59 (← after? ':' cs)
  let (_, cs) ← field? 2 0 60 (← after? ':' cs)
  afterFraction? cs

/-- The characters are the distance of a time from universal time, or nothing. -/
def isOffset (cs : List Char) : Bool :=
  match cs with
  | [] | ['Z'] | ['z'] => true
  | c :: cs =>
    (c = '+' || c = '-') && (do
      let (_, cs) ← field? 2 0 23 cs
      let (_, cs) ← field? 2 0 59 (← after? ':' cs)
      return cs.isEmpty : Option Bool).getD false

/-- The characters are a date, a time, or both with any distance from universal time. -/
def isDateTime (cs : List Char) : Bool :=
  match afterDate? cs with
  | some [] => true
  | some (c :: rest) =>
    (c = 'T' || c = 't' || c = ' ') && (afterTime? rest).any isOffset
  | none => (afterTime? cs).any List.isEmpty

/-! ### Atoms -/

/-- A character of a number, a date or a boolean. -/
def isAtomic (c : Char) : Bool :=
  c.isAlphanum || c = '+' || c = '-' || c = '.' || c = '_' || c = ':'

/-- The characters of an atom, and what follows them. A space may stand between a date and a
time. -/
def spanAtom (cs : List Char) : List Char × List Char :=
  let first := cs.takeWhile isAtomic
  let rest := cs.drop first.length
  match rest with
  | ' ' :: d :: _ =>
    if (afterDate? first).any List.isEmpty && d.isDigit then
      let second := (rest.drop 1).takeWhile isAtomic
      (first ++ ' ' :: second, rest.drop (1 + second.length))
    else (first, rest)
  | _ => (first, rest)

/-- The value of an atom. -/
def atom? (cs : List Char) : Option Value :=
  let text := String.ofList cs
  if text = "true" then some (.boolean true)
  else if text = "false" then some (.boolean false)
  else
    match integer? cs with
    | some n => some (.integer n)
    | none =>
      if isDateTime cs then some (.dateTime text)
      else if isFloat cs then some (.float text)
      else none

end JobExpansion.Toml
