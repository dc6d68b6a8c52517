import JobExpansion.Decimal.Binary64
import JobExpansion.Text.Runs
import JobExpansion.Value.Basic

/-!
# Plain scalars

A plain scalar without a tag is read as null, a boolean, a number or a string, in that order of
preference. Digits after a leading zero are a string.
-/

namespace JobExpansion.Yaml

/-- The words for null. -/
def isNullWord (s : String) : Bool := s = "null" || s = "Null" || s = "NULL" || s = "~"

/-- The words for booleans. -/
def boolWord? (s : String) : Option Bool :=
  if s = "true" ∨ s = "True" ∨ s = "TRUE" then some true
  else if s = "false" ∨ s = "False" ∨ s = "FALSE" then some false
  else none

/-- The text without a sign in front. -/
def dropSign : List Char → List Char
  | '+' :: cs => cs
  | '-' :: cs => cs
  | cs => cs

/-- Several digits, the first of which is zero. -/
def hasLeadingZero (cs : List Char) : Bool :=
  match dropSign cs with
  | '0' :: d :: ds => (d :: ds).all Char.isDigit
  | _ => false

/-- The value of a digit in a base. -/
def digitValue? (base : Nat) (c : Char) : Option Nat :=
  let n :=
    if c.isDigit then c.toNat - 48
    else if 'a' ≤ c ∧ c ≤ 'f' then c.toNat - 87
    else if 'A' ≤ c ∧ c ≤ 'F' then c.toNat - 55
    else 99
  if n < base then some n else none

/-- A number in a base; there is at least one digit. -/
def digits? (base : Nat) (cs : List Char) : Option Nat :=
  if cs.isEmpty then none
  else cs.foldl (fun acc c => acc.bind fun n => (digitValue? base c).map (base * n + ·)) (some 0)

/-- The magnitude of an integer without its sign. -/
def magnitude? : List Char → Option Nat
  | '0' :: 'x' :: cs => digits? 16 cs
  | '0' :: 'o' :: cs => digits? 8 cs
  | '0' :: 'b' :: cs => digits? 2 cs
  | cs => digits? 10 cs

/-- The integer that a text writes. -/
def integer? (cs : List Char) : Option Int :=
  if hasLeadingZero cs then none
  else
    match cs with
    | '-' :: cs => (magnitude? cs).map fun n => -(n : Int)
    | '+' :: cs => (magnitude? cs).map fun n => (n : Int)
    | cs => (magnitude? cs).map fun n => (n : Int)

/-- What an integer can be held in. -/
inductive Width where
  /-- 64 bits, with or without a sign. -/
  | word
  /-- 128 bits, with or without a sign. -/
  | wide
  | unbounded
  deriving Repr, DecidableEq

/-- The width of an integer. -/
def width (n : Int) : Width :=
  if -(Int.pow 2 63) ≤ n ∧ n < Int.pow 2 64 then .word
  else if -(Int.pow 2 127) ≤ n ∧ n < Int.pow 2 128 then .wide
  else .unbounded

/-- The digits of a text and what follows them. -/
def spanDigits (cs : List Char) : List Char × List Char :=
  (cs.takeWhile Char.isDigit, cs.dropWhile Char.isDigit)

/-- The exponent at the end of a decimal number. -/
def exponent? : List Char → Option Int
  | [] => some 0
  | c :: cs =>
    if c = 'e' ∨ c = 'E' then
      match cs with
      | '-' :: cs => (digits? 10 cs).map fun n => -(n : Int)
      | '+' :: cs => (digits? 10 cs).map fun n => (n : Int)
      | cs => (digits? 10 cs).map fun n => (n : Int)
    else none

/-- A decimal number without a sign, as its digits and the exponent of the last one. -/
def decimal? (cs : List Char) : Option (Nat × Int) :=
  let (whole, rest) := spanDigits cs
  let (fraction, rest) := match rest with
    | '.' :: rest => spanDigits rest
    | _ => ([], rest)
  if whole.isEmpty ∧ fraction.isEmpty then none
  else
    (exponent? rest).bind fun e =>
      (digits? 10 (whole ++ fraction)).map fun n => (n, e - fraction.length)

/-- A finite double. -/
def double? (cs : List Char) : Option UInt64 :=
  let (negative, cs) := match cs with
    | '-' :: cs => (true, cs)
    | '+' :: cs => (false, cs)
    | cs => (false, cs)
  (decimal? cs).bind fun (n, e) =>
    let bits := Binary64.round negative n e
    if Binary64.isFinite bits then some bits else none

/-- The words for numbers that are not finite. -/
def isNonFiniteWord (s : String) : Bool :=
  [".inf", ".Inf", ".INF", "+.inf", "+.Inf", "+.INF", "-.inf", "-.Inf", "-.INF", ".nan", ".NaN",
    ".NAN"].contains s

/-- What a plain scalar is. -/
inductive Resolved where
  | null
  | bool (b : Bool)
  | int (n : Int)
  | double (bits : UInt64)
  | notFinite
  | string
  deriving Repr, DecidableEq

/-- What a plain scalar without a tag is. -/
def resolve (s : String) : Resolved :=
  if s = "" ∨ isNullWord s then .null
  else
    match boolWord? s with
    | some b => .bool b
    | none =>
      match integer? s.toList with
      | some n => if width n = .unbounded then asDouble s else .int n
      | none => if hasLeadingZero s.toList then .string else asDouble s
where
  /-- A double, or a string. -/
  asDouble (s : String) : Resolved :=
    if isNonFiniteWord s then .notFinite
    else
      match double? s.toList with
      | some bits => .double bits
      | none => .string

end JobExpansion.Yaml
