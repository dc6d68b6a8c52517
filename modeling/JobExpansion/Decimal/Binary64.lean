/-!
# Doubles as scaled integers

The 64 bits of a finite double stand for `± significand · 2 ^ exponent`. `decode` reads that
off the bits, and `round` goes back from an exact decimal `m · 10 ^ e` to the nearest double,
a tie going to the even significand.
-/

namespace JobExpansion.Binary64

/-- A finite double: `± significand · 2 ^ exponent`. -/
structure Finite where
  /-- The sign bit is set. -/
  negative : Bool
  significand : Nat
  exponent : Int
  /-- The next smaller double is only half as far away as the next larger one. -/
  closeBelow : Bool
  deriving DecidableEq, Repr

/-- The number behind 64 bits; infinities and NaN have none. -/
def decode (bits : UInt64) : Option Finite :=
  let negative := bits >>> 63 = 1
  let biased := ((bits >>> 52) &&& 0x7FF).toNat
  let fraction := (bits &&& 0xFFFFFFFFFFFFF).toNat
  if biased = 0x7FF then none
  else if biased = 0 then some ⟨negative, fraction, -1074, false⟩
  else some ⟨negative, fraction + Nat.pow 2 52, (biased : Int) - 1075, fraction = 0 ∧ 1 < biased⟩

/-- The bits of positive infinity. -/
def infinity : UInt64 := 0x7FF0000000000000

/-- The sign bit. -/
def signBit : UInt64 := 0x8000000000000000

/-- The bits of a finite number; everything else is an infinity or NaN. -/
def isFinite (bits : UInt64) : Bool := (decode bits).isSome

/-- A quotient rounded to the nearest integer, a tie going to the even one. -/
def roundDiv (num den : Nat) : Nat :=
  let q := num / den
  let r := num % den
  if 2 * r < den then q
  else if den < 2 * r then q + 1
  else q + q % 2

/-- The magnitude `num / den` as the bits of the nearest double; too large a one is infinite. -/
def roundRatio (num den : Nat) : UInt64 :=
  if num = 0 then 0 else
  -- the binary exponent of the quotient, exact or one too large
  let guess : Int := (Nat.log2 num : Int) - (Nat.log2 den : Int)
  let reaches (e : Int) : Bool :=
    if 0 ≤ e then den * Nat.pow 2 e.toNat ≤ num else den ≤ num * Nat.pow 2 (-e).toNat
  let lead := if reaches guess then guess else guess - 1
  -- the grid on which doubles of that size lie
  let q := max (lead - 52) (-1074)
  let r :=
    if 0 ≤ q then roundDiv num (den * Nat.pow 2 q.toNat)
    else roundDiv (num * Nat.pow 2 (-q).toNat) den
  -- a significand that rounds up to the next power of two carries into the exponent field
  let code := r + (q + 1074).toNat * Nat.pow 2 52
  if infinity.toNat ≤ code then infinity else code.toUInt64

/-- The decimal `± m · 10 ^ e` as the bits of the nearest double. -/
def round (negative : Bool) (m : Nat) (e : Int) : UInt64 :=
  let digits := (Nat.toDigits 10 m).length
  let magnitude :=
    if m = 0 then 0
    else if 310 < e + digits then infinity
    else if e + digits < -330 then 0
    else if 0 ≤ e then roundRatio (m * Nat.pow 10 e.toNat) 1
    else roundRatio m (Nat.pow 10 (-e).toNat)
  if negative then magnitude ||| signBit else magnitude

end JobExpansion.Binary64
