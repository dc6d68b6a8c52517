import JobExpansion.Decimal.Binary64

/-!
# The shortest decimal that reads back

Every real number in an interval around a double rounds to that double; the ends belong to it
when the significand is even. `shortest` looks for the decimal of fewest digits inside: of the
two neighbours of the value on the grid of `k` significant digits, for `k` from 1 to 17, the
first that lies in the interval, and of two hits the nearer, a tie going to the even digit.
-/

namespace JobExpansion.Decimal

/-- The positive number `digits · 10 ^ exponent`. -/
structure Scaled where
  digits : Nat
  exponent : Int
  deriving DecidableEq, Repr

/-- A comparison of `a · 2 ^ p` with `d · 10 ^ e` in whole numbers. -/
def compareScaled (a : Nat) (p : Int) (d : Nat) (e : Int) : Ordering :=
  let left := a * Nat.pow 2 p.toNat * Nat.pow 10 (-e).toNat
  let right := d * Nat.pow 10 e.toNat * Nat.pow 2 (-p).toNat
  compare left right

/-- The exponent of the leading decimal digit of `a · 2 ^ p`, for `a` positive. -/
def leadingExponent (a : Nat) (p : Int) : Int :=
  -- scaled up by 10 ^ 400 every double is an integer of at least 70 digits, less a remainder
  let scaled :=
    if 0 ≤ p then a * Nat.pow 2 p.toNat * Nat.pow 10 400
    else a * Nat.pow 10 400 / Nat.pow 2 (-p).toNat
  ((Nat.toDigits 10 scaled).length : Int) - 401

/-- The largest `d` with `d · 10 ^ e ≤ a · 2 ^ p`. -/
def floorScaled (a : Nat) (p e : Int) : Nat :=
  a * Nat.pow 2 p.toNat * Nat.pow 10 (-e).toNat / (Nat.pow 10 e.toNat * Nat.pow 2 (-p).toNat)

/-- The grid point of exponent `e` that rounds to the double and lies nearest to it. -/
def onGrid? (x : Binary64.Finite) (e : Int) : Option Nat :=
  -- the double and the two ends of its interval, in quarters of its unit
  let p := x.exponent - 2
  let value := 4 * x.significand
  let low := value - (if x.closeBelow then 1 else 2)
  let high := value + 2
  let closed := x.significand % 2 = 0
  let inside (d : Nat) : Bool :=
    let below := compareScaled low p d e
    let above := compareScaled high p d e
    (below = .lt ∨ (below = .eq ∧ closed)) ∧ (above = .gt ∨ (above = .eq ∧ closed))
  let down := floorScaled value p e
  let up := down + 1
  if inside down then
    if inside up then
      -- twice the value against the sum of the neighbours
      match compareScaled (2 * value) p (down + up) e with
      | .lt => some down
      | .gt => some up
      | .eq => some (if down % 2 = 0 then down else up)
    else some down
  else if inside up then some up else none

/-- A number without the zeros at its end, each taken into the exponent. -/
def trimZeros : Nat → Nat → Int → Scaled
  | 0, d, e => ⟨d, e⟩
  | fuel + 1, d, e => if d ≠ 0 ∧ d % 10 = 0 then trimZeros fuel (d / 10) (e + 1) else ⟨d, e⟩

/-- The first grid, from `k` significant digits on, that holds a point of the interval. -/
def searchGrids (x : Binary64.Finite) (lead : Int) : Nat → Nat → Scaled
  | 0, _ => ⟨x.significand, 0⟩
  | fuel + 1, k =>
    let e := lead - ((k : Int) - 1)
    match onGrid? x e with
    | some d => trimZeros 20 d e
    | none => searchGrids x lead fuel (k + 1)

/-- The decimal of fewest digits that rounds to a positive double. -/
def shortest (x : Binary64.Finite) : Scaled :=
  searchGrids x (leadingExponent x.significand x.exponent) 18 1

end JobExpansion.Decimal
