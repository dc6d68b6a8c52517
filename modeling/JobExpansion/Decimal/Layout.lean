import JobExpansion.Decimal.Shortest

/-!
# How a decimal is written

`Layout` says which exponents are written in plain notation and how the others are marked.
Both notations of the library agree on everything but the sign of a positive exponent.
-/

namespace JobExpansion.Decimal

/-- The choices of a notation. -/
structure Layout where
  /-- Plain notation is used for leading exponents from here … -/
  plainFrom : Int := -5
  /-- … to before here. -/
  plainBelow : Int := 16
  /-- A positive exponent has a plus sign. -/
  plusSign : Bool
  deriving DecidableEq, Repr

/-- Numbers in keys, option values and JSON text: `1e+16`. -/
def Layout.signed : Layout where plusSign := true

/-- Numbers in YAML text: `1e16`. -/
def Layout.bare : Layout where plusSign := false

/-- The digits of a number, as many zeros as places say put in front or behind. -/
def plain (digits : String) (exponent : Int) : String :=
  let n : Int := digits.length
  if 0 ≤ exponent then digits ++ String.ofList (List.replicate exponent.toNat '0') ++ ".0"
  else
    let point := n + exponent
    if 0 < point then
      (digits.take point.toNat).toString ++ "." ++ (digits.drop point.toNat).toString
    else "0." ++ String.ofList (List.replicate (-point).toNat '0') ++ digits

/-- One digit before the point, the others behind it, and the exponent of that digit. -/
def scientific (layout : Layout) (digits : String) (lead : Int) : String :=
  let mantissa :=
    if digits.length = 1 then digits
    else (digits.take 1).toString ++ "." ++ (digits.drop 1).toString
  let sign := if layout.plusSign ∧ 0 ≤ lead then "+" else ""
  mantissa ++ "e" ++ sign ++ toString lead

/-- The text of a positive decimal. -/
def Scaled.text (layout : Layout) (x : Scaled) : String :=
  let digits := toString x.digits
  let lead := x.exponent + digits.length - 1
  if layout.plainFrom ≤ lead ∧ lead < layout.plainBelow then plain digits x.exponent
  else scientific layout digits lead

/-- The text of a double; one that is not finite has none. -/
def text? (layout : Layout) (bits : UInt64) : Option String :=
  (Binary64.decode bits).map fun x =>
    let magnitude := if x.significand = 0 then "0.0" else (shortest x).text layout
    if x.negative then "-" ++ magnitude else magnitude

end JobExpansion.Decimal
