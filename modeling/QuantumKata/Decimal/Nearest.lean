import QuantumKata.Decimal.Binary64

/-!
# The floating-point number nearest to a decimal

A decimal is scaled by the power of two that leaves 53 binary digits before the point, or as many as
the smallest exponent allows, and rounded once to a whole number of such units.  Scaling the result
back is exact, so this is the nearest floating-point number, a half going to the even neighbour.
-/

namespace QuantumKata.Decimal

namespace Quotient

/-- The fraction times `2 ^ exponent`. -/
def shift (fraction : Quotient) (exponent : Int) : Quotient :=
  let power := ofBinary 1 exponent
  ⟨fraction.numerator * power.numerator, fraction.denominator * power.denominator⟩

/-- The exponent of the leading binary digit: the greatest `e` with `2 ^ e` at most the fraction. -/
def leadingBit (fraction : Quotient) : Int :=
  let guess : Int := (fraction.numerator.log2 : Int) - fraction.denominator.log2
  let unit := fraction.shift (-guess)
  if unit.denominator ≤ unit.numerator then guess else guess - 1

/-- The nearest floating-point number to a positive fraction. -/
def toFloat (fraction : Quotient) : Float :=
  let exponent := max (fraction.leadingBit - 52) (-1074)
  (Float.ofNat (fraction.shift (-exponent)).round).scaleB exponent

end Quotient

/-- The floating-point number nearest to `number · 10 ^ power`.  What is certainly too large or too
small is not worked out. -/
def nearest (number : Nat) (power : Int) : Float :=
  if number = 0 then 0
  else if 400 < power then 1.0 / 0.0
  else if 3 * power + number.log2 < -1100 then 0
  else ((Quotient.mk number 1).scale power).toFloat

end QuantumKata.Decimal
