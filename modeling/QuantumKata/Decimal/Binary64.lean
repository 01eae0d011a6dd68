/-!
# The exact value of a floating-point number

Every finite `Float` is `± mantissa · 2 ^ exponent` for natural `mantissa` and integral `exponent`.
This file takes that form out of the bit pattern, so that every decimal text of a number can be
computed in exact natural-number arithmetic.  Rounding a quotient to the nearest integer, a half
going to the even neighbour, is the only inexact step any decimal text needs.
-/

namespace QuantumKata.Decimal

/-- A floating-point number taken apart into its exact value. -/
inductive Binary64 where
  | nan
  | infinite (negative : Bool)
  | finite (negative : Bool) (mantissa : Nat) (exponent : Int)
  deriving Repr, DecidableEq

namespace Binary64

/-- Read the sign, the exponent field and the fraction field of the bit pattern. -/
def ofFloat (number : Float) : Binary64 :=
  let bits := number.toBits.toNat
  let negative := bits / Nat.pow 2 63 == 1
  let field : Nat := bits / Nat.pow 2 52 % Nat.pow 2 11
  let fraction : Nat := bits % Nat.pow 2 52
  if field == 2047 then
    if fraction == 0 then .infinite negative else .nan
  else if field == 0 then
    .finite negative fraction (-1074)
  else
    .finite negative (fraction + Nat.pow 2 52) ((field : Int) - 1075)

end Binary64

/-- A non-negative fraction of two natural numbers. -/
structure Quotient where
  numerator : Nat
  denominator : Nat

namespace Quotient

/-- The fraction `mantissa · 2 ^ exponent`. -/
def ofBinary (mantissa : Nat) (exponent : Int) : Quotient :=
  if 0 ≤ exponent then ⟨mantissa * Nat.pow 2 exponent.toNat, 1⟩
  else ⟨mantissa, Nat.pow 2 (-exponent).toNat⟩

/-- The fraction times `10 ^ places`. -/
def scale (fraction : Quotient) (places : Int) : Quotient :=
  if 0 ≤ places then ⟨fraction.numerator * Nat.pow 10 places.toNat, fraction.denominator⟩
  else ⟨fraction.numerator, fraction.denominator * Nat.pow 10 (-places).toNat⟩

/-- The nearest natural number, a half going to the even neighbour. -/
def round (fraction : Quotient) : Nat :=
  let floor := fraction.numerator / fraction.denominator
  let rest := fraction.numerator % fraction.denominator
  if 2 * rest < fraction.denominator then floor
  else if fraction.denominator < 2 * rest then floor + 1
  else if floor % 2 = 0 then floor
  else floor + 1

/-- How many decimal digits a natural number has. -/
def digitCount (number : Nat) : Nat :=
  (Nat.toDigits 10 number).length

/-- The exponent of the leading decimal digit: the greatest `e` with `10 ^ e` at most the
fraction. -/
def leadingExponent (fraction : Quotient) : Int :=
  let guess : Int := (digitCount fraction.numerator : Int) - digitCount fraction.denominator
  let unit := fraction.scale (-guess)
  if unit.denominator ≤ unit.numerator then guess else guess - 1

end Quotient

/-- The decimal digits of a natural number. -/
def digits (number : Nat) : String :=
  String.ofList (Nat.toDigits 10 number)

/-- The decimal digits of a natural number, filled with zeros on the left. -/
def paddedDigits (width number : Nat) : String :=
  let plain := Nat.toDigits 10 number
  String.ofList (List.replicate (width - plain.length) '0' ++ plain)

/-- The decimal text of an integer. -/
def integer : Int → String
  | .ofNat number => digits number
  | .negSucc number => "-" ++ digits (number + 1)

end QuantumKata.Decimal
