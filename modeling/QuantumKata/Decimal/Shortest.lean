import QuantumKata.Decimal.Fixed

/-!
# The shortest decimal text that reads back

The numbers that round to a given floating-point number form an interval around it, whose ends
belong to it exactly when the mantissa is even.  Of all decimals in that interval the text shows
one with the fewest digits, and among those the one nearest to the number.  A decimal grid that
meets the interval at all meets it in one of the two grid points around the number, so trying the
grids of one, two, … seventeen digits at those two points finds it.
-/

namespace QuantumKata.Decimal

/-- A positive number in quarter units of its last binary place, with the interval of numbers that
round to it. -/
structure RoundingInterval where
  exponent : Int
  lower : Nat
  centre : Nat
  upper : Nat
  closed : Bool

namespace RoundingInterval

/-- The interval of `mantissa · 2 ^ exponent`.  Below a power of two the neighbouring numbers lie
twice as dense, so the lower half of the interval is half as long there. -/
def ofBinary (mantissa : Nat) (exponent : Int) : RoundingInterval where
  exponent := exponent - 2
  lower := if mantissa = Nat.pow 2 52 ∧ -1074 < exponent then 4 * mantissa - 1 else 4 * mantissa - 2
  centre := 4 * mantissa
  upper := 4 * mantissa + 2
  closed := mantissa % 2 == 0

/-- Whether `number · 10 ^ power` lies in the interval. -/
def contains (interval : RoundingInterval) (number : Nat) (power : Int) : Bool :=
  let decimal := (Quotient.mk number 1).scale power
  let unit := Quotient.ofBinary 1 interval.exponent
  let left := decimal.numerator * unit.denominator
  let right := unit.numerator * decimal.denominator
  if interval.closed then
    decide (interval.lower * right ≤ left) && decide (left ≤ interval.upper * right)
  else
    decide (interval.lower * right < left) && decide (left < interval.upper * right)

/-- The point of one decimal grid that the text may show, if the grid has one. -/
def pick? (interval : RoundingInterval) (power : Int) : Option Nat :=
  let value := (Quotient.ofBinary interval.centre interval.exponent).scale (-power)
  let nearest := value.round
  let floor := value.numerator / value.denominator
  let other := if nearest = floor then floor + 1 else floor
  if interval.contains nearest power then some nearest
  else if interval.contains other power then some other
  else none

/-- Search the grids from `count` digits on; the result is a number and its power of ten. -/
def search (interval : RoundingInterval) (leading : Int) : Nat → Nat → Nat × Int
  | 0, count => ((Quotient.ofBinary interval.centre interval.exponent).scale
      ((count : Int) - 1 - leading) |>.round, leading + 1 - count)
  | fuel + 1, count =>
    let power := leading + 1 - count
    match interval.pick? power with
    | some number => (number, power)
    | none => search interval leading fuel (count + 1)

end RoundingInterval

/-- The digits and the power of ten of the shortest decimal of a positive number, with trailing
zeros moved into the power. -/
def shortestDigits (mantissa : Nat) (exponent : Int) : List Char × Int :=
  let interval := RoundingInterval.ofBinary mantissa exponent
  let leading := (Quotient.ofBinary mantissa exponent).leadingExponent
  let (number, power) := interval.search leading 17 1
  let plain := Nat.toDigits 10 number
  let kept := (plain.reverse.dropWhile (· == '0')).reverse
  (kept, power + (plain.length - kept.length : Nat))

/-- Write digits with a power of ten.  The point stands in place when the leading digit is at most
four places behind it or sixteen before it, and a whole number keeps `.0`; all other numbers take
an exponent. -/
def writeDigits (plain : List Char) (power : Int) : String :=
  let leading : Int := power + plain.length - 1
  if -4 ≤ leading ∧ leading < 16 then
    if 0 ≤ power then
      String.ofList (plain ++ List.replicate power.toNat '0') ++ ".0"
    else if 0 ≤ leading then
      String.ofList (plain.take (leading.toNat + 1)) ++ "." ++
        String.ofList (plain.drop (leading.toNat + 1))
    else
      "0." ++ String.ofList (List.replicate ((-leading).toNat - 1) '0' ++ plain)
  else
    let fraction := String.ofList (plain.drop 1)
    String.ofList (plain.take 1) ++ (if fraction.isEmpty then "" else "." ++ fraction) ++
      exponentText leading

/-- The shortest decimal text that reads back as the number. -/
def shortest (number : Float) : String :=
  match Binary64.ofFloat number with
  | .nan => "nan"
  | .infinite negative => (if negative then "-" else "") ++ "inf"
  | .finite negative mantissa exponent =>
    (if negative then "-" else "") ++
      (if mantissa = 0 then "0.0"
       else
        let (plain, power) := shortestDigits mantissa exponent
        writeDigits plain power)

end QuantumKata.Decimal
