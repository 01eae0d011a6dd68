import QuantumKata.Decimal.Binary64

/-!
# Decimal text with a chosen number of digits

Two formats round the exact value once.  The *fixed* format keeps a chosen number of places after
the point; the *brief* format keeps a chosen number of significant digits, drops trailing zeros
and turns to exponent notation when the leading digit is more than four places behind the point or
does not fit before it.
-/

namespace QuantumKata.Decimal

/-- Put a point before the last `places` digits of a natural number. -/
def withPoint (places number : Nat) : String :=
  if places = 0 then digits number
  else
    let plain := (paddedDigits (places + 1) number).toList
    String.ofList (plain.take (plain.length - places)) ++ "." ++
      String.ofList (plain.drop (plain.length - places))

/-- The text of a number with `places` digits after the point; `plus` is the sign of a number
that is not negative. -/
def fixedSigned (plus : String) (places : Nat) (number : Float) : String :=
  match Binary64.ofFloat number with
  | .nan => plus ++ "nan"
  | .infinite negative => (if negative then "-" else plus) ++ "inf"
  | .finite negative mantissa exponent =>
    (if negative then "-" else plus) ++
      withPoint places ((Quotient.ofBinary mantissa exponent).scale places).round

/-- The text of a number with `places` digits after the point. -/
def fixed (places : Nat) (number : Float) : String :=
  fixedSigned "" places number

/-- A fraction as a percentage with one digit after the point. -/
def percentage (number : Float) : String :=
  fixed 1 (number * 100) ++ "%"

/-- Drop trailing zeros, and the point when nothing is left behind it. -/
def dropTrailingZeros (text : List Char) : List Char :=
  if text.contains '.' then
    let kept := (text.reverse.dropWhile (· == '0')).reverse
    if kept.getLast? == some '.' then kept.dropLast else kept
  else text

/-- The exponent of a power of ten: a sign and at least two digits. -/
def exponentText (exponent : Int) : String :=
  "e" ++ (if exponent < 0 then "-" else "+") ++ paddedDigits 2 exponent.natAbs

/-- The text of a positive fraction with at most `count` significant digits. -/
def Quotient.brief (count : Nat) (fraction : Quotient) : String :=
  let estimate := fraction.leadingExponent
  let rounded := (fraction.scale ((count : Int) - 1 - estimate)).round
  let (exponent, number) :=
    if rounded = Nat.pow 10 count then (estimate + 1, Nat.pow 10 (count - 1))
    else (estimate, rounded)
  if exponent < -4 ∨ (count : Int) ≤ exponent then
    String.ofList (dropTrailingZeros (withPoint (count - 1) number).toList) ++
      exponentText exponent
  else
    String.ofList (dropTrailingZeros
      (withPoint ((count : Int) - 1 - exponent).toNat number).toList)

/-- The text of a number with at most four significant digits. -/
def brief (number : Float) : String :=
  match Binary64.ofFloat number with
  | .nan => "nan"
  | .infinite negative => (if negative then "-" else "") ++ "inf"
  | .finite negative mantissa exponent =>
    (if negative then "-" else "") ++
      (if mantissa = 0 then "0" else (Quotient.ofBinary mantissa exponent).brief 4)

end QuantumKata.Decimal
