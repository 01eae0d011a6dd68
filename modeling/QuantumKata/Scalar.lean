import QuantumKata.Decimal.Fixed

/-!
# Real numbers to compute with

The simulation is written over any type of *scalars*: numbers with the four operations, square
roots, the trigonometric functions and comparisons that answer with a truth value.  Floating-point
numbers are the scalars a program runs on; the laws of the simulation are about exact real numbers,
which are scalars as well.  Comparisons with a value that is not a number are false, so `atMost` is
not the negation of `less` with its arguments exchanged.
-/

namespace QuantumKata

/-- Real numbers as the simulation needs them. -/
class Scalar (R : Type) extends Add R, Sub R, Mul R, Div R, Neg R, Zero R, One R where
  /-- The number `mantissa / 10 ^ places`. -/
  decimal : (mantissa places : Nat) → R
  pi : R
  sqrt : R → R
  cos : R → R
  sin : R → R
  /-- The angle of the point with the given height and width. -/
  angle : (height width : R) → R
  /-- The distance of a point from the origin. -/
  hypotenuse : R → R → R
  less : R → R → Bool
  atMost : R → R → Bool
  /-- Whether the value fails to be a number. -/
  isUndefined : R → Bool
  /-- The text of a number inside names. -/
  brief : R → String

namespace Scalar

variable {R : Type} [Scalar R]

/-- The number two. -/
def two : R := 1 + 1

/-- The distance from zero. -/
def magnitude (number : R) : R :=
  if less number 0 then -number else number

/-- The tolerance of comparisons for which no other is given. -/
def defaultTolerance : R := decimal 1 9

/-- Whether a number is finite: taken from itself it leaves a number. -/
def isFinite (number : R) : Bool := !isUndefined (number - number)

/-- A natural number as a scalar. -/
def ofNat (number : Nat) : R := decimal number 0

/-- The sum of a list of scalars, from the left. -/
def sum (numbers : List R) : R :=
  numbers.foldl (· + ·) 0

end Scalar

/-- The distance of a point from the origin.  The greater coordinate is factored out when the
squares would leave the range of floating-point numbers. -/
def Scalar.hypotenuseOfFloat (width height : Float) : Float :=
  let direct := width * width + height * height
  if 1e-280 < direct && direct < 1e280 then direct.sqrt
  else if width.isInf || height.isInf then 1.0 / 0.0
  else if direct.isNaN then direct
  else
    let longer := if height.abs < width.abs then width.abs else height.abs
    if longer == 0 then longer
    else
      let across := width / longer
      let along := height / longer
      longer * (across * across + along * along).sqrt

instance : Scalar Float where
  zero := 0
  one := 1
  decimal mantissa places := Float.ofScientific mantissa true places
  pi := 3.141592653589793
  sqrt := Float.sqrt
  cos := Float.cos
  sin := Float.sin
  angle := Float.atan2
  hypotenuse := Scalar.hypotenuseOfFloat
  less left right := left < right
  atMost left right := left ≤ right
  isUndefined := Float.isNaN
  brief := Decimal.brief

end QuantumKata
