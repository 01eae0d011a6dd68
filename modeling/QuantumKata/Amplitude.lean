import QuantumKata.Scalar

/-!
# Amplitudes

An amplitude is a complex number: the weight of one basis state in a superposition.  Its squared
magnitude is the probability of reading that basis state.
-/

namespace QuantumKata

/-- A complex number over the scalars. -/
structure Amplitude (R : Type) where
  re : R
  im : R
  deriving Repr, DecidableEq

namespace Amplitude

variable {R : Type} [Scalar R]

/-- A real number as an amplitude. -/
def ofReal (number : R) : Amplitude R := ⟨number, 0⟩

instance : Zero (Amplitude R) := ⟨⟨0, 0⟩⟩

instance : One (Amplitude R) := ⟨⟨1, 0⟩⟩

instance : Inhabited (Amplitude R) := ⟨0⟩

instance : Add (Amplitude R) :=
  ⟨fun left right => ⟨left.re + right.re, left.im + right.im⟩⟩

instance : Sub (Amplitude R) :=
  ⟨fun left right => ⟨left.re - right.re, left.im - right.im⟩⟩

instance : Neg (Amplitude R) :=
  ⟨fun number => ⟨-number.re, -number.im⟩⟩

instance : Mul (Amplitude R) :=
  ⟨fun left right =>
    ⟨left.re * right.re - left.im * right.im, left.re * right.im + left.im * right.re⟩⟩

/-- The imaginary unit. -/
def imaginary : Amplitude R := ⟨0, 1⟩

/-- The complex conjugate. -/
def conj (number : Amplitude R) : Amplitude R := ⟨number.re, -number.im⟩

/-- Multiply by a real number. -/
def scale (factor : R) (number : Amplitude R) : Amplitude R :=
  ⟨factor * number.re, factor * number.im⟩

/-- The number of magnitude one at the given angle. -/
def unit (angle : R) : Amplitude R := ⟨Scalar.cos angle, Scalar.sin angle⟩

/-- The square of the magnitude as a sum of two squares. -/
def squaredNorm (number : Amplitude R) : R :=
  number.re * number.re + number.im * number.im

/-- The magnitude. -/
def magnitude (number : Amplitude R) : R := Scalar.hypotenuse number.re number.im

/-- The probability that an amplitude stands for: the square of the magnitude. -/
def probability (number : Amplitude R) : R := number.magnitude * number.magnitude

/-- The angle of a complex number. -/
def angle (number : Amplitude R) : R := Scalar.angle number.im number.re

/-- The reciprocal. -/
def reciprocal (number : Amplitude R) : Amplitude R :=
  ⟨number.re / number.squaredNorm, -number.im / number.squaredNorm⟩

instance : Div (Amplitude R) :=
  ⟨fun left right => left * right.reciprocal⟩

/-- The sum of a list of amplitudes, from the left. -/
def sum (numbers : List (Amplitude R)) : Amplitude R :=
  numbers.foldl (· + ·) 0

end Amplitude

end QuantumKata
