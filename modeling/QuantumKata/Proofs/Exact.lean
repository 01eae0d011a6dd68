import Mathlib.Analysis.Complex.Norm
import Mathlib.Analysis.SpecialFunctions.Complex.Arg
import QuantumKata.Amplitude

/-!
# Exact scalars

The real numbers are scalars, and the amplitudes over them are the complex numbers.  The laws that
need exact arithmetic are stated for these scalars.

A decimal is the fraction that it stands for, comparisons are decided by the order, no value fails
to be a number, and the angle of a point is the argument of the complex number at that point.  An
exact number has no short text, so all of them are shown in the same way.
-/

noncomputable section

namespace QuantumKata

open Complex

instance : Scalar ℝ where
  toAdd := inferInstance
  toSub := inferInstance
  toMul := inferInstance
  toDiv := inferInstance
  toNeg := inferInstance
  toZero := inferInstance
  toOne := inferInstance
  decimal mantissa places := mantissa / 10 ^ places
  pi := Real.pi
  sqrt := Real.sqrt
  cos := Real.cos
  sin := Real.sin
  angle height width := arg ⟨width, height⟩
  hypotenuse width height := Real.sqrt (width * width + height * height)
  less left right := decide (left < right)
  atMost left right := decide (left ≤ right)
  isUndefined _ := false
  brief _ := "r"

namespace Scalar

theorem two_eq : (two : ℝ) = 2 := one_add_one_eq_two

theorem cos_eq (angle : ℝ) : cos angle = Real.cos angle := rfl

theorem sin_eq (angle : ℝ) : sin angle = Real.sin angle := rfl

theorem less_iff {left right : ℝ} : less left right = true ↔ left < right := decide_eq_true_iff

theorem atMost_iff {left right : ℝ} : atMost left right = true ↔ left ≤ right :=
  decide_eq_true_iff

theorem magnitude_eq (number : ℝ) : magnitude number = |number| := by
  rw [magnitude]
  split
  · rename_i negative
    exact (abs_of_neg (less_iff.1 negative)).symm
  · rename_i notNegative
    exact (abs_of_nonneg (not_lt.1 (mt less_iff.2 notNegative))).symm

theorem ofNat_eq (number : ℕ) : (ofNat number : ℝ) = number := by
  change (number : ℝ) / 10 ^ 0 = number
  rw [pow_zero, div_one]

/-- The sum of a list from the left is the sum of the list. -/
theorem sum_eq (numbers : List ℝ) : sum numbers = numbers.sum :=
  List.sum_eq_foldl.symm

end Scalar

namespace Amplitude

/-- An exact amplitude as a complex number. -/
def toComplex (number : Amplitude ℝ) : ℂ := ⟨number.re, number.im⟩

@[simp]
theorem toComplex_re (number : Amplitude ℝ) : number.toComplex.re = number.re := rfl

@[simp]
theorem toComplex_im (number : Amplitude ℝ) : number.toComplex.im = number.im := rfl

theorem toComplex_injective : Function.Injective toComplex := by
  intro left right same
  rcases left with ⟨leftRe, leftIm⟩
  rcases right with ⟨rightRe, rightIm⟩
  simp only [toComplex, Complex.mk.injEq] at same
  rw [same.1, same.2]

@[simp]
theorem toComplex_zero : (0 : Amplitude ℝ).toComplex = 0 := rfl

@[simp]
theorem toComplex_one : (1 : Amplitude ℝ).toComplex = 1 := rfl

@[simp]
theorem toComplex_add (left right : Amplitude ℝ) :
    (left + right).toComplex = left.toComplex + right.toComplex := rfl

@[simp]
theorem toComplex_sub (left right : Amplitude ℝ) :
    (left - right).toComplex = left.toComplex - right.toComplex := rfl

@[simp]
theorem toComplex_neg (number : Amplitude ℝ) : (-number).toComplex = -number.toComplex := rfl

@[simp]
theorem toComplex_mul (left right : Amplitude ℝ) :
    (left * right).toComplex = left.toComplex * right.toComplex := by
  apply Complex.ext
  · rw [Complex.mul_re]
    rfl
  · rw [Complex.mul_im]
    rfl

@[simp]
theorem toComplex_ofReal (number : ℝ) : (ofReal number : Amplitude ℝ).toComplex = number := rfl

@[simp]
theorem toComplex_imaginary : (imaginary : Amplitude ℝ).toComplex = I := rfl

@[simp]
theorem toComplex_conj (number : Amplitude ℝ) :
    number.conj.toComplex = star number.toComplex := rfl

/-- The amplitude of magnitude one at an angle is the exponential. -/
@[simp]
theorem toComplex_unit (angle : ℝ) : (unit angle).toComplex = exp (angle * I) := by
  rw [exp_mul_I, ← ofReal_cos, ← ofReal_sin]
  apply Complex.ext
  · simp [unit]
    rfl
  · simp [unit]
    rfl

theorem magnitude_eq (number : Amplitude ℝ) : number.magnitude = ‖number.toComplex‖ := rfl

/-- The probability of an amplitude is the square of its norm. -/
theorem probability_eq (number : Amplitude ℝ) :
    number.probability = normSq number.toComplex := by
  rw [probability]
  rw [magnitude_eq, Complex.norm_mul_self_eq_normSq]

theorem angle_eq (number : Amplitude ℝ) : number.angle = arg number.toComplex := rfl

@[simp]
theorem toComplex_reciprocal (number : Amplitude ℝ) :
    number.reciprocal.toComplex = number.toComplex⁻¹ := by
  apply Complex.ext
  · rw [Complex.inv_re]
    rfl
  · rw [Complex.inv_im]
    rfl

@[simp]
theorem toComplex_div (left right : Amplitude ℝ) :
    (left / right).toComplex = left.toComplex / right.toComplex := by
  change (left * right.reciprocal).toComplex = _
  rw [toComplex_mul, toComplex_reciprocal, div_eq_mul_inv]

@[simp]
theorem toComplex_sum (numbers : List (Amplitude ℝ)) :
    (sum numbers).toComplex = (numbers.map toComplex).sum := by
  rw [sum]
  have general : ∀ start : Amplitude ℝ,
      (numbers.foldl (· + ·) start).toComplex =
        start.toComplex + (numbers.map toComplex).sum := by
    induction numbers with
    | nil =>
      intro start
      simp
    | cons first rest ih =>
      intro start
      rw [List.foldl_cons, ih, toComplex_add, List.map_cons, List.sum_cons, add_assoc]
  rw [general, toComplex_zero, zero_add]

end Amplitude

end QuantumKata

end
