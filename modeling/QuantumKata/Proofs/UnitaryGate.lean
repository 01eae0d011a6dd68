import Mathlib.LinearAlgebra.Matrix.Notation
import Mathlib.Tactic.FinCases
import Mathlib.Tactic.LinearCombination
import QuantumKata.Gate
import QuantumKata.Proofs.Elimination

/-!
# Unitary gates

Over exact scalars the matrices of the fixed gates, of the rotations and of the global phases are
unitary.  A custom gate is checked to be unitary up to a tolerance when it is built, so whether it is
so exactly is a property that it may have or not.

The adjoint of a unitary gate has the conjugate transpose as its matrix: the closed forms are read
off, and elimination finds it for a custom gate.
-/

noncomputable section

namespace QuantumKata

open Matrix Complex

namespace SquareMatrix

/-- An exactly unitary matrix. -/
def IsUnitary (matrix : SquareMatrix ℝ) : Prop :=
  matrix.toMatrix ∈ unitaryGroup (Fin matrix.size) ℂ

theorem isUnitary_mk {size : ℕ} {rows : Vector (Vector (Amplitude ℝ) size) size} :
    IsUnitary ⟨size, rows⟩ ↔
      (toMatrix ⟨size, rows⟩ : Matrix (Fin size) (Fin size) ℂ) ∈ unitaryGroup (Fin size) ℂ :=
  Iff.rfl

/-- A matrix that is the conjugate transpose of another, entry by entry. -/
def IsAdjointOf (adjoint matrix : SquareMatrix ℝ) : Prop :=
  adjoint.size = matrix.size ∧
    ∀ row column, (adjoint.entry row column).toComplex = star (matrix.entry column row).toComplex

theorem entry_of_size_le (matrix : SquareMatrix ℝ) {row column : ℕ}
    (outside : matrix.size ≤ row ∨ matrix.size ≤ column) : matrix.entry row column = 0 := by
  rw [entry]
  split
  · split
    · omega
    · rfl
  · rfl

/-- It is enough to compare the entries inside the matrices. -/
theorem isAdjointOf_of_star {size : ℕ}
    {adjointRows rows : Vector (Vector (Amplitude ℝ) size) size}
    (same : (toMatrix ⟨size, adjointRows⟩ : Matrix (Fin size) (Fin size) ℂ) =
      star (toMatrix ⟨size, rows⟩)) :
    IsAdjointOf ⟨size, adjointRows⟩ ⟨size, rows⟩ := by
  refine ⟨rfl, fun row column => ?_⟩
  by_cases inside : row < size ∧ column < size
  · exact congrFun (congrFun same ⟨row, inside.1⟩) ⟨column, inside.2⟩
  · have outside : size ≤ row ∨ size ≤ column := by omega
    rw [entry_of_size_le _ outside, entry_of_size_le ⟨size, rows⟩ outside.symm]
    simp

/-- The conjugate transpose of a unitary matrix is unitary. -/
theorem IsAdjointOf.unitary {adjoint matrix : SquareMatrix ℝ} (conjugate : adjoint.IsAdjointOf matrix)
    (unitary : matrix.IsUnitary) : adjoint.IsUnitary := by
  rcases adjoint with ⟨adjointSize, adjointRows⟩
  rcases matrix with ⟨size, rows⟩
  rcases conjugate with ⟨sizes, entries⟩
  simp only at sizes
  subst sizes
  have same : (toMatrix ⟨adjointSize, adjointRows⟩ : Matrix (Fin adjointSize) (Fin adjointSize) ℂ) =
      star (toMatrix ⟨adjointSize, rows⟩) := by
    ext row column
    exact entries row column
  rw [isUnitary_mk] at unitary ⊢
  rw [same]
  exact Unitary.star_mem unitary

/-- The rows of a unitary matrix are orthonormal. -/
theorem sum_rows_of_unitary {matrix : SquareMatrix ℝ}
    (unitary : matrix.IsUnitary) {first second : ℕ}
    (firstInside : first < matrix.size) (secondInside : second < matrix.size) :
    ∑ middle ∈ Finset.range matrix.size,
        (matrix.entry first middle).toComplex * star (matrix.entry second middle).toComplex =
      if first = second then 1 else 0 := by
  have product := congrFun (congrFun (mem_unitaryGroup_iff.1 unitary) ⟨first, firstInside⟩)
    ⟨second, secondInside⟩
  rw [Matrix.mul_apply, Matrix.one_apply] at product
  simp only [Fin.mk.injEq] at product
  rw [Finset.sum_range, ← product]
  rfl

/-- The columns of a unitary matrix are orthonormal. -/
theorem sum_columns_of_unitary {matrix : SquareMatrix ℝ}
    (unitary : matrix.IsUnitary) {first second : ℕ}
    (firstInside : first < matrix.size) (secondInside : second < matrix.size) :
    ∑ middle ∈ Finset.range matrix.size,
        star (matrix.entry middle first).toComplex * (matrix.entry middle second).toComplex =
      if first = second then 1 else 0 := by
  have product := congrFun (congrFun (mem_unitaryGroup_iff'.1 unitary) ⟨first, firstInside⟩)
    ⟨second, secondInside⟩
  rw [Matrix.mul_apply, Matrix.one_apply] at product
  simp only [Fin.mk.injEq] at product
  rw [Finset.sum_range, ← product]
  rfl

/-! ## Two-by-two matrices -/

section TwoByTwo

variable (first second third fourth : Amplitude ℝ)

theorem toMatrix_ofRows :
    ((ofRows first second third fourth).toMatrix : Matrix (Fin 2) (Fin 2) ℂ) =
      !![first.toComplex, second.toComplex; third.toComplex, fourth.toComplex] := by
  ext row column
  fin_cases row <;> fin_cases column <;> rfl

variable {first second third fourth}

theorem ofRows_unitary
    (firstRow : first.toComplex * star first.toComplex + second.toComplex * star second.toComplex = 1)
    (secondRow :
      third.toComplex * star third.toComplex + fourth.toComplex * star fourth.toComplex = 1)
    (rows : first.toComplex * star third.toComplex + second.toComplex * star fourth.toComplex = 0) :
    (ofRows first second third fourth).IsUnitary := by
  have rowsBack :
      third.toComplex * star first.toComplex + fourth.toComplex * star second.toComplex = 0 := by
    have conjugate := congrArg star rows
    simpa [mul_comm] using conjugate
  apply isUnitary_mk.2
  rw [mem_unitaryGroup_iff]
  have entries := toMatrix_ofRows first second third fourth
  unfold ofRows at entries
  rw [entries]
  ext row column
  rw [Matrix.mul_apply, Fin.sum_univ_two]
  fin_cases row <;> fin_cases column
  · exact firstRow
  · exact rows
  · exact rowsBack
  · exact secondRow

/-- The conjugate transpose of a two-by-two matrix. -/
theorem ofRows_isAdjointOf {first' second' third' fourth' : Amplitude ℝ}
    (firstEq : first'.toComplex = star first.toComplex)
    (secondEq : second'.toComplex = star third.toComplex)
    (thirdEq : third'.toComplex = star second.toComplex)
    (fourthEq : fourth'.toComplex = star fourth.toComplex) :
    (ofRows first' second' third' fourth').IsAdjointOf (ofRows first second third fourth) := by
  apply isAdjointOf_of_star
  ext row column
  fin_cases row <;> fin_cases column
  · exact firstEq
  · exact secondEq
  · exact thirdEq
  · exact fourthEq

end TwoByTwo

end SquareMatrix

/-! ## Fixed gates, rotations and phases -/

open SquareMatrix

theorem halfRoot_mul_self : ((FixedGate.halfRoot : ℝ) : ℂ) * (FixedGate.halfRoot : ℝ) = 1 / 2 := by
  have root : (FixedGate.halfRoot : ℝ) = 1 / Real.sqrt 2 := by
    rw [FixedGate.halfRoot]
    rw [Scalar.two_eq]
    rfl
  have square : (FixedGate.halfRoot : ℝ) * FixedGate.halfRoot = 1 / 2 := by
    rw [root, div_mul_div_comm, one_mul, Real.mul_self_sqrt (by norm_num)]
  rw [← ofReal_mul, square]
  norm_num

theorem half_eq : (FixedGate.half : ℝ) = 1 / 2 := by
  rw [FixedGate.half]
  rw [Scalar.two_eq]

/-- A number on the unit circle times its conjugate. -/
theorem exp_mul_star_exp (angle : ℝ) :
    exp (angle * I) * star (exp (angle * I)) = 1 := by
  have conjugate : star (exp (angle * I)) = exp (-(angle * I)) := by
    change (starRingEnd ℂ) (exp (angle * I)) = _
    rw [← exp_conj, map_mul, conj_ofReal, conj_I, mul_neg]
  rw [conjugate, ← exp_add, add_neg_cancel, exp_zero]

theorem FixedGate.matrix_isUnitary (gate : FixedGate) : (gate.matrix : SquareMatrix ℝ).IsUnitary := by
  cases gate with
  | h =>
    have square := halfRoot_mul_self
    apply ofRows_unitary <;> simp <;> linear_combination 2 * square
  | y => apply ofRows_unitary <;> simp
  | s => apply ofRows_unitary <;> simp
  | sdg => apply ofRows_unitary <;> simp
  | t =>
    have circle := exp_mul_star_exp (Scalar.pi / Scalar.ofNat 4)
    apply ofRows_unitary <;> simp
    simpa using circle
  | tdg =>
    have circle := exp_mul_star_exp (Scalar.pi / Scalar.ofNat 4)
    apply ofRows_unitary <;> simp
    simpa [mul_comm] using circle
  | sx =>
    apply ofRows_unitary <;> apply Complex.ext <;> simp [half_eq] <;> norm_num
  | sxdg =>
    apply ofRows_unitary <;> apply Complex.ext <;> simp [half_eq] <;> norm_num
  | swap =>
    apply isUnitary_mk.2
    rw [mem_unitaryGroup_iff]
    ext row column
    rw [Matrix.mul_apply, Fin.sum_univ_four]
    fin_cases row <;> fin_cases column <;> simp [toMatrix, entry]
  | _ => apply ofRows_unitary <;> simp

theorem FixedGate.adjoint_isAdjointOf (gate : FixedGate) :
    (gate.adjoint.matrix : SquareMatrix ℝ).IsAdjointOf gate.matrix := by
  cases gate with
  | sx => apply ofRows_isAdjointOf <;> apply Complex.ext <;> simp
  | sxdg => apply ofRows_isAdjointOf <;> apply Complex.ext <;> simp
  | swap =>
    apply isAdjointOf_of_star
    ext row column
    fin_cases row <;> fin_cases column <;> simp [toMatrix, entry]
  | _ => apply ofRows_isAdjointOf <;> simp

/-- The sine and the cosine of an angle are the coordinates of a point of the unit circle. -/
theorem cos_mul_self_add_sin_mul_self (angle : ℝ) :
    ((Real.cos angle : ℝ) : ℂ) * (Real.cos angle : ℝ) +
      ((Real.sin angle : ℝ) : ℂ) * (Real.sin angle : ℝ) = 1 := by
  rw [← ofReal_mul, ← ofReal_mul, ← ofReal_add]
  have circle : Real.cos angle * Real.cos angle + Real.sin angle * Real.sin angle = 1 := by
    linear_combination Real.sin_sq_add_cos_sq angle
  rw [circle, ofReal_one]

theorem Rotation.matrix_isUnitary (axis : Rotation) (angle : ℝ) :
    (axis.matrix angle).IsUnitary := by
  have circle := cos_mul_self_add_sin_mul_self (angle / Scalar.two)
  unfold Rotation.matrix
  simp only [Scalar.cos_eq, Scalar.sin_eq]
  generalize Real.cos (angle / Scalar.two) = across at circle ⊢
  generalize Real.sin (angle / Scalar.two) = along at circle ⊢
  cases axis with
  | rx =>
    apply ofRows_unitary
    · simp
      linear_combination circle - (along : ℂ) ^ 2 * I_mul_I
    · simp
      linear_combination circle - (along : ℂ) ^ 2 * I_mul_I
    · simp
      ring
  | ry =>
    apply ofRows_unitary
    · simp
      linear_combination circle
    · simp
      linear_combination circle
    · simp
      ring
  | rz =>
    apply ofRows_unitary
    · rw [Amplitude.toComplex_unit, exp_mul_star_exp]
      simp
    · rw [Amplitude.toComplex_unit, exp_mul_star_exp]
      simp
    · simp
  | r1 =>
    apply ofRows_unitary
    · simp
    · rw [Amplitude.toComplex_unit, exp_mul_star_exp]
      simp
    · simp

/-- The conjugate of a number of magnitude one is the one at the opposite angle. -/
theorem unit_neg (angle : ℝ) :
    (Amplitude.unit (-angle)).toComplex = star (Amplitude.unit angle).toComplex := by
  apply Complex.ext
  · exact Real.cos_neg angle
  · exact Real.sin_neg angle

theorem Rotation.neg_isAdjointOf (axis : Rotation) (angle : ℝ) :
    (axis.matrix (-angle)).IsAdjointOf (axis.matrix angle) := by
  have half : -angle / Scalar.two = -(angle / Scalar.two) := neg_div _ _
  unfold Rotation.matrix
  simp only [half, Scalar.cos_eq, Scalar.sin_eq, Real.cos_neg, Real.sin_neg]
  generalize Real.cos (angle / Scalar.two) = across
  generalize Real.sin (angle / Scalar.two) = along
  cases axis with
  | rx => apply ofRows_isAdjointOf <;> simp
  | ry => apply ofRows_isAdjointOf <;> simp
  | rz =>
    apply ofRows_isAdjointOf
    · exact unit_neg _
    · simp
    · simp
    · exact unit_neg _
  | r1 =>
    apply ofRows_isAdjointOf
    · simp
    · simp
    · simp
    · exact unit_neg _

/-! ## Gates -/

namespace Gate

/-- A gate whose matrix is exactly unitary. -/
def IsUnitary (gate : Gate ℝ) : Prop := gate.matrix.IsUnitary

theorem isUnitary_fixed (gate : FixedGate) : (fixed gate : Gate ℝ).IsUnitary :=
  gate.matrix_isUnitary

theorem isUnitary_rotation (axis : Rotation) (angle : ℝ) : (rotation axis angle).IsUnitary :=
  axis.matrix_isUnitary angle

theorem toMatrix_globalPhase (angle : ℝ) (row column : Fin 1) :
    (globalPhase angle).matrix.toMatrix row column = exp (angle * I) := by
  fin_cases row
  fin_cases column
  exact Amplitude.toComplex_unit angle

theorem isUnitary_globalPhase (angle : ℝ) : (globalPhase angle).IsUnitary := by
  apply isUnitary_mk.2
  rw [mem_unitaryGroup_iff]
  ext row column
  rw [Matrix.mul_apply, Fin.sum_univ_one, Matrix.one_apply, if_pos (Subsingleton.elim _ _)]
  have entries := toMatrix_globalPhase angle
  exact (congrArg₂ (fun first second => first * star second) (entries row 0)
    (entries column 0)).trans (exp_mul_star_exp angle)

theorem globalPhase_isAdjointOf (angle : ℝ) :
    (globalPhase (-angle)).matrix.IsAdjointOf (globalPhase angle).matrix := by
  apply isAdjointOf_of_star
  ext row column
  fin_cases row
  fin_cases column
  exact unit_neg angle

/-- A custom gate is undone by the inverse of its matrix, where there is one. -/
theorem adjoint_custom {R : Type} [Scalar R] {gate : CustomGate R} {inverse : Gate R} :
    (custom gate).adjoint = .ok inverse ↔
      ∃ matrix, ∃ found : gate.matrix.inverse? = some matrix,
        inverse = .custom ⟨toggleMark gate.name, gate.numQubits, matrix,
          (inverse?_size found).trans gate.size_eq⟩ := by
  dsimp only [adjoint]
  split
  · rename_i none
    simp [none]
  · rename_i matrix found
    constructor
    · intro built
      exact ⟨matrix, found, (Except.ok.inj built).symm⟩
    · rintro ⟨other, alsoFound, rfl⟩
      have same : matrix = other := Option.some.inj (found.symm.trans alsoFound)
      subst same
      rfl

/-- A unitary gate has an adjoint. -/
theorem exists_adjoint {gate : Gate ℝ} (unitary : gate.IsUnitary) :
    ∃ inverse, gate.adjoint = .ok inverse := by
  cases gate with
  | fixed gate => exact ⟨_, rfl⟩
  | rotation axis angle => exact ⟨_, rfl⟩
  | globalPhase angle => exact ⟨_, rfl⟩
  | custom gate =>
    rcases gate.matrix.inverse?_of_unitary unitary with ⟨rows, found, -⟩
    exact ⟨_, adjoint_custom.2 ⟨_, found, rfl⟩⟩

/-- The adjoint of a unitary gate has the conjugate transpose as its matrix. -/
theorem adjoint_isAdjointOf {gate inverse : Gate ℝ} (unitary : gate.IsUnitary)
    (built : gate.adjoint = .ok inverse) : inverse.matrix.IsAdjointOf gate.matrix := by
  cases gate with
  | fixed gate =>
    cases built
    exact gate.adjoint_isAdjointOf
  | rotation axis angle =>
    cases built
    exact axis.neg_isAdjointOf angle
  | globalPhase angle =>
    cases built
    exact globalPhase_isAdjointOf angle
  | custom gate =>
    rcases gate.matrix.inverse?_of_unitary unitary with ⟨rows, found, conjugate⟩
    rcases adjoint_custom.1 built with ⟨matrix, alsoFound, rfl⟩
    have same : matrix = ⟨gate.matrix.size, rows⟩ := Option.some.inj (alsoFound.symm.trans found)
    subst same
    exact isAdjointOf_of_star conjugate

/-- The adjoint of a unitary gate is unitary, and has as many qubits. -/
theorem adjoint_isUnitary {gate inverse : Gate ℝ} (unitary : gate.IsUnitary)
    (built : gate.adjoint = .ok inverse) : inverse.IsUnitary :=
  (adjoint_isAdjointOf unitary built).unitary unitary

theorem adjoint_numQubits {R : Type} [Scalar R] {gate inverse : Gate R}
    (built : gate.adjoint = .ok inverse) : inverse.numQubits = gate.numQubits := by
  cases gate with
  | fixed gate =>
    cases built
    cases gate <;> rfl
  | rotation axis angle =>
    cases built
    rfl
  | globalPhase angle =>
    cases built
    rfl
  | custom gate =>
    rcases adjoint_custom.1 built with ⟨matrix, found, rfl⟩
    rfl

end Gate

end QuantumKata

end
