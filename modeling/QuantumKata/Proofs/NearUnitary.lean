import Mathlib.Algebra.Order.Chebyshev
import QuantumKata.Proofs.Holding

/-!
# Nearly unitary gates

A custom gate is accepted when the inner products of its columns are near those of orthonormal
columns, entry by entry.  A vector of `N` amplitudes turns `N ^ 2` entries, each off by at most the
tolerance, into a change of its squared norm: by the inequality of Cauchy and Schwarz the change is
at most `N` times the tolerance and the allowance of the diagonal, in proportion to the squared norm.
With the tolerance for which no other is given this share is `1.1e-5 + (N - 1) * 1e-6`.

As long as the share is less than one, no vector but zero is taken to zero, so elimination finds the
inverse; and it finds the inverse of the inverse, which is the matrix itself.  That is so for gates
of up to nineteen qubits.

On a register the gate acts on many vectors of `N` amplitudes at a time.  Summed over all indices at
which the controls read one, each of these vectors is counted `N` times on either side.
-/

noncomputable section

namespace QuantumKata

open Matrix

namespace SquareMatrix

/-! ## Matrices with nearly orthonormal columns -/

section

variable {size : ℕ}

/-- The inner products of the columns are within the tolerance of those of orthonormal columns, with
an allowance on the diagonal. -/
def IsNear (tolerance allowance : ℝ) (matrix : Matrix (Fin size) (Fin size) ℂ) : Prop :=
  ∀ row column, ‖(matrixᴴ * matrix - 1) row column‖ ≤
    tolerance + if row = column then allowance else 0

/-- The sum of the squared magnitudes of a vector. -/
def squaredLength (vector : Fin size → ℂ) : ℝ := ∑ index, ‖vector index‖ ^ 2

theorem squaredLength_eq (vector : Fin size → ℂ) :
    (squaredLength vector : ℂ) = star vector ⬝ᵥ vector := by
  rw [squaredLength, Complex.ofReal_sum]
  refine Finset.sum_congr rfl fun index _ => ?_
  rw [Complex.ofReal_pow]
  exact (Complex.conj_mul' (vector index)).symm

theorem eq_zero_of_squaredLength {vector : Fin size → ℂ} (zero : squaredLength vector = 0) :
    vector = 0 := by
  funext index
  have term := (Finset.sum_eq_zero_iff_of_nonneg fun index _ => sq_nonneg ‖vector index‖).1 zero
    index (Finset.mem_univ index)
  exact norm_eq_zero.1 (pow_eq_zero_iff two_ne_zero |>.1 term)

variable {matrix : Matrix (Fin size) (Fin size) ℂ} {tolerance allowance : ℝ}

/-- The change of the squared norm as a sum over all pairs of amplitudes. -/
theorem squaredLength_mulVec_sub (matrix : Matrix (Fin size) (Fin size) ℂ)
    (vector : Fin size → ℂ) :
    ((squaredLength (matrix *ᵥ vector) - squaredLength vector : ℝ) : ℂ) =
      ∑ row, ∑ column, star (vector row) *
        ((matrixᴴ * matrix - 1) row column * vector column) := by
  have product : star (matrix *ᵥ vector) ⬝ᵥ (matrix *ᵥ vector) =
      star vector ⬝ᵥ ((matrixᴴ * matrix) *ᵥ vector) := by
    rw [Matrix.star_mulVec, ← Matrix.dotProduct_mulVec, Matrix.mulVec_mulVec]
  have difference : (matrixᴴ * matrix - 1) *ᵥ vector = (matrixᴴ * matrix) *ᵥ vector - vector := by
    rw [Matrix.sub_mulVec, Matrix.one_mulVec]
  rw [Complex.ofReal_sub, squaredLength_eq, squaredLength_eq, product, ← dotProduct_sub,
    ← difference]
  simp only [dotProduct, Matrix.mulVec, Finset.mul_sum, Pi.star_apply]

/-- A matrix with nearly orthonormal columns nearly keeps squared norms. -/
theorem IsNear.abs_squaredLength_sub_le (near : IsNear tolerance allowance matrix)
    (nonneg : 0 ≤ tolerance) (vector : Fin size → ℂ) :
    |squaredLength (matrix *ᵥ vector) - squaredLength vector| ≤
      (size * tolerance + allowance) * squaredLength vector := by
  have squares : (∑ index, ‖vector index‖) ^ 2 ≤ size * squaredLength vector := by
    have bound := sq_sum_le_card_mul_sum_sq (s := Finset.univ) (f := fun index => ‖vector index‖)
    rwa [Finset.card_univ, Fintype.card_fin] at bound
  rw [← Real.norm_eq_abs, ← Complex.norm_real, squaredLength_mulVec_sub]
  calc
    ‖∑ row, ∑ column, star (vector row) * ((matrixᴴ * matrix - 1) row column * vector column)‖ ≤
        ∑ row, ∑ column, ‖vector row‖ *
          ((tolerance + if row = column then allowance else 0) * ‖vector column‖) := by
      refine (norm_sum_le _ _).trans (Finset.sum_le_sum fun row _ => ?_)
      refine (norm_sum_le _ _).trans (Finset.sum_le_sum fun column _ => ?_)
      rw [norm_mul, norm_mul, norm_star]
      gcongr
      exact near row column
    _ = tolerance * (∑ index, ‖vector index‖) ^ 2 + allowance * squaredLength vector := by
      have inner : ∀ row, ∑ column, ‖vector row‖ *
          ((tolerance + if row = column then allowance else 0) * ‖vector column‖) =
            tolerance * (‖vector row‖ * ∑ column, ‖vector column‖) +
              allowance * ‖vector row‖ ^ 2 := by
        intro row
        simp only [add_mul, mul_add, ite_mul, mul_ite, zero_mul, mul_zero, Finset.sum_add_distrib,
          Finset.sum_ite_eq, Finset.mem_univ, if_true, Finset.mul_sum]
        congr 1
        · exact Finset.sum_congr rfl fun column _ => by ring
        · ring
      rw [Finset.sum_congr rfl fun row _ => inner row, Finset.sum_add_distrib, ← Finset.mul_sum,
        ← Finset.sum_mul, ← sq, ← Finset.mul_sum, squaredLength]
    _ ≤ tolerance * (size * squaredLength vector) + allowance * squaredLength vector := by
      gcongr
    _ = (size * tolerance + allowance) * squaredLength vector := by ring

/-- When the squared norm changes by less than itself, only zero is taken to zero. -/
theorem IsNear.faithful (near : IsNear tolerance allowance matrix) (nonneg : 0 ≤ tolerance)
    (small : size * tolerance + allowance < 1) (vector : Fin size → ℂ)
    (vanishes : matrix *ᵥ vector = 0) : vector = 0 := by
  have length_nonneg : 0 ≤ squaredLength vector := Finset.sum_nonneg fun _ _ => sq_nonneg _
  have bound := near.abs_squaredLength_sub_le nonneg vector
  have none : squaredLength (0 : Fin size → ℂ) = 0 := by simp [squaredLength]
  rw [vanishes, none, zero_sub, abs_neg, abs_of_nonneg length_nonneg] at bound
  exact eq_zero_of_squaredLength (by nlinarith)

end

/-! ## The test for unitary matrices -/

theorem entry_ofEntries {size : ℕ} (value : ℕ → ℕ → Amplitude ℝ) {row column : ℕ}
    (inRows : row < size) (inColumns : column < size) :
    (ofEntries size value).entry row column = value row column := by
  simp [entry, ofEntries, inRows, inColumns]

/-- The product that is tested holds the inner products of the columns. -/
theorem toComplex_gram (matrix : SquareMatrix ℝ) (row column : Fin matrix.size) :
    ((matrix.adjoint.multiply matrix).entry row column).toComplex =
      (matrix.toMatrixᴴ * matrix.toMatrix) row column := by
  have product : (matrix.adjoint.multiply matrix).entry row column =
      Amplitude.sum ((List.range matrix.size).map fun middle =>
        matrix.adjoint.entry row middle * matrix.entry middle column) :=
    entry_ofEntries _ row.isLt column.isLt
  have terms : ∀ middle : Fin matrix.size,
      (matrix.adjoint.entry row middle * matrix.entry middle column).toComplex =
        matrix.toMatrixᴴ row middle * matrix.toMatrix middle column := by
    intro middle
    have conjugate : matrix.adjoint.entry row middle = (matrix.entry middle row).conj :=
      entry_ofEntries _ row.isLt middle.isLt
    rw [conjugate, Amplitude.toComplex_mul, Amplitude.toComplex_conj]
    rfl
  rw [product, Amplitude.toComplex_sum, List.map_map, Matrix.mul_apply]
  change ∑ middle ∈ Finset.range matrix.size, (matrix.adjoint.entry row middle *
    matrix.entry middle column).toComplex = _
  rw [Finset.sum_range]
  exact Finset.sum_congr rfl fun middle _ => terms middle

/-- A number that is close to another in the test differs from it by no more than the tolerance and a
small part of the other. -/
theorem norm_sub_le_of_isClose {tolerance : ℝ} {left right : Amplitude ℝ}
    (close : isClose tolerance left right = true) :
    ‖left.toComplex - right.toComplex‖ ≤ tolerance + 1e-5 * ‖right.toComplex‖ := by
  rw [isClose, Bool.and_eq_true, Scalar.atMost_iff, Amplitude.magnitude_eq, Amplitude.magnitude_eq,
    Amplitude.toComplex_sub] at close
  have part : (Scalar.decimal 1 5 : ℝ) = 1e-5 := by
    change ((1 : ℤ) : ℝ) / 10 ^ 5 = 1e-5
    norm_num
  exact part ▸ close.2

/-- A matrix that passes the test for unitary matrices has nearly orthonormal columns. -/
theorem isNear_of_isUnitary {matrix : SquareMatrix ℝ} {tolerance : ℝ}
    (passed : matrix.isUnitary tolerance = true) : IsNear tolerance 1e-5 matrix.toMatrix := by
  intro row column
  have close := norm_sub_le_of_isClose (List.all_eq_true.1 (List.all_eq_true.1 passed row
    (List.mem_range.2 row.isLt)) column (List.mem_range.2 column.isLt))
  rw [toComplex_gram] at close
  by_cases same : row = column
  · subst same
    simpa using close
  · have apart : (row : ℕ) ≠ column := fun equal => same (Fin.ext equal)
    simpa [same, apart] using close

/-- A matrix that is exactly unitary passes the test. -/
theorem isUnitary_of_exact {matrix : SquareMatrix ℝ} (exact : matrix.IsUnitary) {tolerance : ℝ}
    (nonneg : 0 ≤ tolerance) : matrix.isUnitary tolerance = true := by
  refine List.all_eq_true.2 fun row inRows => List.all_eq_true.2 fun column inColumns => ?_
  have gram := toComplex_gram matrix ⟨row, List.mem_range.1 inRows⟩
    ⟨column, List.mem_range.1 inColumns⟩
  have orthonormal : matrix.toMatrixᴴ * matrix.toMatrix = 1 := mem_unitaryGroup_iff'.1 exact
  have same : (matrix.adjoint.multiply matrix).entry row column = if row = column then 1 else 0 := by
    refine Amplitude.toComplex_injective (gram.trans ?_)
    rw [orthonormal, Matrix.one_apply, apply_ite Amplitude.toComplex, Amplitude.toComplex_one,
      Amplitude.toComplex_zero]
    simp only [Fin.mk.injEq]
  rw [same, isClose, Bool.and_eq_true, Scalar.atMost_iff, Amplitude.magnitude_eq,
    Amplitude.magnitude_eq, Amplitude.toComplex_sub, sub_self, norm_zero]
  refine ⟨rfl, add_nonneg nonneg (mul_nonneg ?_ (norm_nonneg _))⟩
  change (0 : ℝ) ≤ (1 : ℤ) / 10 ^ 5
  positivity

/-! ## Inverses -/

/-- A matrix that undoes another: the product of the two is the identity, entry by entry. -/
def IsInverseOf (inverse matrix : SquareMatrix ℝ) : Prop :=
  inverse.size = matrix.size ∧ ∀ row < matrix.size, ∀ column < matrix.size,
    ∑ middle ∈ Finset.range matrix.size,
      (inverse.entry row middle).toComplex * (matrix.entry middle column).toComplex =
        if row = column then 1 else 0

theorem isInverseOf_mk {size : ℕ} {inverseRows rows : Vector (Vector (Amplitude ℝ) size) size} :
    IsInverseOf ⟨size, inverseRows⟩ ⟨size, rows⟩ ↔
      (toMatrix ⟨size, inverseRows⟩ * toMatrix ⟨size, rows⟩ :
        Matrix (Fin size) (Fin size) ℂ) = 1 := by
  have entries : ∀ row column : Fin size,
      (toMatrix ⟨size, inverseRows⟩ * toMatrix ⟨size, rows⟩ :
        Matrix (Fin size) (Fin size) ℂ) row column =
        ∑ middle ∈ Finset.range size, (entry ⟨size, inverseRows⟩ row middle).toComplex *
          (entry ⟨size, rows⟩ middle column).toComplex := by
    intro row column
    rw [Matrix.mul_apply, Finset.sum_range]
    rfl
  constructor
  · rintro ⟨-, product⟩
    ext row column
    rw [entries, product row row.isLt column column.isLt, Matrix.one_apply]
    simp only [Fin.ext_iff]
  · intro product
    refine ⟨rfl, fun row inRows column inColumns => ?_⟩
    have one := congrFun (congrFun product ⟨row, inRows⟩) ⟨column, inColumns⟩
    rw [entries, Matrix.one_apply] at one
    simpa only [Fin.ext_iff] using one

theorem toMatrix_injective {size : ℕ} {left right : Vector (Vector (Amplitude ℝ) size) size}
    (same : (toMatrix ⟨size, left⟩ : Matrix (Fin size) (Fin size) ℂ) = toMatrix ⟨size, right⟩) :
    left = right := by
  refine Vector.ext fun row inRows => Vector.ext fun column inColumns => ?_
  have entry := congrFun (congrFun same ⟨row, inRows⟩) ⟨column, inColumns⟩
  rw [toMatrix_apply, toMatrix_apply] at entry
  exact Amplitude.toComplex_injective entry

/-- A matrix that takes no vector but zero to zero has an inverse, and that the matrix as its
inverse. -/
theorem exists_inverses_of_faithful (matrix : SquareMatrix ℝ)
    (faithful : ∀ vector, matrix.toMatrix *ᵥ vector = 0 → vector = 0) :
    ∃ inverse, matrix.inverse? = some inverse ∧ inverse.IsInverseOf matrix ∧
      inverse.inverse? = some matrix := by
  rcases matrix with ⟨size, rows⟩
  rcases inverse?_of_faithful _ faithful with ⟨inverseRows, found, product⟩
  refine ⟨_, found, isInverseOf_mk.2 product, ?_⟩
  have inverseFaithful : ∀ vector : Fin size → ℂ,
      (toMatrix ⟨size, inverseRows⟩ : Matrix (Fin size) (Fin size) ℂ) *ᵥ vector = 0 →
        vector = 0 := by
    intro vector vanishes
    calc
      vector = (toMatrix ⟨size, rows⟩ * toMatrix ⟨size, inverseRows⟩ :
          Matrix (Fin size) (Fin size) ℂ) *ᵥ vector := by
        rw [mul_eq_one_comm.1 product, Matrix.one_mulVec]
      _ = 0 := by rw [← Matrix.mulVec_mulVec, vanishes, Matrix.mulVec_zero]
  rcases inverse?_of_faithful ⟨size, inverseRows⟩ inverseFaithful with
    ⟨backRows, foundBack, productBack⟩
  have same : (toMatrix ⟨size, backRows⟩ : Matrix (Fin size) (Fin size) ℂ) =
      toMatrix ⟨size, rows⟩ :=
    left_inv_eq_right_inv productBack product
  rw [foundBack, toMatrix_injective same]

end SquareMatrix

/-! ## On a register -/

namespace StateVector

open SquareMatrix

variable {state : StateVector ℝ} {matrix : SquareMatrix ℝ} {targets controls : List ℕ}

/-- The indices at which all controls read one. -/
def controlled (numQubits : ℕ) (controls : List ℕ) : Finset ℕ :=
  (Finset.range (Basis.count numQubits)).filter fun index => Basis.allOne controls index = true

/-- The amplitudes that a matrix combines at an index. -/
def combined (state : StateVector ℝ) (matrix : SquareMatrix ℝ) (targets : List ℕ) (index : ℕ) :
    Fin matrix.size → ℂ :=
  fun column => state.value (Basis.scatter targets column index)

/-- Each combined vector is counted once for every one of its amplitudes. -/
theorem size_mul_sum_controlled {numQubits : ℕ} (distinct : targets.Nodup)
    (areTargets : ∀ target ∈ targets, target < numQubits)
    (apart : ∀ control ∈ controls, control ∉ targets)
    (size_eq : matrix.size = 2 ^ targets.length) (term : ℕ → ℝ) :
    matrix.size * ∑ index ∈ controlled numQubits controls, term index =
      ∑ index ∈ controlled numQubits controls, ∑ column : Fin matrix.size,
        term (Basis.scatter targets column index) := by
  have exchanged := Basis.sum_scatter distinct areTargets apart fun index _ => term index
  simp only [Finset.sum_const, Finset.card_range, nsmul_eq_mul, ← Finset.mul_sum,
    ← size_eq] at exchanged
  exact exchanged.trans (Finset.sum_congr rfl fun index _ => Finset.sum_range _)

/-- The amplitudes after a gate, read where the combined vector was, are the matrix times it. -/
theorem combined_applyMatrix (distinct : targets.Nodup)
    (areTargets : ∀ target ∈ targets, target < state.numQubits)
    (apart : ∀ control ∈ controls, control ∉ targets)
    (size_eq : matrix.size = 2 ^ targets.length) {index : ℕ}
    (member : index ∈ controlled state.numQubits controls) :
    combined (state.applyMatrix matrix targets controls) matrix targets index =
      matrix.toMatrix *ᵥ combined state matrix targets index := by
  funext column
  rcases Finset.mem_filter.1 member with ⟨inside, one⟩
  have inRegister := Basis.scatter_lt (Finset.mem_range.1 inside) areTargets (column : ℕ)
  have one : Basis.allOne controls (Basis.scatter targets column index) = true := by
    rw [Basis.allOne_congr fun control isControl =>
      Basis.testBit_scatter_of_notMem (apart control isControl) column index]
    exact one
  have small : (column : ℕ) % 2 ^ targets.length = column :=
    Nat.mod_eq_of_lt (size_eq ▸ column.isLt)
  rw [combined, value_applyMatrix matrix targets controls inRegister, if_pos one,
    Basis.gather_scatter distinct, small, Finset.sum_range]
  simp only [Basis.scatter_scatter distinct]
  rfl

theorem squaredNorm_eq_sum (state : StateVector ℝ) : state.squaredNorm =
    ∑ index ∈ Finset.range (Basis.count state.numQubits), ‖state.value index‖ ^ 2 := by
  simp only [squaredNorm_eq, Complex.normSq_eq_norm_sq]

/-- Off the controls nothing changes, so that is where the squared norm does. -/
theorem squaredNorm_applyMatrix_sub (state : StateVector ℝ) (matrix : SquareMatrix ℝ)
    (targets controls : List ℕ) :
    (state.applyMatrix matrix targets controls).squaredNorm - state.squaredNorm =
      ∑ index ∈ controlled state.numQubits controls,
        (‖(state.applyMatrix matrix targets controls).value index‖ ^ 2 -
          ‖state.value index‖ ^ 2) := by
  have sameSize : (state.applyMatrix matrix targets controls).numQubits = state.numQubits := rfl
  rw [squaredNorm_eq_sum, squaredNorm_eq_sum, sameSize, ← Finset.sum_sub_distrib]
  refine (Finset.sum_filter_of_ne fun index inRegister changed => ?_).symm
  by_contra off
  rw [value_applyMatrix matrix targets controls (Finset.mem_range.1 inRegister), if_neg off,
    sub_self] at changed
  exact changed rfl

section

variable (distinct : targets.Nodup) (areTargets : ∀ target ∈ targets, target < state.numQubits)
  (apart : ∀ control ∈ controls, control ∉ targets) (size_eq : matrix.size = 2 ^ targets.length)

include distinct areTargets apart size_eq

/-- The change of the squared norm, counted once for every combined amplitude. -/
theorem size_mul_squaredNorm_sub :
    matrix.size * ((state.applyMatrix matrix targets controls).squaredNorm - state.squaredNorm) =
      ∑ index ∈ controlled state.numQubits controls,
        (squaredLength (matrix.toMatrix *ᵥ combined state matrix targets index) -
          squaredLength (combined state matrix targets index)) := by
  rw [squaredNorm_applyMatrix_sub, size_mul_sum_controlled distinct areTargets apart size_eq]
  refine Finset.sum_congr rfl fun index member => ?_
  rw [← combined_applyMatrix distinct areTargets apart size_eq member, Finset.sum_sub_distrib]
  rfl

/-- The combined vectors are a part of the state. -/
theorem sum_squaredLength_combined_le :
    ∑ index ∈ controlled state.numQubits controls,
      squaredLength (combined state matrix targets index) ≤ matrix.size * state.squaredNorm := by
  calc
    ∑ index ∈ controlled state.numQubits controls,
        squaredLength (combined state matrix targets index) =
        matrix.size * ∑ index ∈ controlled state.numQubits controls, ‖state.value index‖ ^ 2 := by
      rw [size_mul_sum_controlled distinct areTargets apart size_eq]
      rfl
    _ ≤ matrix.size * state.squaredNorm := by
      rw [squaredNorm_eq_sum]
      refine mul_le_mul_of_nonneg_left ?_ (Nat.cast_nonneg _)
      exact Finset.sum_le_sum_of_subset_of_nonneg (Finset.filter_subset _ _) fun _ _ _ =>
        sq_nonneg _

/-- What a matrix may change of a squared norm, it may change on a register. -/
theorem abs_squaredNorm_applyMatrix_sub_le {share : ℝ} (nonneg : 0 ≤ share)
    (bounded : ∀ vector, |squaredLength (matrix.toMatrix *ᵥ vector) - squaredLength vector| ≤
      share * squaredLength vector) :
    |(state.applyMatrix matrix targets controls).squaredNorm - state.squaredNorm| ≤
      share * state.squaredNorm := by
  have size_pos : (0 : ℝ) < matrix.size := by
    rw [size_eq]
    positivity
  refine le_of_mul_le_mul_left ?_ size_pos
  calc
    matrix.size * |(state.applyMatrix matrix targets controls).squaredNorm - state.squaredNorm| =
        |∑ index ∈ controlled state.numQubits controls,
          (squaredLength (matrix.toMatrix *ᵥ combined state matrix targets index) -
            squaredLength (combined state matrix targets index))| := by
      rw [← size_mul_squaredNorm_sub distinct areTargets apart size_eq, abs_mul,
        abs_of_pos size_pos]
    _ ≤ ∑ index ∈ controlled state.numQubits controls,
        share * squaredLength (combined state matrix targets index) :=
      (Finset.abs_sum_le_sum_abs _ _).trans (Finset.sum_le_sum fun index _ => bounded _)
    _ = share * ∑ index ∈ controlled state.numQubits controls,
        squaredLength (combined state matrix targets index) := (Finset.mul_sum _ _ _).symm
    _ ≤ share * (matrix.size * state.squaredNorm) :=
      mul_le_mul_of_nonneg_left (sum_squaredLength_combined_le distinct areTargets apart size_eq)
        nonneg
    _ = matrix.size * (share * state.squaredNorm) := mul_left_comm _ _ _

end

end StateVector

/-! ## Accepted gates -/

namespace Gate

open SquareMatrix

/-- The share of the squared norm by which an accepted gate may change it. -/
def drift (size : ℕ) : ℝ := 1.1e-5 + (size - 1) * 1e-6

/-- What the test tolerates in each entry, when no other tolerance is given. -/
theorem tolerated_eq : (Scalar.defaultTolerance * Scalar.ofNat 1000 : ℝ) = 1e-6 := by
  rw [Scalar.ofNat_eq]
  change ((1 : ℤ) : ℝ) / 10 ^ 9 * _ = 1e-6
  norm_num

theorem drift_eq (size : ℕ) : drift size = size * 1e-6 + 1e-5 := by
  rw [drift]
  ring

theorem drift_lt_one {numQubits : ℕ} (small : numQubits ≤ 19) : drift (2 ^ numQubits) < 1 := by
  have size : (2 : ℝ) ^ numQubits ≤ 2 ^ 19 := pow_le_pow_right₀ one_le_two small
  rw [drift, Nat.cast_pow, Nat.cast_ofNat]
  norm_num at size ⊢
  linarith

/-- A tensor is accepted if it is a square matrix of a size `2 ^ k` with `k ≠ 0` that passes the
test. -/
theorem ofTensor_eq_ok_iff {R : Type} [Scalar R] {tensor : Tensor R} {givenName : String}
    {tolerance : R} {gate : Gate R} : ofTensor tensor givenName tolerance = .ok gate ↔
      ∃ own : CustomGate R, gate = .custom own ∧ own.name = givenName ∧
        tensor.square? = some own.matrix ∧ own.numQubits ≠ 0 ∧
        own.matrix.isUnitary (tolerance * Scalar.ofNat 1000) = true := by
  constructor
  · intro accepted
    rw [ofTensor] at accepted
    split at accepted
    · cases accepted
    · rename_i matrix square
      dsimp only at accepted
      split at accepted
      · rename_i size_eq
        split at accepted
        · cases accepted
        · rename_i some
          split at accepted
          · rename_i passed
            cases accepted
            exact ⟨_, rfl, rfl, square, some, passed⟩
          · cases accepted
      · cases accepted
  · rintro ⟨⟨name, numQubits, matrix, size_eq⟩, rfl, rfl, square, some, passed⟩
    have log_eq : matrix.size.log2 = numQubits := by
      rw [size_eq]
      exact Nat.log2_two_pow
    subst log_eq
    simp only [ofTensor, square]
    rw [dif_pos size_eq, if_neg some, if_pos passed]

/-- A gate whose matrix takes no vector but zero to zero has an adjoint, and that an adjoint with the
matrix of the gate. -/
theorem exists_adjoints_of_faithful {own : CustomGate ℝ}
    (faithful : ∀ vector, own.matrix.toMatrix *ᵥ vector = 0 → vector = 0) :
    ∃ inverse, (custom own).adjoint = .ok inverse ∧
      inverse.matrix.IsInverseOf own.matrix ∧
      ∃ back, inverse.adjoint = .ok back ∧ back.matrix = own.matrix := by
  rcases own.matrix.exists_inverses_of_faithful faithful with
    ⟨matrix, found, inverse, foundBack⟩
  exact ⟨_, adjoint_custom.2 ⟨matrix, found, rfl⟩, inverse, _,
    adjoint_custom.2 ⟨own.matrix, foundBack, rfl⟩, rfl⟩

/-- On distinct qubits of a register a gate with nearly orthonormal columns changes the squared norm
by no more than the drift. -/
theorem squaredNorm_within_drift {own : CustomGate ℝ} (near : IsNear 1e-6 1e-5 own.matrix.toMatrix)
    (some : own.numQubits ≠ 0) (state : StateVector ℝ) {targets controls : List Int}
    (length_eq : targets.length = own.numQubits)
    (fits : QubitsFit state.numQubits (targets ++ controls)) :
    ∃ after, (Memory.holding state).applyMatrix own.matrix (Engine.indices targets)
        (Engine.indices controls) = .ok (.holding after) ∧
      |after.squaredNorm - state.squaredNorm| ≤ drift own.matrix.size * state.squaredNorm := by
  have size_eq : own.matrix.size = Basis.count targets.length := length_eq ▸ own.size_eq
  have notEmpty : targets.isEmpty = false := by
    cases targets with
    | nil => exact absurd length_eq.symm some
    | cons => rfl
  refine ⟨_, (Memory.applyMatrix_holding state own.matrix targets controls size_eq _).2
    ⟨fits, rfl⟩, ?_⟩
  rw [notEmpty]
  refine StateVector.abs_squaredNorm_applyMatrix_sub_le fits.left.toNat_nodup fits.left.toNat_lt
    (fun control isControl isTarget => fits.apart control isTarget isControl) ?_ ?_ ?_
  · rw [size_eq, List.length_map]
    rfl
  · rw [drift_eq]
    positivity
  · rw [drift_eq]
    exact near.abs_squaredLength_sub_le (by norm_num)

/-- A custom gate of up to nineteen qubits that is accepted with the tolerance for which no other is
given can be inverted.  Its adjoint is found, has the inverse matrix, and is undone by the matrix of
the gate.  On distinct qubits of a register it changes the squared norm by no more than the drift. -/
theorem accepted_invertible {tensor : Tensor ℝ} {givenName : String} {gate : Gate ℝ}
    (accepted : ofTensor tensor givenName Scalar.defaultTolerance = .ok gate)
    (small : gate.numQubits ≤ 19) :
    (tensor.square? = some gate.matrix ∧ 1 ≤ gate.numQubits ∧
      gate.matrix.size = 2 ^ gate.numQubits) ∧
    IsUnit gate.matrix.toMatrix ∧
    (∃ inverse, gate.adjoint = .ok inverse ∧ inverse.matrix.IsInverseOf gate.matrix ∧
      ∃ back, inverse.adjoint = .ok back ∧ back.matrix = gate.matrix) ∧
    ∀ (state : StateVector ℝ) (targets controls : List Int),
      targets.length = gate.numQubits → QubitsFit state.numQubits (targets ++ controls) →
      ∃ after, (Memory.holding state).applyMatrix gate.matrix (Engine.indices targets)
          (Engine.indices controls) = .ok (.holding after) ∧
        |after.squaredNorm - state.squaredNorm| ≤
          drift gate.matrix.size * state.squaredNorm := by
  rcases ofTensor_eq_ok_iff.1 accepted with ⟨own, rfl, -, square, some, passed⟩
  have size_eq : own.matrix.size = 2 ^ own.numQubits := own.size_eq
  have near : IsNear 1e-6 1e-5 own.matrix.toMatrix := tolerated_eq ▸ isNear_of_isUnitary passed
  have faithful : ∀ vector, own.matrix.toMatrix *ᵥ vector = 0 → vector = 0 := by
    refine near.faithful (by norm_num) ?_
    rw [← drift_eq, size_eq]
    exact drift_lt_one small
  refine ⟨⟨square, Nat.one_le_iff_ne_zero.2 some, size_eq⟩, ?_,
    exists_adjoints_of_faithful faithful, ?_⟩
  · rcases own.matrix.inverse?_of_faithful faithful with ⟨rows, found, product⟩
    exact IsUnit.of_mul_eq_one_right _ product
  · intro state targets controls length_eq fits
    exact squaredNorm_within_drift near some state length_eq fits

/-- The flip of a qubit as a tensor. -/
def flipTensor : Tensor ℝ := ⟨[2, 2], #[0, 1, 1, 0]⟩

theorem square?_flipTensor : flipTensor.square? = some (.ofRows 0 1 1 0) := rfl

/-- The flip of a qubit is accepted, and can be inverted. -/
theorem accepted_invertible_of_flip :
    ∃ gate inverse : Gate ℝ,
      ofTensor flipTensor defaultCustomName Scalar.defaultTolerance = .ok gate ∧
        gate.numQubits ≤ 19 ∧ gate.adjoint = .ok inverse ∧
        inverse.matrix.IsInverseOf gate.matrix := by
  have passed : (SquareMatrix.ofRows 0 1 1 0 : SquareMatrix ℝ).isUnitary
      (Scalar.defaultTolerance * Scalar.ofNat 1000) = true := by
    refine isUnitary_of_exact (FixedGate.matrix_isUnitary .x) ?_
    rw [tolerated_eq]
    norm_num
  have accepted : ofTensor flipTensor defaultCustomName Scalar.defaultTolerance =
      .ok (.custom ⟨defaultCustomName, 1, .ofRows 0 1 1 0, rfl⟩) :=
    ofTensor_eq_ok_iff.2 ⟨_, rfl, rfl, square?_flipTensor, one_ne_zero, passed⟩
  have small : (1 : ℕ) ≤ 19 := by decide
  rcases (accepted_invertible accepted small).2.2.1 with ⟨inverse, built, undoes, -⟩
  exact ⟨_, inverse, accepted, small, built, undoes⟩

end Gate

end QuantumKata

end
