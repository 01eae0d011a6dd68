import Mathlib.LinearAlgebra.Matrix.NonsingularInverse
import Mathlib.LinearAlgebra.UnitaryGroup
import QuantumKata.Matrix
import QuantumKata.Proofs.Exact

/-!
# Elimination

The inverse of a matrix is computed column by column.  Before each column the second matrix times
the given one is the first matrix; the columns that are done have a pivot on the diagonal and
nothing else; and the first matrix takes no vector but zero to zero, because the given one does not
and rows are only exchanged and combined.

From the last fact it follows that a pivot is always found.  If there was none, the column would be a
combination of the columns that are done, and the first matrix would take the vector that says so to
zero.  So elimination succeeds on every invertible matrix, and its result is the inverse.
-/

noncomputable section

namespace QuantumKata.SquareMatrix

open Matrix

/-- An exact square matrix as a matrix of complex numbers. -/
def toMatrix (matrix : SquareMatrix ℝ) : Matrix (Fin matrix.size) (Fin matrix.size) ℂ :=
  fun row column => (matrix.entry row column).toComplex

theorem toMatrix_apply (matrix : SquareMatrix ℝ) (row column : Fin matrix.size) :
    matrix.toMatrix row column = (matrix.rows[row][column]).toComplex := by
  simp [toMatrix, entry]

variable {size : ℕ} (rows : Vector (PairedRow ℝ size) size)

/-- A row of the two matrices. -/
def rowAt (row : Fin size) : PairedRow ℝ size := getElem rows row row.isLt

/-- An entry of a row. -/
def entryAt (row : Vector (Amplitude ℝ) size) (place : Fin size) : Amplitude ℝ :=
  getElem row place place.isLt

/-- The first of the two matrices that elimination works on. -/
def leftMatrix : Matrix (Fin size) (Fin size) ℂ := fun row column =>
  (entryAt (rowAt rows row).left column).toComplex

/-- The second of the two matrices that elimination works on. -/
def rightMatrix : Matrix (Fin size) (Fin size) ℂ := fun row column =>
  (entryAt (rowAt rows row).right column).toComplex

/-! ## The choice of a pivot -/

theorem pivotWeight_eq (number : Amplitude ℝ) :
    pivotWeight number = |number.re| + |number.im| := by
  rw [pivotWeight]
  rw [Scalar.magnitude_eq, Scalar.magnitude_eq]

/-- Only zero has no weight. -/
theorem pivotWeight_pos {number : Amplitude ℝ} : 0 < pivotWeight number ↔ number.toComplex ≠ 0 := by
  rw [pivotWeight_eq]
  constructor
  · intro positive zero
    have real : number.re = 0 := congrArg Complex.re zero
    have imaginary : number.im = 0 := congrArg Complex.im zero
    rw [real, imaginary, abs_zero, add_zero] at positive
    exact lt_irrefl 0 positive
  · intro nonzero
    by_contra weightless
    have first := abs_nonneg number.re
    have second := abs_nonneg number.im
    have real : |number.re| = 0 := by linarith
    have imaginary : |number.im| = 0 := by linarith
    apply nonzero
    apply Complex.ext
    · exact abs_eq_zero.1 real
    · exact abs_eq_zero.1 imaginary

/-- The weight of a row in a column. -/
def weightIn (column row : Fin size) : ℝ := pivotWeight (entryAt (rowAt rows row).left column)

/-- The better of two rows as a pivot for a column. -/
def betterRow (column best row : Fin size) : Fin size :=
  if column < row &&
      Scalar.less (weightIn rows column best) (weightIn rows column row)
  then row else best

theorem betterRow_spec {column best : Fin size} (row : Fin size) (below : column ≤ best) :
    column ≤ betterRow rows column best row ∧
      weightIn rows column best ≤ weightIn rows column (betterRow rows column best row) ∧
      (column < row →
        weightIn rows column row ≤ weightIn rows column (betterRow rows column best row)) := by
  rw [betterRow]
  split
  · rename_i better
    rw [Bool.and_eq_true, decide_eq_true_iff, Scalar.less_iff] at better
    exact ⟨better.1.le, better.2.le, fun _ => le_refl _⟩
  · rename_i notBetter
    refine ⟨below, le_refl _, fun later => ?_⟩
    rw [Bool.and_eq_true, decide_eq_true_iff, Scalar.less_iff] at notBetter
    exact not_lt.1 fun heavier => notBetter ⟨later, heavier⟩

theorem foldl_betterRow_spec (column : Fin size) (candidates : List (Fin size))
    {best : Fin size} (below : column ≤ best) :
    column ≤ candidates.foldl (betterRow rows column) best ∧
      weightIn rows column best ≤
        weightIn rows column (candidates.foldl (betterRow rows column) best) ∧
      ∀ row ∈ candidates, column < row →
        weightIn rows column row ≤
          weightIn rows column (candidates.foldl (betterRow rows column) best) := by
  induction candidates generalizing best with
  | nil => exact ⟨below, le_refl _, by simp⟩
  | cons row rest ih =>
    rcases betterRow_spec rows row below with ⟨stillBelow, notLighter, notLighterThanRow⟩
    rcases ih stillBelow with ⟨inOrder, heavier, heaviest⟩
    refine ⟨inOrder, notLighter.trans heavier, ?_⟩
    intro other member later
    rcases List.mem_cons.1 member with rfl | among
    · exact (notLighterThanRow later).trans heavier
    · exact heaviest other among later

/-- The pivot row is not above its column, and no row from the column on has a greater weight. -/
theorem pivotRow_spec (column : Fin size) :
    column ≤ pivotRow rows column ∧
      ∀ row, column ≤ row → weightIn rows column row ≤ weightIn rows column (pivotRow rows column)
    := by
  rcases foldl_betterRow_spec rows column (List.finRange size) (le_refl column) with
    ⟨inOrder, heavier, heaviest⟩
  refine ⟨inOrder, fun row below => ?_⟩
  rcases below.eq_or_lt with rfl | later
  · exact heavier
  · exact heaviest row (List.mem_finRange row) later

/-! ## Clearing a column -/

/-- Where elimination stands when some columns are done. -/
structure Eliminated (given : Matrix (Fin size) (Fin size) ℂ) (finished : ℕ) : Prop where
  combined : rightMatrix rows * given = leftMatrix rows
  faithful : ∀ vector, leftMatrix rows *ᵥ vector = 0 → vector = 0
  cleared : ∀ row column : Fin size, (column : ℕ) < finished → row ≠ column →
    leftMatrix rows row column = 0
  pivots : ∀ column : Fin size, (column : ℕ) < finished → leftMatrix rows column column ≠ 0

variable {rows} {given : Matrix (Fin size) (Fin size) ℂ}

/-- Some row from the next column on has an entry in it. -/
theorem Eliminated.exists_entry {column : Fin size} (before : Eliminated rows given column) :
    ∃ row, column ≤ row ∧ leftMatrix rows row column ≠ 0 := by
  by_contra none
  push Not at none
  -- The column is a combination of the columns that are done.
  let vector : Fin size → ℂ := fun place =>
    if place < column then -(leftMatrix rows place column / leftMatrix rows place place)
    else if place = column then 1 else 0
  have vanishes : leftMatrix rows *ᵥ vector = 0 := by
    funext row
    have split : ∀ place, leftMatrix rows row place * vector place =
        (if place = row ∧ row < column then -leftMatrix rows row column else 0) +
          (if place = column then leftMatrix rows row column else 0) := by
      intro place
      rcases lt_trichotomy place column with earlier | rfl | later
      · have notColumn : place ≠ column := earlier.ne
        by_cases same : place = row
        · subst same
          simp only [vector, if_pos earlier, if_neg notColumn, true_and, add_zero]
          rw [mul_neg, mul_div_cancel₀ _ (before.pivots place earlier)]
        · have zero := before.cleared row place earlier (Ne.symm same)
          simp [zero, same, notColumn]
      · have notBoth : ¬(place = row ∧ row < place) := by
          rintro ⟨rfl, less⟩
          exact lt_irrefl _ less
        simp [vector, notBoth]
      · have notBoth : ¬(place = row ∧ row < column) := by
          rintro ⟨rfl, less⟩
          exact lt_asymm later less
        simp [vector, later.ne', not_lt_of_gt later, notBoth]
    rw [Matrix.mulVec, dotProduct]
    simp only [split, Finset.sum_add_distrib, Finset.sum_ite_eq', Finset.mem_univ, if_true]
    by_cases above : row < column
    · simp [above]
    · simp [above, none row (not_lt.1 above)]
  have zero := congrFun (before.faithful vector vanishes) column
  simp [vector] at zero

/-- The row that an exchange brings to a place. -/
theorem rowAt_swap (first second row : Fin size) :
    rowAt (rows.swap first second first.isLt second.isLt) row =
      rowAt rows (Equiv.swap first second row) := by
  rw [Equiv.swap_apply_def]
  by_cases isFirst : row = first
  · subst isFirst
    simp [rowAt]
  · by_cases isSecond : row = second
    · subst isSecond
      simp [rowAt, isFirst]
    · have apart : (row : ℕ) ≠ first := fun same => isFirst (Fin.ext same)
      have apartToo : (row : ℕ) ≠ second := fun same => isSecond (Fin.ext same)
      simp [rowAt, isFirst, isSecond, apart, apartToo]

@[simp]
theorem rowAt_ofFn (next : Fin size → PairedRow ℝ size) (row : Fin size) :
    rowAt (Vector.ofFn next) row = next row := by
  simp [rowAt]

theorem clearColumn?_eq (rows : Vector (PairedRow ℝ size) size) (column : Fin size) :
    clearColumn? rows column =
      let swapped := rows.swap column (pivotRow rows column) column.isLt (pivotRow rows column).isLt
      if Scalar.atMost (weightIn swapped column column) 0 then none
      else some <| Vector.ofFn fun row =>
        if row = column then rowAt swapped column
        else (rowAt swapped row).reduceBy
          (entryAt (rowAt swapped row).left column *
            (entryAt (rowAt swapped column).left column).reciprocal)
          (rowAt swapped column) :=
  rfl

/-- The multiple of the pivot that is taken from a row, where the rows have been exchanged. -/
def pivotFactor (rows : Vector (PairedRow ℝ size) size) (column chosen row : Fin size) : ℂ :=
  if row = column then 0
  else leftMatrix rows (Equiv.swap column chosen row) column * (leftMatrix rows chosen column)⁻¹

/-- A matrix after two rows have been exchanged and multiples of the pivot row have been taken from
the others. -/
def reduced (rows : Vector (PairedRow ℝ size) size) (column chosen : Fin size)
    (matrix : Matrix (Fin size) (Fin size) ℂ) : Matrix (Fin size) (Fin size) ℂ :=
  fun row place => matrix (Equiv.swap column chosen row) place -
    pivotFactor rows column chosen row * matrix chosen place

theorem reduced_mul (rows : Vector (PairedRow ℝ size) size) (column chosen : Fin size)
    (left right : Matrix (Fin size) (Fin size) ℂ) :
    reduced rows column chosen left * right = reduced rows column chosen (left * right) := by
  ext row place
  simp only [reduced, Matrix.mul_apply, sub_mul, Finset.sum_sub_distrib, mul_assoc,
    ← Finset.mul_sum]

theorem reduced_mulVec (rows : Vector (PairedRow ℝ size) size) (column chosen : Fin size)
    (matrix : Matrix (Fin size) (Fin size) ℂ) (vector : Fin size → ℂ) (row : Fin size) :
    (reduced rows column chosen matrix *ᵥ vector) row =
      (matrix *ᵥ vector) (Equiv.swap column chosen row) -
        pivotFactor rows column chosen row * (matrix *ᵥ vector) chosen := by
  simp only [reduced, Matrix.mulVec, dotProduct, sub_mul, Finset.sum_sub_distrib, mul_assoc,
    ← Finset.mul_sum]

/-- No vector begins to vanish when the rows are reduced. -/
theorem mulVec_eq_zero_of_reduced {column chosen : Fin size}
    {matrix : Matrix (Fin size) (Fin size) ℂ} {vector : Fin size → ℂ}
    (vanishes : reduced rows column chosen matrix *ᵥ vector = 0) : matrix *ᵥ vector = 0 := by
  have pivotZero : (matrix *ᵥ vector) chosen = 0 := by
    have here := reduced_mulVec rows column chosen matrix vector column
    rw [vanishes, Equiv.swap_apply_left, pivotFactor, if_pos rfl, zero_mul, sub_zero] at here
    exact here.symm
  funext row
  have here := reduced_mulVec rows column chosen matrix vector (Equiv.swap column chosen row)
  rw [vanishes, Equiv.swap_apply_self, pivotZero, mul_zero, sub_zero] at here
  exact here.symm

/-- Clearing a column with a pivot that is not zero. -/
theorem clearColumn?_of_pivot {column : Fin size}
    (nonzero : leftMatrix rows (pivotRow rows column) column ≠ 0) :
    ∃ after, clearColumn? rows column = some after ∧
      leftMatrix after = reduced rows column (pivotRow rows column) (leftMatrix rows) ∧
      rightMatrix after = reduced rows column (pivotRow rows column) (rightMatrix rows) := by
  have weight : ¬ Scalar.atMost (weightIn rows column (pivotRow rows column)) (0 : ℝ) = true := by
    rw [Scalar.atMost_iff, not_le]
    exact pivotWeight_pos.2 nonzero
  have found := clearColumn?_eq rows column
  simp only [weightIn, rowAt_swap, Equiv.swap_apply_left] at found weight
  rw [if_neg weight] at found
  refine ⟨_, found, ?_, ?_⟩
  all_goals
    ext row place
    simp only [leftMatrix, rightMatrix, reduced, pivotFactor, rowAt_ofFn]
    by_cases same : row = column
    · subst same
      simp [Equiv.swap_apply_left]
    · simp [same, PairedRow.reduceBy, entryAt]

/-- One more column can be cleared. -/
theorem Eliminated.step {column : Fin size} (before : Eliminated rows given column) :
    ∃ after, clearColumn? rows column = some after ∧ Eliminated after given (column + 1) := by
  rcases pivotRow_spec rows column with ⟨inOrder, heaviest⟩
  have nonzero : leftMatrix rows (pivotRow rows column) column ≠ 0 := by
    rcases before.exists_entry with ⟨row, below, entry⟩
    have positive : 0 < weightIn rows column row := pivotWeight_pos.2 entry
    exact pivotWeight_pos.1 (positive.trans_le (heaviest row below))
  rcases clearColumn?_of_pivot nonzero with ⟨after, found, left, right⟩
  refine ⟨after, found, ?_⟩
  generalize pivotRow rows column = chosen at *
  -- An exchange of rows from the column on leaves the rows of the finished columns in place.
  have fixed : ∀ place : Fin size, place < column → Equiv.swap column chosen place = place := by
    intro place earlier
    exact Equiv.swap_apply_of_ne_of_ne earlier.ne (earlier.trans_le inOrder).ne
  have pivotClear : ∀ place : Fin size, place < column → leftMatrix rows chosen place = 0 := by
    intro place earlier
    exact before.cleared chosen place earlier (earlier.trans_le inOrder).ne'
  constructor
  case combined => rw [right, left, reduced_mul, before.combined]
  case faithful =>
    intro vector vanishes
    rw [left] at vanishes
    exact before.faithful vector (mulVec_eq_zero_of_reduced vanishes)
  case cleared =>
    intro row place finished apart
    rw [left, reduced]
    rcases (Nat.lt_succ_iff.1 finished).lt_or_eq with earlier | same
    · have moved : Equiv.swap column chosen row ≠ place := by
        intro equal
        apply apart
        rw [← Equiv.swap_apply_self column chosen row, equal, fixed place earlier]
      rw [before.cleared _ place earlier moved, pivotClear place earlier, mul_zero, sub_zero]
    · have isColumn : place = column := Fin.ext same
      subst isColumn
      rw [pivotFactor, if_neg apart, mul_assoc, inv_mul_cancel₀ nonzero, mul_one, sub_self]
  case pivots =>
    intro place finished
    rw [left, reduced]
    rcases (Nat.lt_succ_iff.1 finished).lt_or_eq with earlier | same
    · rw [fixed place earlier, pivotClear place earlier, mul_zero, sub_zero]
      exact before.pivots place earlier
    · have isColumn : place = column := Fin.ext same
      subst isColumn
      rw [pivotFactor, if_pos rfl, zero_mul, sub_zero, Equiv.swap_apply_left]
      exact nonzero

/-! ## Elimination as a whole -/

/-- From any point on elimination gets to its end. -/
theorem Eliminated.run {finished : ℕ} (before : Eliminated rows given finished) :
    ∃ after, ((List.finRange size).drop finished).foldlM clearColumn? rows = some after ∧
      Eliminated after given size := by
  generalize remaining : (List.finRange size).drop finished = columns
  induction columns generalizing rows finished with
  | nil =>
    have done : size ≤ finished := by
      have short := congrArg List.length remaining
      rw [List.length_drop, List.length_finRange, List.length_nil] at short
      omega
    refine ⟨rows, rfl, before.combined, before.faithful, ?_, ?_⟩
    · intro row column _
      exact before.cleared row column (column.isLt.trans_le done)
    · intro column _
      exact before.pivots column (column.isLt.trans_le done)
  | cons column rest ih =>
    have inside : finished < (List.finRange size).length := by
      by_contra outside
      rw [List.drop_eq_nil_of_le (not_lt.1 outside)] at remaining
      cases remaining
    rw [List.drop_eq_getElem_cons inside] at remaining
    rcases List.cons.inj remaining with ⟨here, later⟩
    have column_eq : (column : ℕ) = finished := by
      rw [← here]
      simp
    subst column_eq
    rcases before.step with ⟨next, found, after⟩
    rcases ih after later with ⟨last, run, final⟩
    refine ⟨last, ?_, final⟩
    rw [List.foldlM_cons, found]
    exact run

/-- The rows of the second matrix, each divided by the pivot of the first. -/
def dividedRows (after : Vector (PairedRow ℝ size) size) : Vector (Vector (Amplitude ℝ) size) size :=
  Vector.ofFn fun row => Vector.ofFn fun column =>
    entryAt (rowAt after row).right column * (entryAt (rowAt after row).left row).reciprocal

theorem toMatrix_dividedRows (after : Vector (PairedRow ℝ size) size) (row place : Fin size) :
    (toMatrix ⟨size, dividedRows after⟩ : Matrix (Fin size) (Fin size) ℂ) row place =
      (leftMatrix after row row)⁻¹ * rightMatrix after row place := by
  refine (toMatrix_apply ⟨size, dividedRows after⟩ row place).trans ?_
  simp only [dividedRows, Fin.getElem_fin, Vector.getElem_ofFn, Amplitude.toComplex_mul,
    Amplitude.toComplex_reciprocal]
  exact mul_comm _ _

/-- Elimination finds the inverse of every matrix that takes no vector but zero to zero. -/
theorem inverse?_of_faithful (matrix : SquareMatrix ℝ)
    (faithful : ∀ vector, matrix.toMatrix *ᵥ vector = 0 → vector = 0) :
    ∃ rows, matrix.inverse? = some ⟨matrix.size, rows⟩ ∧
      (toMatrix ⟨matrix.size, rows⟩ : Matrix (Fin matrix.size) (Fin matrix.size) ℂ) *
        matrix.toMatrix = 1 := by
  let start : Vector (PairedRow ℝ matrix.size) matrix.size :=
    Vector.ofFn fun row =>
      ⟨matrix.rows[row], Vector.ofFn fun column => if row = column then 1 else 0⟩
  have left_eq : leftMatrix start = matrix.toMatrix := by
    ext row column
    rw [toMatrix_apply, leftMatrix, rowAt_ofFn]
    rfl
  have right_eq : rightMatrix start = 1 := by
    ext row column
    rw [rightMatrix, rowAt_ofFn, Matrix.one_apply]
    by_cases same : row = column
    · simp [same, entryAt]
    · simp [same, entryAt]
  have before : Eliminated start matrix.toMatrix 0 := by
    constructor
    case combined => rw [left_eq, right_eq, one_mul]
    case faithful => rwa [left_eq]
    case cleared =>
      intro row column none
      exact absurd none (Nat.not_lt_zero _)
    case pivots =>
      intro column none
      exact absurd none (Nat.not_lt_zero _)
  rcases before.run with ⟨after, run, final⟩
  rw [List.drop_zero] at run
  refine ⟨dividedRows after, ?_, ?_⟩
  · rw [inverse?]
    change ((List.finRange matrix.size).foldlM clearColumn? start).map _ = _
    rw [run]
    rfl
  · ext row column
    have combined := congrFun (congrFun final.combined row) column
    rw [Matrix.mul_apply] at combined ⊢
    simp only [toMatrix_dividedRows, mul_assoc, ← Finset.mul_sum, combined]
    by_cases same : row = column
    · subst same
      rw [inv_mul_cancel₀ (final.pivots row row.isLt), Matrix.one_apply_eq]
    · rw [final.cleared row column column.isLt same, mul_zero, Matrix.one_apply_ne same]

/-- Elimination on a unitary matrix finds the conjugate transpose. -/
theorem inverse?_of_unitary (matrix : SquareMatrix ℝ)
    (unitary : matrix.toMatrix ∈ unitaryGroup (Fin matrix.size) ℂ) :
    ∃ rows, matrix.inverse? = some ⟨matrix.size, rows⟩ ∧
      (toMatrix ⟨matrix.size, rows⟩ : Matrix (Fin matrix.size) (Fin matrix.size) ℂ) =
        star matrix.toMatrix := by
  have faithful : ∀ vector, matrix.toMatrix *ᵥ vector = 0 → vector = 0 := by
    intro vector vanishes
    calc
      vector = (star matrix.toMatrix * matrix.toMatrix) *ᵥ vector := by
        rw [mem_unitaryGroup_iff'.1 unitary, Matrix.one_mulVec]
      _ = star matrix.toMatrix *ᵥ (matrix.toMatrix *ᵥ vector) := (Matrix.mulVec_mulVec _ _ _).symm
      _ = 0 := by rw [vanishes, Matrix.mulVec_zero]
  rcases matrix.inverse?_of_faithful faithful with ⟨rows, found, inverse⟩
  refine ⟨rows, found, ?_⟩
  calc
    (toMatrix ⟨matrix.size, rows⟩ : Matrix (Fin matrix.size) (Fin matrix.size) ℂ) =
        toMatrix ⟨matrix.size, rows⟩ * (matrix.toMatrix * star matrix.toMatrix) := by
      rw [mem_unitaryGroup_iff.1 unitary, mul_one]
    _ = star matrix.toMatrix := by
      rw [← mul_assoc, inverse, one_mul]

end QuantumKata.SquareMatrix

end
