import Mathlib.Data.Matrix.Mul
import QuantumKata.Proofs.Linear

/-!
# A gate as a matrix on the whole register

A gate on some qubits of a register is a small matrix.  On the whole register it stands for a matrix
with a row for every basis state: in the rows in which some control reads zero it is the identity,
and in the other rows it holds the entries of the small matrix, for the numbers that the targets
spell in the row and in the column, wherever row and column differ in the targets only.

Which number the targets spell is said bit by bit: the first target holds the most significant bit
of it, although a qubit with a greater number holds a more significant bit of the index.  A number
is known by its bits, so there is one number that the targets spell, and one index that spells a
given number and has the same bits as before everywhere else.
-/

noncomputable section

namespace QuantumKata

/-! ## Numbers that qubits spell -/

namespace Basis

/-- The qubits of an index spell a number: they hold its bits, the first qubit the most significant
one. -/
def Spells (qubits : List ℕ) (index number : ℕ) : Prop :=
  number < count qubits.length ∧ ∀ place, (inside : place < qubits.length) →
    index.testBit qubits[place] = number.testBit (qubits.length - 1 - place)

/-- Two indices differ in the given qubits at most. -/
def AgreeOff (qubits : List ℕ) (left right : ℕ) : Prop :=
  ∀ qubit, qubit ∉ qubits → left.testBit qubit = right.testBit qubit

theorem allOne_iff {qubits : List ℕ} {index : ℕ} :
    allOne qubits index = true ↔ ∀ qubit ∈ qubits, index.testBit qubit = true :=
  List.all_eq_true

section Spelling

variable {qubits : List ℕ} {index number : ℕ}

/-- A number is known by its bits. -/
theorem Spells.unique {other : ℕ} (first : Spells qubits index number)
    (second : Spells qubits index other) : number = other := by
  apply Nat.eq_of_testBit_eq
  intro bit
  by_cases inside : bit < qubits.length
  · have place : qubits.length - 1 - bit < qubits.length := by omega
    have bit_eq : qubits.length - 1 - (qubits.length - 1 - bit) = bit := by omega
    have same := (first.2 _ place).symm.trans (second.2 _ place)
    rwa [bit_eq] at same
  · have large : 2 ^ qubits.length ≤ 2 ^ bit := Nat.pow_le_pow_right (by decide) (not_lt.1 inside)
    rw [Nat.testBit_lt_two_pow (lt_of_lt_of_le first.1 large),
      Nat.testBit_lt_two_pow (lt_of_lt_of_le second.1 large)]

/-- What is written into distinct qubits is what they spell. -/
theorem spells_scatter (distinct : qubits.Nodup) (inside : number < count qubits.length) :
    Spells qubits (scatter qubits number index) number :=
  ⟨inside, fun _ within => testBit_scatter_getElem distinct number index within⟩

/-- What is read from distinct qubits is what they spell. -/
theorem spells_gather (distinct : qubits.Nodup) (index : ℕ) :
    Spells qubits index (gather qubits index) := by
  have written : Spells qubits (scatter qubits (gather qubits index) index)
      (gather qubits index) := spells_scatter distinct (gather_lt qubits index)
  rwa [scatter_gather] at written

theorem agreeOff_scatter (qubits : List ℕ) (number index : ℕ) :
    AgreeOff qubits (scatter qubits number index) index :=
  fun _ absent => testBit_scatter_of_notMem absent number index

/-- There is one index that spells a number and differs from a given index in the qubits only. -/
theorem eq_scatter {written : ℕ} (distinct : qubits.Nodup) (spelled : Spells qubits written number)
    (agree : AgreeOff qubits written index) : written = scatter qubits number index := by
  apply Nat.eq_of_testBit_eq
  intro qubit
  by_cases member : qubit ∈ qubits
  · rcases List.mem_iff_getElem.1 member with ⟨place, inside, rfl⟩
    rw [spelled.2 place inside, testBit_scatter_getElem distinct number index inside]
  · rw [agree qubit member, testBit_scatter_of_notMem member]

theorem AgreeOff.symm {left right : ℕ} (agree : AgreeOff qubits left right) :
    AgreeOff qubits right left :=
  fun qubit absent => (agree qubit absent).symm

/-- An index is known by another one that agrees with it off the qubits, and by what they spell. -/
theorem AgreeOff.scatter_gather {other : ℕ} (agree : AgreeOff qubits index other)
    (distinct : qubits.Nodup) : scatter qubits (gather qubits other) index = other :=
  (eq_scatter distinct (spells_gather distinct other) agree.symm).symm

open scoped Classical in
/-- The indices that agree with one of them off the qubits, by the numbers that the qubits spell. -/
theorem sum_agreeOff {M : Type} [AddCommMonoid M] {numQubits : ℕ} (distinct : qubits.Nodup)
    (areQubits : ∀ qubit ∈ qubits, qubit < numQubits) (inRegister : index < count numQubits)
    (term : ℕ → M) :
    ∑ other ∈ (Finset.range (count numQubits)).filter (AgreeOff qubits index), term other =
      ∑ number ∈ Finset.range (count qubits.length), term (scatter qubits number index) := by
  apply Finset.sum_nbij' (gather qubits) (scatter qubits · index)
  · intro other _
    exact Finset.mem_range.2 (gather_lt qubits other)
  · intro number _
    exact Finset.mem_filter.2 ⟨Finset.mem_range.2 (scatter_lt inRegister areQubits number),
      (agreeOff_scatter qubits number index).symm⟩
  · intro other member
    exact (Finset.mem_filter.1 member).2.scatter_gather distinct
  · intro number member
    exact (spells_gather distinct _).unique (spells_scatter distinct (Finset.mem_range.1 member))
  · intro other member
    rw [(Finset.mem_filter.1 member).2.scatter_gather distinct]

end Spelling

end Basis

/-! ## The amplitudes after a gate -/

namespace StateVector

/-- What a matrix on targets under controls has to make of a state: an amplitude stays as it is
where some control reads zero; elsewhere it becomes the row of the matrix for the number that the
targets spell, times the amplitudes of the indices that differ in the targets only, in the order of
the numbers that the targets spell there. -/
structure IsEmbedded {R : Type} [Scalar R] (matrix : SquareMatrix R) (targets controls : List ℕ)
    (before after : StateVector R) : Prop where
  numQubits_eq : after.numQubits = before.numQubits
  kept : ∀ index < Basis.count before.numQubits,
    (∃ control ∈ controls, index.testBit control = false) →
      after.amplitude index = before.amplitude index
  combined : ∀ index < Basis.count before.numQubits,
    (∀ control ∈ controls, index.testBit control = true) →
      ∃ (row : ℕ) (differing : ℕ → ℕ), Basis.Spells targets index row ∧
        (∀ column < Basis.count targets.length,
          Basis.Spells targets (differing column) column ∧
            Basis.AgreeOff targets (differing column) index) ∧
        after.amplitude index =
          Amplitude.sum ((List.range (Basis.count targets.length)).map fun column =>
            matrix.entry row column * before.amplitude (differing column))

theorem isEmbedded_applyMatrix {R : Type} [Scalar R] {state : StateVector R}
    {matrix : SquareMatrix R} {targets : List ℕ} (controls : List ℕ) (distinct : targets.Nodup)
    (size_eq : matrix.size = Basis.count targets.length) :
    IsEmbedded matrix targets controls state (state.applyMatrix matrix targets controls) where
  numQubits_eq := rfl
  kept index inRegister := by
    rintro ⟨control, member, zero⟩
    have off : Basis.allOne controls index ≠ true := by
      intro one
      rw [Basis.allOne_iff.1 one control member] at zero
      cases zero
    rw [amplitude_applyMatrix matrix targets controls inRegister, if_neg off]
  combined index inRegister one := by
    refine ⟨Basis.gather targets index, fun column => Basis.scatter targets column index,
      Basis.spells_gather distinct index, ?_, ?_⟩
    · intro column inside
      exact ⟨Basis.spells_scatter distinct inside, Basis.agreeOff_scatter targets column index⟩
    · rw [amplitude_applyMatrix matrix targets controls inRegister,
        if_pos (Basis.allOne_iff.2 one), transformed, size_eq]

/-- The amplitudes of an exact state as a vector over the basis states of a register. -/
def vector (numQubits : ℕ) (state : StateVector ℝ) : Fin (Basis.count numQubits) → ℂ :=
  fun index => state.value index

end StateVector

/-! ## The matrix on the whole register -/

namespace SquareMatrix

open scoped Classical in
/-- The matrix on a register that is the given one on the targets where all controls read one, and
the identity elsewhere. -/
def embedding (numQubits : ℕ) (matrix : SquareMatrix ℝ) (targets controls : List ℕ) :
    Matrix (Fin (Basis.count numQubits)) (Fin (Basis.count numQubits)) ℂ :=
  Matrix.of fun row column =>
    if ∀ control ∈ controls, (row : ℕ).testBit control = true then
      if Basis.AgreeOff targets row column then
        (matrix.entry (Basis.gather targets row) (Basis.gather targets column)).toComplex
      else 0
    else if row = column then 1 else 0

open scoped Classical in
/-- To multiply by the matrix on the whole register is to apply the gate. -/
theorem embedding_mulVec {state : StateVector ℝ} {matrix : SquareMatrix ℝ} {targets : List ℕ}
    (controls : List ℕ) (distinct : targets.Nodup)
    (areTargets : ∀ target ∈ targets, target < state.numQubits)
    (size_eq : matrix.size = Basis.count targets.length) :
    (matrix.embedding state.numQubits targets controls).mulVec (state.vector state.numQubits) =
      (state.applyMatrix matrix targets controls).vector state.numQubits := by
  funext row
  have inRegister : (row : ℕ) < Basis.count state.numQubits := row.2
  rw [StateVector.vector]
  rw [StateVector.value_applyMatrix matrix targets controls inRegister]
  by_cases one : ∀ control ∈ controls, (row : ℕ).testBit control = true
  · rw [if_pos (Basis.allOne_iff.2 one), size_eq]
    have products : ∀ column : Fin (Basis.count state.numQubits),
        matrix.embedding state.numQubits targets controls row column *
            state.vector state.numQubits column =
          if Basis.AgreeOff targets row column then
            (matrix.entry (Basis.gather targets row) (Basis.gather targets column)).toComplex *
              state.value column
          else 0 := by
      intro column
      rw [embedding]
      rw [Matrix.of_apply, if_pos one, ite_mul, zero_mul]
      rfl
    simp only [Matrix.mulVec, dotProduct, products]
    rw [← Finset.sum_range fun column => if Basis.AgreeOff targets row column then
        (matrix.entry (Basis.gather targets row) (Basis.gather targets column)).toComplex *
          state.value column
      else 0, ← Finset.sum_filter]
    rw [Basis.sum_agreeOff distinct areTargets inRegister]
    refine Finset.sum_congr rfl fun number inside => ?_
    rw [(Basis.spells_gather distinct _).unique
      (Basis.spells_scatter distinct (Finset.mem_range.1 inside))]
  · rw [if_neg (mt Basis.allOne_iff.1 one)]
    simp [Matrix.mulVec, dotProduct, embedding, one, StateVector.vector]

end SquareMatrix

/-! ## Gates on a memory -/

namespace Memory

/-- Entries that form a square matrix are applied as that matrix. -/
theorem applyTensor_of_square {R : Type} [Scalar R] {tensor : Tensor R} {matrix : SquareMatrix R}
    (square : tensor.square? = some matrix) (memory : Memory R)
    (targets controls : List QubitIndex) :
    memory.applyTensor tensor targets controls = memory.applyMatrix matrix targets controls := by
  have shape_eq : tensor.shape = matrix.shape := by
    rw [Tensor.square?] at square
    split at square
    · rename_i height width shape_eq
      split at square
      · rename_i same
        cases square
        rw [shape_eq, ← same]
        rfl
      · cases square
    · cases square
  simp only [applyTensor, applyMatrix, square, shape_eq]

/-- A matrix on distinct qubits of a register is applied as its embedding.  The groups in which the
amplitudes are read and written back have each index at which all controls read one once, and no
other.  For exact amplitudes the effect is that of the matrix on the whole register. -/
theorem applyMatrix_embeds :
    (∀ {R : Type} [Scalar R] {state : StateVector R} {matrix : SquareMatrix R}
      {targets controls : List Int}, targets ≠ [] →
      QubitsFit state.numQubits (targets ++ controls) →
      matrix.size = Basis.count targets.length →
      let groups := Basis.groups state.numQubits (targets.map Int.toNat) (controls.map Int.toNat)
      (∃ after,
        (holding state).applyMatrix matrix (Engine.indices targets) (Engine.indices controls) =
          .ok (.holding after) ∧
        after = state.write (groups.flatMap (StateVector.mixed matrix state)) ∧
        StateVector.IsEmbedded matrix (targets.map Int.toNat) (controls.map Int.toNat)
          state after) ∧
      groups.flatten.Nodup ∧ ∀ index, index ∈ groups.flatten ↔
        index < Basis.count state.numQubits ∧
          ∀ control ∈ controls, index.testBit control.toNat = true) ∧
    ∀ {state : StateVector ℝ} {matrix : SquareMatrix ℝ} {targets controls : List Int},
      targets ≠ [] → QubitsFit state.numQubits (targets ++ controls) →
      matrix.size = Basis.count targets.length →
      ∃ after,
        (holding state).applyMatrix matrix (Engine.indices targets) (Engine.indices controls) =
          .ok (.holding after) ∧
        after.vector state.numQubits =
          (matrix.embedding state.numQubits (targets.map Int.toNat)
            (controls.map Int.toNat)).mulVec (state.vector state.numQubits) := by
  have applied : ∀ {R : Type} [Scalar R] {state : StateVector R} {matrix : SquareMatrix R}
      {targets controls : List Int}, targets ≠ [] →
      QubitsFit state.numQubits (targets ++ controls) →
      matrix.size = Basis.count targets.length →
      (holding state).applyMatrix matrix (Engine.indices targets) (Engine.indices controls) =
        .ok (.holding (state.applyMatrix matrix (targets.map Int.toNat)
          (controls.map Int.toNat))) := by
    intro R _ state matrix targets controls some fits size_eq
    refine (applyMatrix_holding state matrix targets controls size_eq _).2 ⟨fits, ?_⟩
    rw [if_neg (mt List.isEmpty_iff.1 some)]
  constructor
  · intro R _ state matrix targets controls some fits size_eq groups
    have size : matrix.size = Basis.count (targets.map Int.toNat).length := by
      rw [size_eq, List.length_map]
    refine ⟨⟨_, applied some fits size_eq, ?_, ?_⟩, ?_, ?_⟩
    · exact (fits.applyToGroups_eq size_eq).symm
    · exact StateVector.isEmbedded_applyMatrix _ fits.left.toNat_nodup size
    · exact Basis.nodup_flatten_groups fits.left.toNat_nodup
    · intro index
      have apart : ∀ control ∈ controls.map Int.toNat, control ∉ targets.map Int.toNat :=
        fun control isControl isTarget => fits.apart control isTarget isControl
      rw [Basis.mem_flatten_groups fits.left.toNat_nodup fits.left.toNat_lt apart,
        Basis.allOne_iff, List.forall_mem_map]
  · intro state matrix targets controls some fits size_eq
    refine ⟨_, applied some fits size_eq, ?_⟩
    rw [SquareMatrix.embedding_mulVec _ fits.left.toNat_nodup fits.left.toNat_lt]
    rw [size_eq, List.length_map]

/-- A flip of the first of two qubits under the control of the second. -/
theorem applyMatrix_embeds_flip :
    QubitsFit (StateVector.basis 2 3 : StateVector ℝ).numQubits ([0] ++ [1]) ∧
      ∃ after,
        (holding (StateVector.basis 2 3 : StateVector ℝ)).applyMatrix (.ofRows 0 1 1 0)
          (Engine.indices [0]) (Engine.indices [1]) = .ok (.holding after) ∧
        StateVector.IsEmbedded (.ofRows 0 1 1 0) [0] [1] (StateVector.basis 2 3) after ∧
        after.vector 2 = ((SquareMatrix.ofRows 0 1 1 0).embedding 2 [0] [1]).mulVec
          ((StateVector.basis 2 3 : StateVector ℝ).vector 2) := by
  have fits : QubitsFit (StateVector.basis 2 3 : StateVector ℝ).numQubits ([0] ++ [1]) := by
    decide
  have square : (SquareMatrix.ofRows 0 1 1 0 : SquareMatrix ℝ).size =
      Basis.count [(0 : Int)].length :=
    rfl
  rcases (applyMatrix_embeds.1 (List.cons_ne_nil 0 []) fits square).1 with
    ⟨after, applied, -, embedded⟩
  rcases applyMatrix_embeds.2 (List.cons_ne_nil 0 []) fits square with ⟨other, again, product⟩
  have same : after = other := by
    rw [applied] at again
    exact Memory.holding.inj (Except.ok.inj again)
  exact ⟨fits, after, applied, embedded, same ▸ product⟩

end Memory

end QuantumKata

end
