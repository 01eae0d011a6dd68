import Mathlib.Algebra.BigOperators.Fin
import Mathlib.Algebra.Module.LinearMap.Basic
import QuantumKata.Proofs.Slice
import QuantumKata.Proofs.UnitaryGate

/-!
# Gates as linear maps

Over exact scalars a state is a function from basis indices to complex numbers that is zero outside
the register, and a recorded gate is a linear map on such functions.  A global phase and a custom
gate without targets are of the same form as all other gates.

The map of the adjoint gate undoes the map of the gate, and is its adjoint for the inner product of
the register.  So a unitary gate keeps inner products, and with them the norm.
-/

noncomputable section

namespace QuantumKata

open Complex

/-- The amplitudes of an exact state. -/
def StateVector.value (state : StateVector ℝ) (index : ℕ) : ℂ := (state.amplitude index).toComplex

namespace StateVector

theorem value_of_le {state : StateVector ℝ} {index : ℕ}
    (outside : Basis.count state.numQubits ≤ index) : state.value index = 0 := by
  simp [value, amplitude, not_lt.2 outside]

/-- Exact states of the same size with the same amplitudes are the same. -/
theorem ext_value {left right : StateVector ℝ} (size : left.numQubits = right.numQubits)
    (same : left.value = right.value) : left = right := by
  apply ext_amplitude size
  intro index _
  exact Amplitude.toComplex_injective (congrFun same index)

theorem value_transformed (matrix : SquareMatrix ℝ) (targets : List ℕ) (state : StateVector ℝ)
    (index : ℕ) :
    (transformed matrix targets state index).toComplex =
      ∑ column ∈ Finset.range matrix.size,
        (matrix.entry (Basis.gather targets index) column).toComplex *
          state.value (Basis.scatter targets column index) := by
  rw [transformed]
  rw [Amplitude.toComplex_sum, List.map_map]
  change ((List.range matrix.size).map fun column => Amplitude.toComplex _).sum = _
  simp only [Amplitude.toComplex_mul]
  rfl

theorem value_applyPhase {state : StateVector ℝ} (angle : ℝ) (controls : List ℕ) {index : ℕ}
    (inRegister : index < Basis.count state.numQubits) :
    (state.applyPhase angle controls).value index =
      if Basis.allOne controls index then exp (angle * I) * state.value index
      else state.value index := by
  unfold value
  rw [amplitude_applyPhase angle controls inRegister]
  split
  · rw [Amplitude.toComplex_mul, Amplitude.toComplex_unit, mul_comm]
  · rfl

theorem value_applyMatrix {state : StateVector ℝ} (matrix : SquareMatrix ℝ)
    (targets controls : List ℕ) {index : ℕ} (inRegister : index < Basis.count state.numQubits) :
    (state.applyMatrix matrix targets controls).value index =
      if Basis.allOne controls index then
        ∑ column ∈ Finset.range matrix.size,
          (matrix.entry (Basis.gather targets index) column).toComplex *
            state.value (Basis.scatter targets column index)
      else state.value index := by
  rw [value]
  rw [amplitude_applyMatrix matrix targets controls inRegister]
  split
  · exact value_transformed matrix targets state index
  · rfl

end StateVector

/-! ## The map of a gate -/

namespace TapeEntry

/-- The controls of a recorded gate together with those in force. -/
def allControls (ambient : List Int) (entry : TapeEntry ℝ) : List ℕ :=
  (ambient ++ entry.controls).map Int.toNat

/-- The targets of a recorded gate. -/
def targetQubits (entry : TapeEntry ℝ) : List ℕ := entry.targets.map Int.toNat

/-- The linear map of a recorded gate under the controls in force. -/
def act (ambient : List Int) (entry : TapeEntry ℝ) : (ℕ → ℂ) →ₗ[ℂ] (ℕ → ℂ) where
  toFun amplitudes := fun index =>
    if Basis.allOne (entry.allControls ambient) index then
      ∑ column ∈ Finset.range entry.gate.matrix.size,
        (entry.gate.matrix.entry (Basis.gather entry.targetQubits index) column).toComplex *
          amplitudes (Basis.scatter entry.targetQubits column index)
    else amplitudes index
  map_add' first second := by
    funext index
    by_cases one : Basis.allOne (entry.allControls ambient) index
    · simp [one, mul_add, Finset.sum_add_distrib]
    · simp [one]
  map_smul' factor amplitudes := by
    funext index
    by_cases one : Basis.allOne (entry.allControls ambient) index
    · simp [one, Finset.mul_sum, mul_left_comm]
    · simp [one]

theorem act_apply (ambient : List Int) (entry : TapeEntry ℝ) (amplitudes : ℕ → ℂ) (index : ℕ) :
    entry.act ambient amplitudes index =
      if Basis.allOne (entry.allControls ambient) index then
        ∑ column ∈ Finset.range entry.gate.matrix.size,
          (entry.gate.matrix.entry (Basis.gather entry.targetQubits index) column).toComplex *
            amplitudes (Basis.scatter entry.targetQubits column index)
      else amplitudes index :=
  rfl

/-- A gate that has as many targets as it needs and whose matrix is exactly unitary. -/
def IsExact (entry : TapeEntry ℝ) : Prop := entry.gate.IsUnitary ∧ entry.IsComplete

section Fitting

variable {entry : TapeEntry ℝ} {ambient : List Int} {numQubits : ℕ}

theorem IsExact.size_eq (exact : entry.IsExact) :
    entry.gate.matrix.size = 2 ^ entry.targetQubits.length := by
  rw [Gate.matrix_size, targetQubits, List.length_map, exact.2]
  rfl

theorem Fits.targets_nodup (fits : entry.Fits numQubits ambient) : entry.targetQubits.Nodup :=
  QubitsFit.toNat_nodup fits.left

theorem Fits.targets_lt (fits : entry.Fits numQubits ambient) :
    ∀ target ∈ entry.targetQubits, target < numQubits :=
  QubitsFit.toNat_lt fits.left

theorem Fits.controls_apart (fits : entry.Fits numQubits ambient) :
    ∀ control ∈ entry.allControls ambient, control ∉ entry.targetQubits := by
  intro control isControl isTarget
  exact fits.apart control isTarget isControl

/-- Writing into the targets leaves the controls as they are. -/
theorem Fits.allOne_scatter (fits : entry.Fits numQubits ambient) (number index : ℕ) :
    Basis.allOne (entry.allControls ambient) (Basis.scatter entry.targetQubits number index) =
      Basis.allOne (entry.allControls ambient) index := by
  apply Basis.allOne_congr
  intro control isControl
  exact Basis.testBit_scatter_of_notMem (fits.controls_apart control isControl) number index

/-- What has been written into the targets is read back from them. -/
theorem Fits.gather_scatter (fits : entry.Fits numQubits ambient) (exact : entry.IsExact)
    {column : ℕ} (inside : column < entry.gate.matrix.size) (index : ℕ) :
    Basis.gather entry.targetQubits (Basis.scatter entry.targetQubits column index) = column := by
  rw [Basis.gather_scatter fits.targets_nodup, ← exact.size_eq, Nat.mod_eq_of_lt inside]

/-- The map of a gate at a basis state that differs in the targets. -/
theorem act_scatter (exact : entry.IsExact) (fits : entry.Fits numQubits ambient)
    (amplitudes : ℕ → ℂ) {column : ℕ} (inside : column < entry.gate.matrix.size) {index : ℕ}
    (one : Basis.allOne (entry.allControls ambient) index = true) :
    entry.act ambient amplitudes (Basis.scatter entry.targetQubits column index) =
      ∑ middle ∈ Finset.range entry.gate.matrix.size,
        (entry.gate.matrix.entry column middle).toComplex *
          amplitudes (Basis.scatter entry.targetQubits middle index) := by
  rw [act_apply, fits.allOne_scatter, if_pos one, fits.gather_scatter exact inside]
  simp only [Basis.scatter_scatter fits.targets_nodup]

theorem act_of_le (fits : entry.Fits numQubits ambient) {amplitudes : ℕ → ℂ}
    (vanishes : ∀ index, Basis.count numQubits ≤ index → amplitudes index = 0) (index : ℕ)
    (outside : Basis.count numQubits ≤ index) : entry.act ambient amplitudes index = 0 := by
  rw [act_apply]
  split
  · apply Finset.sum_eq_zero
    intro column _
    rw [vanishes _ (Basis.le_scatter fits.targets_nodup fits.targets_lt column outside), mul_zero]
  · exact vanishes index outside

/-- The only entry of a unitary matrix of size one has magnitude one. -/
theorem exp_angle_entry {matrix : SquareMatrix ℝ} (unitary : matrix.IsUnitary)
    (size : matrix.size = 1) :
    exp ((matrix.entry 0 0).angle * I) = (matrix.entry 0 0).toComplex := by
  have inside : 0 < matrix.size := by omega
  have row := SquareMatrix.sum_rows_of_unitary unitary inside inside
  rw [size, Finset.sum_range_one, if_pos rfl] at row
  have norm : ‖(matrix.entry 0 0).toComplex‖ = 1 := by
    have squared := congrArg norm row
    rw [norm_mul, norm_star, norm_one] at squared
    nlinarith [norm_nonneg (matrix.entry 0 0).toComplex]
  have polar := norm_mul_exp_arg_mul_I (matrix.entry 0 0).toComplex
  rwa [norm, ofReal_one, one_mul] at polar

theorem IsExact.size_eq_one (exact : entry.IsExact) (noTarget : entry.targets = []) :
    entry.gate.matrix.size = 1 := by
  rw [exact.size_eq, targetQubits, noTarget]
  rfl

/-- Without targets the map of a gate is a phase, by the only entry of its matrix. -/
theorem value_applyPhase_eq_act (exact : entry.IsExact) (noTarget : entry.targets = [])
    {angle : ℝ} (isEntry : exp (angle * I) = (entry.gate.matrix.entry 0 0).toComplex)
    {state : StateVector ℝ} {index : ℕ} (inRegister : index < Basis.count state.numQubits) :
    (state.applyPhase angle (entry.allControls ambient)).value index =
      entry.act ambient state.value index := by
  rw [StateVector.value_applyPhase angle _ inRegister, act_apply, exact.size_eq_one noTarget,
    Finset.sum_range_one, targetQubits, noTarget, isEntry]
  rfl

/-- A gate that fits acts on the amplitudes by its linear map. -/
theorem value_onState (exact : entry.IsExact) {state : StateVector ℝ}
    (fits : entry.Fits state.numQubits ambient) :
    (entry.onState ambient state).value = entry.act ambient state.value := by
  funext index
  by_cases inRegister : index < Basis.count state.numQubits
  · rw [onState]
    split
    · rename_i angle isPhase
      have noTarget : entry.targets = [] := by
        have complete := exact.2
        rw [IsComplete, isPhase] at complete
        exact List.length_eq_zero_iff.1 complete
      refine value_applyPhase_eq_act exact noTarget ?_ inRegister
      rw [isPhase]
      exact (Gate.toMatrix_globalPhase angle 0 0).symm
    · split
      · rename_i isEmpty
        have noTarget := List.isEmpty_iff.1 isEmpty
        exact value_applyPhase_eq_act exact noTarget
          (exp_angle_entry exact.1 (exact.size_eq_one noTarget)) inRegister
      · exact StateVector.value_applyMatrix _ _ _ inRegister
  · have outside := not_lt.1 inRegister
    rw [StateVector.value_of_le (by simpa using outside)]
    exact (act_of_le fits (fun _ => StateVector.value_of_le) index outside).symm

end Fitting

end TapeEntry

/-! ## A gate and its adjoint -/

namespace TapeEntry

/-- The recorded gate with another gate in its place. -/
def withGate (gate : Gate ℝ) (entry : TapeEntry ℝ) : TapeEntry ℝ := { entry with gate := gate }

section Adjoint

variable {entry : TapeEntry ℝ} {inverse : Gate ℝ} {ambient : List Int} {numQubits : ℕ}

/-- The map of the adjoint gate, by the entries of the gate. -/
theorem act_withGate_apply (adjoint : inverse.matrix.IsAdjointOf entry.gate.matrix)
    (amplitudes : ℕ → ℂ) (index : ℕ) :
    (entry.withGate inverse).act ambient amplitudes index =
      if Basis.allOne (entry.allControls ambient) index then
        ∑ column ∈ Finset.range entry.gate.matrix.size,
          star (entry.gate.matrix.entry column
              (Basis.gather entry.targetQubits index)).toComplex *
            amplitudes (Basis.scatter entry.targetQubits column index)
      else amplitudes index := by
  rw [act_apply]
  change (if Basis.allOne (entry.allControls ambient) index then
    ∑ column ∈ Finset.range inverse.matrix.size,
      (inverse.matrix.entry (Basis.gather entry.targetQubits index) column).toComplex *
        amplitudes (Basis.scatter entry.targetQubits column index)
    else amplitudes index) = _
  simp only [adjoint.1, adjoint.2]

/-- The map of the adjoint gate undoes the map of the gate. -/
theorem act_withGate_act (exact : entry.IsExact) (fits : entry.Fits numQubits ambient)
    (adjoint : inverse.matrix.IsAdjointOf entry.gate.matrix) (amplitudes : ℕ → ℂ) :
    (entry.withGate inverse).act ambient (entry.act ambient amplitudes) = amplitudes := by
  funext index
  rw [act_withGate_apply adjoint]
  by_cases one : Basis.allOne (entry.allControls ambient) index = true
  · rw [if_pos one]
    have rowInside : Basis.gather entry.targetQubits index < entry.gate.matrix.size := by
      rw [exact.size_eq]
      exact Basis.gather_lt _ _
    calc
      ∑ column ∈ Finset.range entry.gate.matrix.size,
          star (entry.gate.matrix.entry column
              (Basis.gather entry.targetQubits index)).toComplex *
            entry.act ambient amplitudes (Basis.scatter entry.targetQubits column index) =
          ∑ column ∈ Finset.range entry.gate.matrix.size,
            ∑ middle ∈ Finset.range entry.gate.matrix.size,
              star (entry.gate.matrix.entry column
                  (Basis.gather entry.targetQubits index)).toComplex *
                (entry.gate.matrix.entry column middle).toComplex *
                amplitudes (Basis.scatter entry.targetQubits middle index) := by
        apply Finset.sum_congr rfl
        intro column inside
        rw [act_scatter exact fits amplitudes (Finset.mem_range.1 inside) one, Finset.mul_sum]
        simp only [mul_assoc]
      _ = ∑ middle ∈ Finset.range entry.gate.matrix.size,
            (if Basis.gather entry.targetQubits index = middle then 1 else 0) *
              amplitudes (Basis.scatter entry.targetQubits middle index) := by
        rw [Finset.sum_comm]
        apply Finset.sum_congr rfl
        intro middle inside
        rw [← Finset.sum_mul,
          SquareMatrix.sum_columns_of_unitary exact.1 rowInside (Finset.mem_range.1 inside)]
      _ = amplitudes index := by
        simp only [ite_mul, one_mul, zero_mul, Finset.sum_ite_eq, Finset.mem_range, rowInside,
          if_true, Basis.scatter_gather]
  · rw [if_neg one, act_apply, if_neg one]

end Adjoint

end TapeEntry

/-! ## Sums over what a gate reads -/

/-- A sum over the basis states where all controls read one, and over those that differ from each in
the targets, can be taken the other way round. -/
theorem Basis.sum_scatter {M : Type} [AddCommMonoid M] {numQubits : ℕ} {targets controls : List ℕ}
    (distinct : targets.Nodup) (areTargets : ∀ target ∈ targets, target < numQubits)
    (apart : ∀ control ∈ controls, control ∉ targets) (term : ℕ → ℕ → M) :
    ∑ index ∈ (Finset.range (count numQubits)).filter (fun index => allOne controls index = true),
      ∑ column ∈ Finset.range (2 ^ targets.length), term index column =
    ∑ index ∈ (Finset.range (count numQubits)).filter (fun index => allOne controls index = true),
      ∑ column ∈ Finset.range (2 ^ targets.length),
        term (scatter targets column index) (gather targets index) := by
  rw [Finset.sum_sigma', Finset.sum_sigma']
  have back : ∀ index column, column < 2 ^ targets.length →
      gather targets (scatter targets column index) = column := by
    intro index column inside
    rw [gather_scatter distinct, Nat.mod_eq_of_lt inside]
  have forth : ∀ index column,
      scatter targets (gather targets index) (scatter targets column index) = index := by
    intro index column
    rw [scatter_scatter distinct, scatter_gather]
  have one_scatter : ∀ index column,
      allOne controls (scatter targets column index) = allOne controls index := by
    intro index column
    exact allOne_congr fun control isControl =>
      testBit_scatter_of_notMem (apart control isControl) column index
  let exchange : (_ : ℕ) × ℕ → (_ : ℕ) × ℕ := fun pair =>
    ⟨scatter targets pair.2 pair.1, gather targets pair.1⟩
  have exchange_mem : ∀ pair ∈ ((Finset.range (count numQubits)).filter
      (fun index => allOne controls index = true)).sigma
        fun _ => Finset.range (2 ^ targets.length),
      exchange pair ∈ ((Finset.range (count numQubits)).filter
        (fun index => allOne controls index = true)).sigma
          fun _ => Finset.range (2 ^ targets.length) := by
    rintro ⟨index, column⟩ member
    simp only [Finset.mem_sigma, Finset.mem_filter, Finset.mem_range, exchange] at member ⊢
    refine ⟨⟨scatter_lt member.1.1 areTargets column, ?_⟩, gather_lt _ _⟩
    rw [one_scatter]
    exact member.1.2
  apply Finset.sum_nbij' exchange exchange exchange_mem exchange_mem
  · rintro ⟨index, column⟩ member
    simp only [Finset.mem_sigma, Finset.mem_filter, Finset.mem_range] at member
    simp only [exchange, forth, back index column member.2]
  · rintro ⟨index, column⟩ member
    simp only [Finset.mem_sigma, Finset.mem_filter, Finset.mem_range] at member
    simp only [exchange, forth, back index column member.2]
  · rintro ⟨index, column⟩ member
    simp only [Finset.mem_sigma, Finset.mem_filter, Finset.mem_range] at member
    simp only [exchange, forth, back index column member.2]

/-- The inner product of two vectors of a register, conjugated on the left. -/
def overlap (numQubits : ℕ) (left right : ℕ → ℂ) : ℂ :=
  ∑ index ∈ Finset.range (Basis.count numQubits), star (left index) * right index

namespace TapeEntry

variable {entry : TapeEntry ℝ} {inverse : Gate ℝ} {ambient : List Int} {numQubits : ℕ}

/-- A sum over the basis states that a gate changes, and over what they are made of, can be taken
the other way round. -/
theorem sum_scatter (exact : entry.IsExact) (fits : entry.Fits numQubits ambient)
    (term : ℕ → ℕ → ℂ) :
    ∑ index ∈ (Finset.range (Basis.count numQubits)).filter
        (fun index => Basis.allOne (entry.allControls ambient) index = true),
      ∑ column ∈ Finset.range entry.gate.matrix.size, term index column =
    ∑ index ∈ (Finset.range (Basis.count numQubits)).filter
        (fun index => Basis.allOne (entry.allControls ambient) index = true),
      ∑ column ∈ Finset.range entry.gate.matrix.size,
        term (Basis.scatter entry.targetQubits column index)
          (Basis.gather entry.targetQubits index) := by
  rw [exact.size_eq]
  exact Basis.sum_scatter fits.targets_nodup fits.targets_lt fits.controls_apart term

/-- The map of the adjoint gate is the adjoint of the map of the gate. -/
theorem overlap_act (exact : entry.IsExact) (fits : entry.Fits numQubits ambient)
    (adjoint : inverse.matrix.IsAdjointOf entry.gate.matrix) (left right : ℕ → ℂ) :
    overlap numQubits (entry.act ambient left) right =
      overlap numQubits left ((entry.withGate inverse).act ambient right) := by
  unfold overlap
  have leftTerm : ∀ index, star (entry.act ambient left index) * right index =
      if Basis.allOne (entry.allControls ambient) index = true then
        ∑ column ∈ Finset.range entry.gate.matrix.size,
          star (entry.gate.matrix.entry (Basis.gather entry.targetQubits index) column).toComplex *
            star (left (Basis.scatter entry.targetQubits column index)) * right index
      else star (left index) * right index := by
    intro index
    rw [act_apply]
    split
    · rw [star_sum, Finset.sum_mul]
      simp only [star_mul']
    · rfl
  have rightTerm : ∀ index, star (left index) * (entry.withGate inverse).act ambient right index =
      if Basis.allOne (entry.allControls ambient) index = true then
        ∑ column ∈ Finset.range entry.gate.matrix.size,
          star (entry.gate.matrix.entry column (Basis.gather entry.targetQubits index)).toComplex *
            star (left index) * right (Basis.scatter entry.targetQubits column index)
      else star (left index) * right index := by
    intro index
    rw [act_withGate_apply adjoint]
    split
    · rw [Finset.mul_sum]
      apply Finset.sum_congr rfl
      intro column _
      ring
    · rfl
  simp only [leftTerm, rightTerm]
  rw [Finset.sum_ite, Finset.sum_ite, sum_scatter exact fits]
  congr 1
  apply Finset.sum_congr rfl
  intro index _
  apply Finset.sum_congr rfl
  intro column inside
  rw [fits.gather_scatter exact (Finset.mem_range.1 inside),
    Basis.scatter_scatter fits.targets_nodup, Basis.scatter_gather]

end TapeEntry

/-! ## Several gates -/

/-- The linear map of gates one after the other under the controls in force. -/
def actAll (ambient : List Int) : List (TapeEntry ℝ) → (ℕ → ℂ) →ₗ[ℂ] (ℕ → ℂ)
  | [] => LinearMap.id
  | entry :: rest => actAll ambient rest ∘ₗ entry.act ambient

section Several

variable {ambient : List Int} {numQubits : ℕ} {entries : List (TapeEntry ℝ)}

theorem actAll_nil (amplitudes : ℕ → ℂ) : actAll ambient [] amplitudes = amplitudes := rfl

theorem actAll_cons (entry : TapeEntry ℝ) (rest : List (TapeEntry ℝ)) (amplitudes : ℕ → ℂ) :
    actAll ambient (entry :: rest) amplitudes =
      actAll ambient rest (entry.act ambient amplitudes) := rfl

theorem actAll_append (first second : List (TapeEntry ℝ)) (amplitudes : ℕ → ℂ) :
    actAll ambient (first ++ second) amplitudes =
      actAll ambient second (actAll ambient first amplitudes) := by
  induction first generalizing amplitudes with
  | nil => rfl
  | cons entry rest ih => exact ih (entry.act ambient amplitudes)

theorem actAll_under (added : List Int) (entries : List (TapeEntry ℝ)) (amplitudes : ℕ → ℂ) :
    actAll ambient (entries.map (TapeEntry.under added)) amplitudes =
      actAll (ambient ++ added) entries amplitudes := by
  induction entries generalizing amplitudes with
  | nil => rfl
  | cons entry rest ih =>
    have same : (entry.under added).act ambient amplitudes =
        entry.act (ambient ++ added) amplitudes := by
      funext index
      simp only [TapeEntry.act_apply, TapeEntry.allControls, TapeEntry.under, List.append_assoc]
      rfl
    rw [List.map_cons, actAll_cons, actAll_cons, same, ih]

/-- Gates that fit act on the amplitudes by their linear maps. -/
theorem StateVector.value_through {state : StateVector ℝ}
    (exact : ∀ entry ∈ entries, entry.IsExact)
    (fit : ∀ entry ∈ entries, entry.Fits state.numQubits ambient) :
    (state.through ambient entries).value = actAll ambient entries state.value := by
  induction entries generalizing state with
  | nil => rfl
  | cons entry rest ih =>
    rcases List.forall_mem_cons.1 exact with ⟨isExact, exact⟩
    rcases List.forall_mem_cons.1 fit with ⟨fits, fit⟩
    rw [through, ih exact (by simpa using fit), entry.value_onState isExact fits]
    rfl

/-- Unitary gates keep inner products. -/
theorem overlap_actAll (exact : ∀ entry ∈ entries, entry.IsExact)
    (fit : ∀ entry ∈ entries, entry.Fits numQubits ambient) (left right : ℕ → ℂ) :
    overlap numQubits (actAll ambient entries left) (actAll ambient entries right) =
      overlap numQubits left right := by
  induction entries generalizing left right with
  | nil => rfl
  | cons entry rest ih =>
    rcases List.forall_mem_cons.1 exact with ⟨isExact, exact⟩
    rcases List.forall_mem_cons.1 fit with ⟨fits, fit⟩
    rcases Gate.exists_adjoint isExact.1 with ⟨inverse, built⟩
    have adjoint := Gate.adjoint_isAdjointOf isExact.1 built
    rw [actAll_cons, actAll_cons, ih exact fit, entry.overlap_act isExact fits adjoint,
      entry.act_withGate_act isExact fits adjoint]

end Several

end QuantumKata

end
