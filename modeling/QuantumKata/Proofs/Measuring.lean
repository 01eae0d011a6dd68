import Mathlib.Algebra.BigOperators.Field
import Mathlib.Algebra.Order.BigOperators.Group.List
import QuantumKata.Proofs.Holding

/-!
# Measurement of a state

The probabilities of a state, as parts of their sum, add up to one unless the state is the zero
vector.  A draw from zero up to one, one itself left out, chooses the basis state in whose interval
it lies: the intervals stand next to each other in the order of the basis states, each as long as its
part.  So a draw never chooses a basis state of probability zero, and every other basis state is
chosen by some draw.

The part of the state that agrees with the chosen basis state contains that basis state.  Its norm is
positive, so it can be scaled back to norm one.
-/

noncomputable section

namespace QuantumKata

open Complex

namespace StateVector

/-! ## Choosing by a draw -/

/-- The sum of the numbers before a position. -/
def sumBefore (numbers : List ℝ) (position : ℕ) : ℝ := (numbers.take position).sum

theorem sumBefore_succ (numbers : List ℝ) {position : ℕ} (inside : position < numbers.length) :
    sumBefore numbers (position + 1) = sumBefore numbers position + numbers[position] := by
  rw [sumBefore, sumBefore, List.sum_take_succ _ _ inside]

/-- Sums of more numbers that are not negative are not smaller. -/
theorem sumBefore_mono {numbers : List ℝ} (nonneg : ∀ number ∈ numbers, 0 ≤ number) :
    Monotone (sumBefore numbers) := by
  apply monotone_nat_of_le_succ
  intro position
  by_cases inside : position < numbers.length
  · rw [sumBefore_succ numbers inside]
    have notNegative := nonneg _ (List.getElem_mem inside)
    linarith
  · rw [sumBefore, sumBefore, List.take_of_length_le (by omega), List.take_of_length_le (by omega)]

/-- The running sums of a list, one for each of its numbers. -/
theorem runningSums_eq (numbers : List ℝ) :
    runningSums numbers =
      (List.range numbers.length).map fun position => sumBefore numbers (position + 1) := by
  -- The fold carries the sums so far, last one first, and the total.
  have general : ∀ (rest : List ℝ) (sums : List ℝ) (total : ℝ),
      (rest.foldl (fun (sums, total) number => ((total + number) :: sums, total + number))
        (sums, total)).1.reverse =
      sums.reverse ++ (List.range rest.length).map fun position =>
        total + sumBefore rest (position + 1) := by
    intro rest
    induction rest with
    | nil =>
      intro sums total
      simp
    | cons first rest ih =>
      intro sums total
      rw [List.foldl_cons, ih, List.length_cons, List.range_succ_eq_map, List.map_cons,
        List.map_map, List.reverse_cons, List.append_assoc]
      simp [sumBefore, Function.comp_def, add_assoc]
  rw [runningSums]
  exact (general numbers [] 0).trans (by simp)

section

variable {weights : List ℝ} {draw : ℝ}

/-- The last running sum is the sum of all numbers. -/
theorem getLastD_runningSums (whole : weights.sum = 1) : (runningSums weights).getLastD 1 = 1 := by
  rw [runningSums_eq]
  cases length : weights.length with
  | zero => rfl
  | succ before =>
    rw [List.range_succ, List.map_append, List.map_singleton, List.getLastD_concat, sumBefore,
      List.take_of_length_le length.le, whole]

/-- A draw chooses a position, and lies in its interval. -/
theorem chooseIndex_spec (whole : weights.sum = 1) (lower : 0 ≤ draw) (upper : draw < 1) :
    chooseIndex weights draw < weights.length ∧
      sumBefore weights (chooseIndex weights draw) ≤ draw ∧
      draw < sumBefore weights (chooseIndex weights draw + 1) := by
  let exceeds : ℝ → Bool := fun sum => Scalar.less draw (sum / 1)
  have choice : chooseIndex weights draw =
      ((runningSums weights).findIdx? exceeds).getD weights.length := by
    rw [chooseIndex]
    simp only [getLastD_runningSums whole]
    rfl
  have exceeds_iff : ∀ sum, exceeds sum = true ↔ draw < sum := by
    intro sum
    simp only [exceeds, Scalar.less_iff, div_one]
  have length : (runningSums weights).length = weights.length := by
    rw [runningSums_eq]
    simp
  have reads : ∀ position (inside : position < (runningSums weights).length),
      (runningSums weights)[position] = sumBefore weights (position + 1) := by
    intro position inside
    simp [runningSums_eq]
  cases found : (runningSums weights).findIdx? exceeds with
  | none =>
    -- The sum of all weights exceeds the draw.
    have none := List.findIdx?_eq_none_iff.1 found
    have nonempty : weights ≠ [] := by
      rintro rfl
      simp at whole
    have positive := List.length_pos_iff.2 nonempty
    have last : weights.length - 1 < (runningSums weights).length := by omega
    have exceeded : exceeds (runningSums weights)[weights.length - 1] = true := by
      rw [exceeds_iff, reads, Nat.sub_add_cancel positive, sumBefore, List.take_length, whole]
      exact upper
    rw [none _ (List.getElem_mem last)] at exceeded
    cases exceeded
  | some position =>
    rcases List.findIdx?_eq_some_iff_getElem.1 found with ⟨inside, exceeded, first⟩
    rw [choice, found, Option.getD_some]
    rw [exceeds_iff, reads] at exceeded
    refine ⟨length ▸ inside, ?_, exceeded⟩
    cases position with
    | zero => simpa [sumBefore] using lower
    | succ before =>
      have notYet := first before (Nat.lt_succ_self before)
      rw [exceeds_iff, reads] at notYet
      exact not_lt.1 notYet

/-- A draw chooses the position in whose interval it lies. -/
theorem chooseIndex_eq_iff (nonneg : ∀ weight ∈ weights, 0 ≤ weight) (whole : weights.sum = 1)
    (lower : 0 ≤ draw) (upper : draw < 1) (position : ℕ) :
    chooseIndex weights draw = position ↔
      position < weights.length ∧ sumBefore weights position ≤ draw ∧
        draw < sumBefore weights (position + 1) := by
  have chosen := chooseIndex_spec whole lower upper
  constructor
  · rintro rfl
    exact chosen
  · rintro ⟨-, notBefore, before⟩
    -- Intervals of different positions have no draw in common.
    rcases lt_trichotomy (chooseIndex weights draw) position with earlier | same | later
    · have apart := sumBefore_mono nonneg (Nat.succ_le_of_lt earlier)
      exact absurd (chosen.2.2.trans_le (apart.trans notBefore)) (lt_irrefl _)
    · exact same
    · have apart := sumBefore_mono nonneg (Nat.succ_le_of_lt later)
      exact absurd (before.trans_le (apart.trans chosen.2.1)) (lt_irrefl _)

/-- A draw chooses a position of positive weight. -/
theorem chooseIndex_pos (whole : weights.sum = 1) (lower : 0 ≤ draw) (upper : draw < 1) :
    ∃ inside : chooseIndex weights draw < weights.length,
      0 < weights[chooseIndex weights draw] := by
  rcases chooseIndex_spec whole lower upper with ⟨inside, notBefore, before⟩
  refine ⟨inside, ?_⟩
  rw [sumBefore_succ weights inside] at before
  linarith

/-- Every position of positive weight is chosen by a draw. -/
theorem exists_draw (nonneg : ∀ weight ∈ weights, 0 ≤ weight) (whole : weights.sum = 1)
    {position : ℕ} (inside : position < weights.length) (positive : 0 < weights[position]) :
    ∃ draw, 0 ≤ draw ∧ draw < 1 ∧ chooseIndex weights draw = position := by
  have before : sumBefore weights position < sumBefore weights (position + 1) := by
    rw [sumBefore_succ weights inside]
    linarith
  have lower : 0 ≤ sumBefore weights position := sumBefore_mono nonneg (Nat.zero_le position)
  have upper : sumBefore weights position < 1 := by
    have atMost := sumBefore_mono nonneg (Nat.succ_le_of_lt inside)
    rw [sumBefore, sumBefore, List.take_length, whole] at atMost
    exact before.trans_le atMost
  exact ⟨_, lower, upper,
    (chooseIndex_eq_iff nonneg whole lower upper position).2 ⟨inside, le_refl _, before⟩⟩

end

/-! ## The probabilities of a state -/

section

variable {state : StateVector ℝ}

theorem squaredNorm_basis {numQubits position : ℕ} (inside : position < Basis.count numQubits) :
    (basis numQubits position : StateVector ℝ).squaredNorm = 1 := by
  have overlapped : overlap numQubits (basis numQubits position).value
      (basis numQubits position).value = _ := overlap_self (basis numQubits position)
  rw [value_basis inside, overlap_basisAmplitudes inside, basisAmplitudes, if_pos rfl] at overlapped
  exact_mod_cast overlapped.symm

/-- The probabilities add up to the squared norm. -/
theorem sum_probabilities (state : StateVector ℝ) :
    Scalar.sum state.probabilities = state.squaredNorm := by
  rw [probabilities_eq, sum_range_map, squaredNorm_eq]

theorem squaredNorm_nonneg (state : StateVector ℝ) : 0 ≤ state.squaredNorm := by
  rw [squaredNorm_eq]
  exact Finset.sum_nonneg fun index _ => normSq_nonneg _

/-- The probabilities as parts of the whole. -/
theorem choiceWeights_eq (state : StateVector ℝ) :
    state.choiceWeights = (List.range (Basis.count state.numQubits)).map fun index =>
      normSq (state.value index) / state.squaredNorm := by
  rw [choiceWeights, sum_probabilities, probabilities_eq, List.map_map]
  rfl

theorem choiceWeights_nonneg (state : StateVector ℝ) :
    ∀ weight ∈ state.choiceWeights, 0 ≤ weight := by
  rw [choiceWeights_eq]
  intro weight member
  rcases List.mem_map.1 member with ⟨index, -, rfl⟩
  exact div_nonneg (normSq_nonneg _) state.squaredNorm_nonneg

theorem length_choiceWeights (state : StateVector ℝ) :
    state.choiceWeights.length = Basis.count state.numQubits := by
  rw [choiceWeights_eq, List.length_map, List.length_range]

theorem getElem_choiceWeights {index : ℕ} (inside : index < state.choiceWeights.length) :
    state.choiceWeights[index] = normSq (state.value index) / state.squaredNorm := by
  simp [choiceWeights_eq]

/-- The parts of a whole that is not zero add up to one. -/
theorem sum_choiceWeights_of_nonzero (nonzero : state.squaredNorm ≠ 0) :
    state.choiceWeights.sum = 1 := by
  rw [choiceWeights_eq, ← Scalar.sum_eq, sum_range_map, ← Finset.sum_div, ← squaredNorm_eq,
    div_self nonzero]

theorem sum_choiceWeights (normal : state.squaredNorm = 1) : state.choiceWeights.sum = 1 :=
  sum_choiceWeights_of_nonzero (normal ▸ one_ne_zero)

/-- A draw chooses a basis state of the register with an amplitude other than zero. -/
theorem chosen_pos_of_nonzero (nonzero : state.squaredNorm ≠ 0) {draw : ℝ} (lower : 0 ≤ draw)
    (upper : draw < 1) :
    chooseIndex state.choiceWeights draw < Basis.count state.numQubits ∧
      0 < normSq (state.value (chooseIndex state.choiceWeights draw)) := by
  rcases chooseIndex_pos (sum_choiceWeights_of_nonzero nonzero) lower upper with ⟨inside, positive⟩
  rw [getElem_choiceWeights] at positive
  exact ⟨state.length_choiceWeights ▸ inside,
    (div_pos_iff_of_pos_right (lt_of_le_of_ne state.squaredNorm_nonneg nonzero.symm)).1 positive⟩

theorem chosen_pos (normal : state.squaredNorm = 1) {draw : ℝ} (lower : 0 ≤ draw)
    (upper : draw < 1) :
    chooseIndex state.choiceWeights draw < Basis.count state.numQubits ∧
      0 < normSq (state.value (chooseIndex state.choiceWeights draw)) :=
  chosen_pos_of_nonzero (normal ▸ one_ne_zero) lower upper

/-- Every basis state with an amplitude other than zero is chosen by a draw. -/
theorem exists_draw_of_pos (normal : state.squaredNorm = 1) {index : ℕ}
    (positive : 0 < normSq (state.value index)) :
    ∃ draw, 0 ≤ draw ∧ draw < 1 ∧ chooseIndex state.choiceWeights draw = index := by
  have inRegister : index < Basis.count state.numQubits := by
    by_contra outside
    rw [value_of_le (not_lt.1 outside), normSq_zero] at positive
    exact lt_irrefl _ positive
  have inside : index < state.choiceWeights.length := state.length_choiceWeights ▸ inRegister
  apply exists_draw state.choiceWeights_nonneg (sum_choiceWeights normal) inside
  rwa [getElem_choiceWeights inside, normal, div_one]

/-! ## What is left after a measurement -/

/-- The part of a state that agrees with a basis state on some qubits. -/
def kept (state : StateVector ℝ) (qubits : List ℕ) (outcome : ℕ) : StateVector ℝ :=
  state.mapWithIndex fun index old => if Basis.agree qubits index outcome then old else 0

theorem value_kept (state : StateVector ℝ) (qubits : List ℕ) (outcome index : ℕ) :
    (state.kept qubits outcome).value index =
      if Basis.agree qubits index outcome then state.value index else 0 := by
  by_cases inRegister : index < Basis.count state.numQubits
  · rw [value, kept, amplitude_mapWithIndex _ inRegister]
    split <;> rfl
  · have outside : state.value index = 0 := value_of_le (not_lt.1 inRegister)
    have outsideToo : (state.kept qubits outcome).value index = 0 :=
      value_of_le (not_lt.1 inRegister)
    rw [outsideToo, outside, ite_self]

/-- The factor that scales what is kept to norm one. -/
def keptFactor (state : StateVector ℝ) (qubits : List ℕ) (outcome : ℕ) : ℝ :=
  1 / √(state.kept qubits outcome).squaredNorm

theorem value_collapse (state : StateVector ℝ) (qubits : List ℕ) (outcome index : ℕ) :
    (state.collapse qubits outcome).value index =
      state.keptFactor qubits outcome * (state.kept qubits outcome).value index := by
  by_cases inRegister : index < Basis.count (state.kept qubits outcome).numQubits
  · have scale : (state.collapse qubits outcome).amplitude index =
        ((state.kept qubits outcome).amplitude index).scale (state.keptFactor qubits outcome) :=
      @amplitude_mapWithIndex _ _ (state.kept qubits outcome) _ _ inRegister
    rw [value, scale]
    apply Complex.ext <;> simp [Amplitude.scale, value, mul_comm]
  · have outside : (state.kept qubits outcome).value index = 0 := value_of_le (not_lt.1 inRegister)
    have outsideToo : (state.collapse qubits outcome).value index = 0 :=
      value_of_le (not_lt.1 inRegister)
    rw [outsideToo, outside, mul_zero]

/-- The part that agrees with a basis state of the register contains its amplitude. -/
theorem normSq_le_squaredNorm_kept (qubits : List ℕ) {outcome : ℕ}
    (inRegister : outcome < Basis.count state.numQubits) :
    normSq (state.value outcome) ≤ (state.kept qubits outcome).squaredNorm := by
  have own : Basis.agree qubits outcome outcome = true := by
    simp [Basis.agree]
  have isTerm : normSq (state.value outcome) =
      normSq ((state.kept qubits outcome).value outcome) := by
    rw [value_kept, if_pos own]
  rw [squaredNorm_eq, isTerm]
  exact Finset.single_le_sum (fun index _ => normSq_nonneg _) (Finset.mem_range.2 inRegister)

/-- What is kept of a measurement is not the zero vector. -/
theorem squaredNorm_kept_pos (normal : state.squaredNorm = 1) (qubits : List ℕ) {draw : ℝ}
    (lower : 0 ≤ draw) (upper : draw < 1) :
    0 < (state.kept qubits (chooseIndex state.choiceWeights draw)).squaredNorm := by
  rcases chosen_pos normal lower upper with ⟨inRegister, positive⟩
  exact positive.trans_le (normSq_le_squaredNorm_kept qubits inRegister)

/-- What is not the zero vector is scaled back to norm one. -/
theorem squaredNorm_collapse {qubits : List ℕ} {outcome : ℕ}
    (positive : 0 < (state.kept qubits outcome).squaredNorm) :
    (state.collapse qubits outcome).squaredNorm = 1 := by
  let factor := state.keptFactor qubits outcome
  have scaled : ∀ index, normSq ((state.collapse qubits outcome).value index) =
      factor * factor * normSq ((state.kept qubits outcome).value index) := by
    intro index
    rw [value_collapse, normSq_mul, normSq_ofReal]
  have square : factor * factor * (state.kept qubits outcome).squaredNorm = 1 := by
    have root := Real.mul_self_sqrt positive.le
    have rootPositive := Real.sqrt_pos.2 positive
    simp only [factor, keptFactor]
    field_simp
    rw [sq, root]
  calc
    (state.collapse qubits outcome).squaredNorm =
        ∑ index ∈ Finset.range (Basis.count (state.kept qubits outcome).numQubits),
          normSq ((state.collapse qubits outcome).value index) := squaredNorm_eq _
    _ = factor * factor * (state.kept qubits outcome).squaredNorm := by
      rw [Finset.sum_congr rfl fun index _ => scaled index, ← Finset.mul_sum,
        squaredNorm_eq (state.kept _ _)]
    _ = 1 := square

/-- A measurement of a state of norm one leaves a state of norm one. -/
theorem squaredNorm_measure (normal : state.squaredNorm = 1) {qubits : List ℕ} {draw : ℝ}
    (lower : 0 ≤ draw) (upper : draw < 1) {bits : List Bool} {collapsed : StateVector ℝ}
    (measured : state.measure? qubits draw = some (bits, collapsed)) :
    collapsed.squaredNorm = 1 := by
  rw [measure?] at measured
  dsimp only at measured
  split at measured
  · cases measured
  · cases measured
    exact squaredNorm_collapse (squaredNorm_kept_pos normal qubits lower upper)

end

end StateVector

end QuantumKata

end
