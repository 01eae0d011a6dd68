import QuantumKata.Proofs.Normalization
import QuantumKata.Proofs.Resolving
import QuantumKata.Proofs.SingleQubit

/-!
# Measurement as a projection

A measurement chooses a basis state and keeps the amplitudes of all that agree with it on the
measured qubits, scaled back to norm one.  The state need not have norm one before: the chances are
the squared magnitudes as parts of their sum, so all that is needed is that some amplitude is not
zero.

What is left is a state of norm one in which every basis state with an amplitude agrees with the
chosen one on the measured qubits.  So to measure some of these qubits again, in whatever order,
answers with the same bits whatever is drawn, keeps all there is and scales it by one.  And a reset
flips the measured qubit if it reads one, after which no amplitude is left where it does.
-/

noncomputable section

namespace QuantumKata

open Complex

namespace StateVector

variable {state before after : StateVector ℝ} {qubits again : List ℕ} {outcome other : ℕ}

/-! ## What is left is a projection -/

/-- What a measurement leaves of a state when it has chosen a basis state: where the measured qubits
read the same as there, the amplitudes from before times one positive factor, elsewhere zero, and all
of it with norm one. -/
structure IsProjection (qubits : List ℕ) (outcome : ℕ) (before after : StateVector ℝ) : Prop where
  size : after.numQubits = before.numQubits
  scaled : ∃ factor : ℝ, 0 < factor ∧ ∀ index, after.value index =
    if ∀ qubit ∈ qubits, index.testBit qubit = outcome.testBit qubit then
      factor * before.value index
    else 0
  norm : after.squaredNorm = 1

theorem agree_iff {left right : ℕ} :
    Basis.agree qubits left right = true ↔
      ∀ qubit ∈ qubits, left.testBit qubit = right.testBit qubit := by
  simp [Basis.agree]

/-- Some amplitude is not zero exactly if the norm is not. -/
theorem squaredNorm_ne_zero_iff : state.squaredNorm ≠ 0 ↔ ∃ index, state.value index ≠ 0 := by
  rw [squaredNorm_eq, Ne, Finset.sum_eq_zero_iff_of_nonneg fun index _ => normSq_nonneg _]
  constructor
  · intro some
    push Not at some
    obtain ⟨index, -, apart⟩ := some
    exact ⟨index, fun zero => apart (by rw [zero, normSq_zero])⟩
  · rintro ⟨index, apart⟩ all
    refine apart (normSq_eq_zero.1 (all index ?_))
    rw [Finset.mem_range]
    by_contra outside
    exact apart (value_of_le (not_lt.1 outside))

/-- What is left when a basis state with an amplitude has been chosen. -/
theorem isProjection_collapse (qubits : List ℕ) (possible : state.value outcome ≠ 0) :
    IsProjection qubits outcome state (state.collapse qubits outcome) := by
  have inRegister : outcome < Basis.count state.numQubits := by
    by_contra outside
    exact possible (value_of_le (not_lt.1 outside))
  have positive : 0 < (state.kept qubits outcome).squaredNorm :=
    (normSq_pos.2 possible).trans_le (normSq_le_squaredNorm_kept qubits inRegister)
  refine ⟨rfl, ⟨state.keptFactor qubits outcome, ?_, fun index => ?_⟩, squaredNorm_collapse positive⟩
  · exact one_div_pos.2 (Real.sqrt_pos.2 positive)
  · rw [value_collapse, value_kept, mul_ite, mul_zero]
    exact if_congr agree_iff rfl rfl

namespace IsProjection

/-- The basis states that are left agree with the chosen one. -/
theorem agrees (projection : IsProjection qubits outcome before after)
    (left : after.value other ≠ 0) :
    ∀ qubit ∈ qubits, other.testBit qubit = outcome.testBit qubit := by
  obtain ⟨factor, -, values⟩ := projection.scaled
  rw [values] at left
  by_contra apart
  exact left (if_neg apart)

/-- To keep what agrees with a basis state that is left, on qubits that have been measured, changes
nothing. -/
theorem collapse_eq_self (projection : IsProjection qubits outcome before after)
    (among : ∀ qubit ∈ again, qubit ∈ qubits) (left : after.value other ≠ 0) :
    after.collapse again other = after := by
  have agree : ∀ index, after.value index ≠ 0 → Basis.agree again index other = true := by
    intro index stays
    refine agree_iff.2 fun qubit member => ?_
    exact (projection.agrees stays qubit (among qubit member)).trans
      (projection.agrees left qubit (among qubit member)).symm
  have kept : after.kept again other = after := by
    refine ext_value rfl (funext fun index => ?_)
    rw [value_kept]
    by_cases stays : after.value index = 0
    · rw [stays, ite_self]
    · exact if_pos (agree index stays)
  have factor : after.keptFactor again other = 1 := by
    rw [keptFactor, kept, projection.norm, Real.sqrt_one, div_one]
  refine ext_value rfl (funext fun index => ?_)
  rw [value_collapse, factor, kept, ofReal_one, one_mul]

end IsProjection

/-! ## Choosing and measuring -/

theorem measure?_eq (state : StateVector ℝ) (qubits : List ℕ) (draw : ℝ) :
    state.measure? qubits draw =
      some (qubits.map (chooseIndex state.choiceWeights draw).testBit,
        state.collapse qubits (chooseIndex state.choiceWeights draw)) := by
  have none : state.choiceWeights.any Scalar.isUndefined = false :=
    List.any_eq_false.2 fun _ _ => Bool.false_ne_true
  rw [measure?]
  simp only [none]
  rfl

/-- A draw chooses a basis state with an amplitude. -/
theorem chosen_ne_zero (nonzero : state.squaredNorm ≠ 0) {draw : ℝ} (lower : 0 ≤ draw)
    (upper : draw < 1) : state.value (chooseIndex state.choiceWeights draw) ≠ 0 :=
  normSq_pos.1 (chosen_pos_of_nonzero nonzero lower upper).2

/-- The draws that choose a basis state are an interval as long as its part of the norm. -/
theorem exists_interval (nonzero : state.squaredNorm ≠ 0) (index : ℕ) :
    ∃ lowest : ℝ, 0 ≤ lowest ∧ lowest + normSq (state.value index) / state.squaredNorm ≤ 1 ∧
      ∀ draw, 0 ≤ draw → draw < 1 → (chooseIndex state.choiceWeights draw = index ↔
        lowest ≤ draw ∧ draw < lowest + normSq (state.value index) / state.squaredNorm) := by
  have whole := sum_choiceWeights_of_nonzero nonzero
  have nonneg := state.choiceWeights_nonneg
  by_cases inside : index < state.choiceWeights.length
  · have next := sumBefore_succ state.choiceWeights inside
    rw [getElem_choiceWeights] at next
    refine ⟨sumBefore state.choiceWeights index, sumBefore_mono nonneg (Nat.zero_le index), ?_, ?_⟩
    · have atMost := sumBefore_mono nonneg (Nat.succ_le_of_lt inside)
      rw [← next]
      refine atMost.trans_eq ?_
      rw [sumBefore, List.take_length, whole]
    · intro draw lower upper
      rw [chooseIndex_eq_iff nonneg whole lower upper, next]
      exact and_iff_right inside
  · have outside : state.value index = 0 := by
      rw [length_choiceWeights] at inside
      exact value_of_le (not_lt.1 inside)
    refine ⟨0, le_refl 0, by simp [outside], fun draw lower upper => ?_⟩
    rw [chooseIndex_eq_iff nonneg whole lower upper, outside, normSq_zero, zero_div, add_zero]
    exact ⟨fun chosen => absurd chosen.1 inside, fun none => absurd none.1 (not_le.2 none.2)⟩

/-! ## Flipping a qubit -/

section

variable {qubit : ℕ}

theorem value_flip (inside : qubit < state.numQubits) (index : ℕ) :
    (state.applyToGroups (.ofRows 0 1 1 0) [qubit] []).value index =
      state.value (Basis.setBit index qubit !(index.testBit qubit)) := by
  rw [applyToGroups_flip inside, (flipOf qubit).value_onState (flipOf_isExact qubit)
    (flipOf_fits inside), flipOf, act_flip]
  rfl

/-- What a measurement of a qubit leaves, flipped if the qubit reads one, has no amplitude where it
does. -/
theorem IsProjection.cleared (projection : IsProjection [qubit] outcome before after)
    (inside : qubit < before.numQubits) :
    let left := if outcome.testBit qubit then after.applyToGroups (.ofRows 0 1 1 0) [qubit] []
      else after
    left.numQubits = before.numQubits ∧
      (∀ index, index.testBit qubit = true → left.value index = 0) ∧ left.squaredNorm = 1 := by
  intro left
  have reads : ∀ index, after.value index ≠ 0 → index.testBit qubit = outcome.testBit qubit :=
    fun index stays => projection.agrees stays qubit List.mem_cons_self
  cases bit : outcome.testBit qubit with
  | false =>
    have same : left = after := if_neg (by simp [bit])
    rw [same]
    refine ⟨projection.size, fun index one => ?_, projection.norm⟩
    by_contra stays
    rw [reads index stays, bit] at one
    cases one
  | true =>
    have flipped : left = after.applyToGroups (.ofRows 0 1 1 0) [qubit] [] := if_pos bit
    have within : qubit < after.numQubits := projection.size ▸ inside
    rw [flipped]
    refine ⟨projection.size, fun index one => ?_, (squaredNorm_flip within).trans projection.norm⟩
    rw [value_flip within]
    by_contra stays
    have zero := reads _ stays
    rw [bit, Basis.testBit_setBit, if_pos rfl, one] at zero
    cases zero

/-- Where a qubit reads one in no basis state with an amplitude, it reads one with probability
zero. -/
theorem probabilityOfOne_eq_zero
    (none : ∀ index, index.testBit qubit = true → state.value index = 0) :
    state.probabilityOfOne qubit = 0 := by
  rw [probabilityOfOne, probabilityWhere_eq]
  refine Finset.sum_eq_zero fun index member => ?_
  rw [none index (Finset.mem_filter.1 member).2, normSq_zero]

end

end StateVector

/-! ## Memories -/

namespace Memory

open QubitIndex StateVector

variable {state : StateVector ℝ} {indices : List QubitIndex} {qubits : List ℕ}

/-- A measurement of distinct qubits of the register. -/
theorem measure_holding (accepted : resolve qubitWord state.numQubits indices = .ok qubits)
    (draws : Draws ℝ) :
    (holding state).measure indices draws =
      .ok (qubits.map (chooseIndex state.choiceWeights draws.next.1).testBit,
        .holding (state.collapse qubits (chooseIndex state.choiceWeights draws.next.1)),
        draws.next.2) := by
  rw [measure, live]
  simp only [bind, Except.bind, accepted, measure?_eq]
  rfl

/-- A reset of a qubit of the register. -/
theorem reset_holding {index : QubitIndex} {qubit : ℕ}
    (accepted : resolve qubitWord state.numQubits [index] = .ok [qubit]) (draws : Draws ℝ) :
    (holding state).reset index draws =
      let outcome := chooseIndex state.choiceWeights draws.next.1
      let collapsed := state.collapse [qubit] outcome
      .ok (.holding (if outcome.testBit qubit then
        collapsed.applyToGroups (.ofRows 0 1 1 0) [qubit] [] else collapsed), draws.next.2) := by
  rw [reset, live]
  simp only [bind, Except.bind, accepted, measure?_eq, List.map_cons, List.map_nil, List.any_cons,
    List.any_nil, Bool.or_false, id]
  split <;> rfl

/-- After a reset the qubit reads zero. -/
theorem exists_reset (nonzero : state.squaredNorm ≠ 0) {index : QubitIndex} {qubit : ℕ}
    (stands : index.value? = some (qubit : Int)) (inside : qubit < state.numQubits)
    {draws : Draws ℝ} (admissible : draws.AreAdmissible) :
    ∃ after, (holding state).reset index draws = .ok (.holding after, draws.next.2) ∧
      (holding after).probabilityOfOne index = .ok 0 ∧ after.squaredNorm = 1 := by
  have fits : ∀ word, resolve word state.numQubits [index] = .ok [qubit] := fun word =>
    resolve_eq_ok_iff.2 ⟨standFor_cons.2 ⟨qubit, [], rfl, stands, standFor_nil.2 rfl⟩,
      List.nodup_singleton qubit, List.forall_mem_singleton.2 inside⟩
  obtain ⟨⟨lower, upper⟩, -⟩ := admissible.next
  have projection := isProjection_collapse [qubit] (chosen_ne_zero nonzero lower upper)
  obtain ⟨size, none, norm⟩ := projection.cleared inside
  refine ⟨_, reset_holding (fits qubitWord) draws, ?_, norm⟩
  rw [Memory.probabilityOfOne]
  simp only [bind, Except.bind, Memory.numQubits, size, fits, live]
  exact congrArg Except.ok (probabilityOfOne_eq_zero none)

/-- To measure qubits again that have been measured answers with the same bits and changes
nothing. -/
theorem measure_again {before after : StateVector ℝ} {outcome : ℕ} {again : List ℕ}
    (projection : IsProjection qubits outcome before after)
    (accepted : resolve qubitWord before.numQubits indices = .ok again)
    (among : ∀ qubit ∈ again, qubit ∈ qubits) {further : Draws ℝ}
    (admissible : further.AreAdmissible) :
    (holding after).measure indices further =
      .ok (again.map outcome.testBit, .holding after, further.next.2) := by
  obtain ⟨⟨lower, upper⟩, -⟩ := admissible.next
  have left := chosen_ne_zero (projection.norm ▸ one_ne_zero) lower upper
  rw [measure_holding (projection.size ▸ accepted), projection.collapse_eq_self among left]
  refine congrArg (fun bits => Except.ok (bits, _)) (List.map_congr_left fun qubit member => ?_)
  exact projection.agrees left qubit (among qubit member)

/-- A measurement is a projection and repeatable, and a reset makes a qubit read zero, for every
state that is not the zero vector.  A basis state is chosen by the draws of an interval that is as
long as its part of the squared norm.  The chosen one tells the bits of the answer and the part of
the state that is left, and all that is measured of these qubits from then on.  -/
theorem measure_projects {state : StateVector ℝ} (nonzero : ∃ index, state.value index ≠ 0) :
    (∀ index, ∃ lowest : ℝ, 0 ≤ lowest ∧
      lowest + normSq (state.value index) / state.squaredNorm ≤ 1 ∧
        ∀ draw, 0 ≤ draw → draw < 1 → (chooseIndex state.choiceWeights draw = index ↔
          lowest ≤ draw ∧ draw < lowest + normSq (state.value index) / state.squaredNorm)) ∧
    (∀ (indices : List QubitIndex) (qubits : List ℕ), StandFor indices qubits → qubits.Nodup →
      (∀ qubit ∈ qubits, qubit < state.numQubits) →
        ∀ draws : Draws ℝ, draws.AreAdmissible → ∃ outcome after,
          outcome = chooseIndex state.choiceWeights draws.next.1 ∧ state.value outcome ≠ 0 ∧
          (holding state).measure indices draws =
            .ok (qubits.map outcome.testBit, .holding after, draws.next.2) ∧
          IsProjection qubits outcome state after ∧
          ∀ (listed : List QubitIndex) (again : List ℕ), StandFor listed again → again.Nodup →
            (∀ qubit ∈ again, qubit ∈ qubits) → ∀ further : Draws ℝ, further.AreAdmissible →
              (holding after).measure listed further =
                .ok (again.map outcome.testBit, .holding after, further.next.2)) ∧
    ∀ (index : QubitIndex) (qubit : ℕ), index.value? = some (qubit : Int) →
      qubit < state.numQubits → ∀ draws : Draws ℝ, draws.AreAdmissible →
        ∃ after, (holding state).reset index draws = .ok (.holding after, draws.next.2) ∧
          (holding after).probabilityOfOne index = .ok 0 ∧ after.squaredNorm = 1 := by
  have norm := squaredNorm_ne_zero_iff.2 nonzero
  refine ⟨exists_interval norm, ?_, fun index qubit stands inside draws admissible =>
    exists_reset norm stands inside admissible⟩
  intro indices qubits stand distinct inside draws admissible
  obtain ⟨⟨lower, upper⟩, -⟩ := admissible.next
  have possible := chosen_ne_zero norm lower upper
  have projection := isProjection_collapse qubits possible
  refine ⟨_, _, rfl, possible, measure_holding (resolve_eq_ok_iff.2 ⟨stand, distinct, inside⟩) draws,
    projection, ?_⟩
  intro listed again stand distinct among further admissible
  exact measure_again projection (resolve_eq_ok_iff.2 ⟨stand, distinct, fun qubit member =>
    inside qubit (among qubit member)⟩) among admissible

/-- A state of norm three in which both qubits read the same is measured, again in another order, and
reset. -/
theorem measure_projects_of_long :
    let state : StateVector ℝ := .ofAmplitudes 2 fun index => if index = 3 then ⟨0, 3⟩ else 0
    state.value 3 ≠ 0 ∧
      ∃ after, (holding state).measure [.number 1, .number 0] ⟨[1 / 2]⟩ =
          .ok ([true, true], .holding after, ⟨[]⟩) ∧
        IsProjection [1, 0] 3 state after ∧
        (holding after).measure [.truth false, .number 1] ⟨[]⟩ =
          .ok ([true, true], .holding after, ⟨[]⟩) := by
  intro state
  have value : ∀ index, state.value index ≠ 0 → index = 3 := by
    intro index possible
    by_contra apart
    by_cases inRegister : index < Basis.count 2
    · rw [StateVector.value, amplitude_ofAmplitudes _ inRegister, if_neg apart] at possible
      exact possible rfl
    · exact possible (value_of_le (not_lt.1 inRegister))
  have nonzero : state.value 3 ≠ 0 := by
    rw [StateVector.value, amplitude_ofAmplitudes _ (by decide), if_pos rfl]
    intro zero
    simpa using congrArg Complex.im zero
  obtain ⟨-, measured, -⟩ := measure_projects ⟨3, nonzero⟩
  have half : Draws.AreAdmissible ⟨[1 / 2]⟩ := List.forall_mem_singleton.2 (by norm_num)
  obtain ⟨outcome, after, -, possible, answer, projection, again⟩ :=
    measured [.number 1, .number 0] [1, 0] rfl (by decide) (by decide) ⟨[1 / 2]⟩ half
  obtain rfl := value outcome possible
  exact ⟨nonzero, after, answer, projection, again [.truth false, .number 1] [0, 1] rfl (by decide)
    (by decide) ⟨[]⟩ (List.forall_mem_nil _)⟩

end Memory

end QuantumKata

end
