import QuantumKata.Proofs.Linear

/-!
# Engines with known amplitudes

An engine *holds* amplitudes when nothing is on its stacks, no profile restricts it, and the state
in its memory has these amplitudes with norm one.  An action *performs* gates when it completes on
every such engine and leaves an engine that holds what the gates make of the amplitudes.

What is read off a memory is stated in terms of the amplitudes: the norm, the amplitude of a basis
state, and whether all qubits read zero.
-/

noncomputable section

namespace QuantumKata

open Complex

/-! ## Basis states -/

/-- The amplitudes of a basis state. -/
def basisAmplitudes (position index : ℕ) : ℂ := if index = position then 1 else 0

/-- The amplitudes of the state in which every qubit reads zero. -/
abbrev origin : ℕ → ℂ := basisAmplitudes 0

theorem StateVector.value_basis {numQubits position : ℕ}
    (inside : position < Basis.count numQubits) :
    (StateVector.basis numQubits position).value = basisAmplitudes position := by
  funext index
  rw [basisAmplitudes]
  by_cases inRegister : index < Basis.count numQubits
  · rw [value, basis]
    rw [amplitude_ofAmplitudes _ inRegister]
    by_cases same : index = position
    · rw [if_pos same, if_pos same, Amplitude.toComplex_one]
    · rw [if_neg same, if_neg same, Amplitude.toComplex_zero]
  · have apart : index ≠ position := by
      rintro rfl
      exact inRegister inside
    rw [value_of_le (not_lt.1 inRegister), if_neg apart]

theorem overlap_basisAmplitudes {numQubits position : ℕ} (inside : position < Basis.count numQubits)
    (amplitudes : ℕ → ℂ) :
    overlap numQubits (basisAmplitudes position) amplitudes = amplitudes position := by
  rw [overlap]
  rw [Finset.sum_eq_single_of_mem position (Finset.mem_range.2 inside)]
  · simp [basisAmplitudes]
  · intro index _ apart
    simp [basisAmplitudes, apart]

/-! ## Amplitudes of norm one -/

theorem overlap_self_eq_sum (numQubits : ℕ) (amplitudes : ℕ → ℂ) :
    overlap numQubits amplitudes amplitudes =
      ((∑ index ∈ Finset.range (Basis.count numQubits), normSq (amplitudes index) : ℝ) : ℂ) := by
  rw [ofReal_sum]
  apply Finset.sum_congr rfl
  intro index _
  exact normSq_eq_conj_mul_self.symm

theorem sum_normSq_of_normal {numQubits : ℕ} {amplitudes : ℕ → ℂ}
    (normal : overlap numQubits amplitudes amplitudes = 1) :
    ∑ index ∈ Finset.range (Basis.count numQubits), normSq (amplitudes index) = 1 := by
  rw [overlap_self_eq_sum] at normal
  exact_mod_cast normal

theorem norm_le_one_of_normal {numQubits index : ℕ} {amplitudes : ℕ → ℂ}
    (normal : overlap numQubits amplitudes amplitudes = 1) (inside : index < Basis.count numQubits) :
    ‖amplitudes index‖ ≤ 1 := by
  have part := Finset.single_le_sum (fun index _ => normSq_nonneg (amplitudes index))
    (Finset.mem_range.2 inside)
  rw [sum_normSq_of_normal normal, normSq_eq_norm_sq] at part
  exact (sq_le_one_iff₀ (norm_nonneg _)).1 part

/-! ## Sums over a state -/

namespace StateVector

theorem toList_amplitudes (state : StateVector ℝ) :
    state.amplitudes.toList = (List.range (Basis.count state.numQubits)).map state.amplitude := by
  apply List.ext_getElem
  · simp
  · intro index _ inside
    have inRegister : index < Basis.count state.numQubits := by simpa using inside
    simp [amplitude, inRegister]

theorem sum_range_map (numbers : ℕ → ℝ) (size : ℕ) :
    Scalar.sum ((List.range size).map numbers) = ∑ index ∈ Finset.range size, numbers index := by
  rw [Scalar.sum_eq]
  rfl

theorem squaredNorm_eq (state : StateVector ℝ) :
    state.squaredNorm =
      ∑ index ∈ Finset.range (Basis.count state.numQubits), normSq (state.value index) := by
  rw [squaredNorm]
  rw [toList_amplitudes, List.map_map, ← sum_range_map]
  rfl

/-- The sum of the squared magnitudes is the inner product of the state with itself. -/
theorem overlap_self (state : StateVector ℝ) :
    overlap state.numQubits state.value state.value = (state.squaredNorm : ℝ) := by
  rw [squaredNorm_eq, overlap_self_eq_sum]

theorem probabilities_eq (state : StateVector ℝ) :
    state.probabilities =
      (List.range (Basis.count state.numQubits)).map fun index => normSq (state.value index) := by
  rw [probabilities]
  rw [toList_amplitudes, List.map_map]
  apply List.map_congr_left
  intro index _
  exact Amplitude.probability_eq _

theorem probabilityWhere_eq (state : StateVector ℝ) (condition : ℕ → Bool) :
    state.probabilityWhere condition =
      ∑ index ∈ (Finset.range (Basis.count state.numQubits)).filter (condition ·),
        normSq (state.value index) := by
  have numbered : ∀ (numbers : ℕ → ℝ) (size : ℕ),
      ((List.range size).map numbers).zipIdx =
        (List.range size).map fun index => (numbers index, index) := by
    intro numbers size
    apply List.ext_getElem
    · simp
    · intro index _ _
      simp
  have chosen : (Finset.range (Basis.count state.numQubits)).filter (condition ·) =
      ((List.range (Basis.count state.numQubits)).filter condition).toFinset := by
    ext index
    simp
  rw [probabilityWhere]
  rw [probabilities_eq, numbered, List.filter_map, List.map_map, Scalar.sum_eq, chosen,
    List.sum_toFinset _ (List.nodup_range.filter _)]
  rfl

end StateVector

theorem anyOne_range {numQubits index : ℕ} (inRegister : index < Basis.count numQubits) :
    Basis.anyOne (List.range numQubits) index = decide (index ≠ 0) := by
  by_cases zero : index = 0
  · simp [Basis.anyOne, zero]
  · rcases Nat.exists_testBit_of_ne_zero zero with ⟨qubit, one⟩
    have inside : qubit < numQubits := by
      by_contra outside
      have power : 2 ^ numQubits ≤ 2 ^ qubit := Nat.pow_le_pow_right (by decide) (not_lt.1 outside)
      have small : index < 2 ^ qubit := lt_of_lt_of_le inRegister power
      rw [Nat.testBit_lt_two_pow small] at one
      cases one
    simp only [Basis.anyOne, zero, not_false_eq_true, ne_eq, decide_true, List.any_eq_true,
      List.mem_range]
    exact ⟨qubit, inside, one⟩

/-! ## What is read off a memory -/

namespace Memory

variable {state : StateVector ℝ}

theorem isNormalized_holding (normal : overlap state.numQubits state.value state.value = 1)
    {tolerance : ℝ} (nonneg : 0 ≤ tolerance) :
    (holding state).isNormalized tolerance = .ok true := by
  have one : state.squaredNorm = 1 := by
    rw [StateVector.overlap_self] at normal
    exact_mod_cast normal
  have within : state.isNormalized tolerance = true := by
    rw [StateVector.isNormalized]
    rw [Scalar.atMost_iff, one, Scalar.magnitude_eq, sub_self, abs_zero]
    exact nonneg
  exact congrArg Except.ok within

theorem amplitude_holding {index : ℕ} (inRegister : index < Basis.count state.numQubits) :
    (holding state).amplitude index = .ok (state.amplitude index) := by
  have bounds : 0 ≤ (index : Int) ∧ (index : Int) < state.dimension :=
    ⟨Int.natCast_nonneg index, Int.ofNat_lt.2 inRegister⟩
  rw [amplitude]
  simp only [live, bind, Except.bind]
  rw [if_pos bounds]
  rfl

/-- All qubits of a state of norm one read zero, except for the part of the norm that is not in the
amplitude of zero. -/
theorem isZero_holding (normal : overlap state.numQubits state.value state.value = 1)
    (tolerance : ℝ) :
    (holding state).isZero none tolerance =
      .ok (decide (1 - normSq (state.value 0) ≤ tolerance)) := by
  have leaked : state.probabilityWhere (Basis.anyOne (List.range state.numQubits)) =
      1 - normSq (state.value 0) := by
    have positive : 0 < Basis.count state.numQubits := Nat.two_pow_pos _
    have others : (Finset.range (Basis.count state.numQubits)).filter
        (fun index => Basis.anyOne (List.range state.numQubits) index = true) =
          (Finset.range (Basis.count state.numQubits)).erase 0 := by
      ext index
      simp only [Finset.mem_filter, Finset.mem_range, Finset.mem_erase]
      constructor
      · rintro ⟨inRegister, some⟩
        rw [anyOne_range inRegister] at some
        exact ⟨of_decide_eq_true some, inRegister⟩
      · rintro ⟨nonzero, inRegister⟩
        rw [anyOne_range inRegister]
        exact ⟨inRegister, decide_eq_true nonzero⟩
    rw [StateVector.probabilityWhere_eq, others,
      Finset.sum_erase_eq_sub (Finset.mem_range.2 positive), sum_normSq_of_normal normal]
  rw [isZero]
  simp only [numQubits, Option.getD_none, QubitIndex.resolve_range, live, bind, Except.bind, pure,
    Except.pure]
  rw [StateVector.isZeroOn]
  rw [leaked]
  rfl

end Memory

/-! ## Engines that hold amplitudes -/

namespace Engine

/-- An unrestricted engine with nothing on its stacks and a state of norm one with the given
amplitudes. -/
structure Holds (definitions : Definitions ℝ) (numQubits : ℕ) (amplitudes : ℕ → ℂ)
    (engine : Engine ℝ) : Prop where
  known : engine.definitions = definitions
  unrestricted : engine.profile = .unrestricted
  noControls : engine.controls = []
  noTape : engine.tapes = []
  live : ∃ state : StateVector ℝ, engine.memory = .holding state ∧
    state.numQubits = numQubits ∧ state.value = amplitudes
  normal : overlap numQubits amplitudes amplitudes = 1

theorem holds_basis (definitions : Definitions ℝ) {numQubits position : ℕ}
    (inside : position < Basis.count numQubits) :
    (start (.holding (.basis numQubits position)) .unrestricted [] definitions).Holds definitions
      numQubits (basisAmplitudes position) := by
  refine ⟨rfl, rfl, rfl, rfl, ⟨_, rfl, rfl, StateVector.value_basis inside⟩, ?_⟩
  rw [overlap_basisAmplitudes inside, basisAmplitudes, if_pos rfl]

/-- An action that completes with the given answer after applying the given gates. -/
structure Performs {α : Type} (definitions : Definitions ℝ) (numQubits : ℕ)
    (action : EngineAction ℝ α) (value : α) (entries : List (TapeEntry ℝ)) : Prop where
  exact : ∀ entry ∈ entries, entry.IsExact
  fit : ∀ entry ∈ entries, entry.Fits numQubits []
  completes : ∀ (engine : Engine ℝ) (amplitudes : ℕ → ℂ),
    engine.Holds definitions numQubits amplitudes →
      ∃ after, action engine = (.ok value, after) ∧
        after.Holds definitions numQubits (actAll [] entries amplitudes)

variable {α β : Type} {definitions : Definitions ℝ} {numQubits : ℕ}
  {entries others : List (TapeEntry ℝ)}

theorem performs_pure (value : α) :
    Performs definitions numQubits (pure value : EngineAction ℝ α) value [] := by
  constructor
  case exact => simp
  case fit => simp
  case completes =>
    intro engine amplitudes holds
    exact ⟨engine, rfl, holds⟩

theorem Performs.bind {action : EngineAction ℝ α} {next : α → EngineAction ℝ β} {value : α}
    {last : β} (first : Performs definitions numQubits action value entries)
    (second : Performs definitions numQubits (next value) last others) :
    Performs definitions numQubits (action >>= next) last (entries ++ others) := by
  constructor
  case exact => exact List.forall_mem_append.2 ⟨first.exact, second.exact⟩
  case fit => exact List.forall_mem_append.2 ⟨first.fit, second.fit⟩
  case completes =>
    intro engine amplitudes holds
    rcases first.completes engine amplitudes holds with ⟨between, done, holdsBetween⟩
    rcases second.completes between _ holdsBetween with ⟨after, followed, holdsAfter⟩
    rw [actAll_append]
    exact ⟨after, (Action.bind_of_ok done).trans followed, holdsAfter⟩

/-- An answer after an action. -/
theorem Performs.answering {action : EngineAction ℝ α} {value : α}
    (performs : Performs definitions numQubits action value entries) (answer : β) :
    Performs definitions numQubits (action >>= fun _ => pure answer) answer entries := by
  have both : Performs definitions numQubits (action >>= fun _ => pure answer) answer
      (entries ++ []) := performs.bind (performs_pure answer)
  rwa [List.append_nil] at both

/-- An engine that plays a course holds what the gates of the course make of its amplitudes. -/
theorem Holds.play {course : Course ℝ α} {value : α} (issued : course.Issues entries value)
    (exact : ∀ entry ∈ entries, entry.IsExact) (fit : ∀ entry ∈ entries, entry.Fits numQubits [])
    {engine : Engine ℝ} {amplitudes : ℕ → ℂ} (holds : engine.Holds definitions numQubits amplitudes) :
    ∃ after, course.play engine = (.ok value, after) ∧
      after.Holds definitions numQubits (actAll [] entries amplitudes) := by
  rcases holds.live with ⟨state, live, size, isState⟩
  have fitHere : ∀ entry ∈ entries, entry.Fits state.numQubits engine.controls := by
    rw [size, holds.noControls]
    exact fit
  rcases issued.play engine holds.noTape live (fun entry member => (exact entry member).2) fitHere
    with ⟨elapsed, played⟩
  have through := StateVector.value_through exact fitHere
  rw [holds.noControls, isState] at through
  have normal := overlap_actAll exact fit amplitudes amplitudes
  rw [holds.normal] at normal
  refine ⟨_, played, holds.known, holds.unrestricted, holds.noControls, holds.noTape, ?_, normal⟩
  refine ⟨_, rfl, ?_, ?_⟩
  · rw [StateVector.through_numQubits, size]
  · rw [holds.noControls]
    exact through

section

variable {operation : Operation ℝ} {qubits : List Int} {profile : TargetProfile}

/-- Applying an operation performs the gates that its course issues. -/
theorem performs_apply
    (issued : (operation.course definitions qubits .unrestricted).Issues entries ())
    (exact : ∀ entry ∈ entries, entry.IsExact) (fit : ∀ entry ∈ entries, entry.Fits numQubits []) :
    Performs definitions numQubits (apply operation qubits) () entries := by
  constructor
  case exact => exact exact
  case fit => exact fit
  case completes =>
    intro engine amplitudes holds
    rw [apply_eq, holds.known, holds.unrestricted]
    exact holds.play issued exact fit

/-- Under a profile it performs the gates that its course issues under the profile. -/
theorem performs_restrictedTo_apply
    (issued : (operation.course definitions qubits profile).Issues entries ())
    (exact : ∀ entry ∈ entries, entry.IsExact) (fit : ∀ entry ∈ entries, entry.Fits numQubits []) :
    Performs definitions numQubits (restrictedTo profile (apply operation qubits)) () entries := by
  constructor
  case exact => exact exact
  case fit => exact fit
  case completes =>
    intro engine amplitudes holds
    rw [restrictedTo_apply, holds.known]
    exact holds.play issued exact fit

end

/-- Putting the unrestricted profile in force changes nothing. -/
theorem Performs.restrictedTo {action : EngineAction ℝ α} {value : α}
    (performs : Performs definitions numQubits action value entries) :
    Performs definitions numQubits (restrictedTo .unrestricted action) value entries := by
  constructor
  case exact => exact performs.exact
  case fit => exact performs.fit
  case completes =>
    intro engine amplitudes holds
    have entered : enterProfile .unrestricted engine = engine := by
      rw [enterProfile]
      rw [← holds.unrestricted]
    rcases performs.completes engine amplitudes holds with ⟨after, done, holdsAfter⟩
    refine ⟨leaveProfile engine after, ?_, ?_⟩
    · simp only [Engine.restrictedTo, Action.during, entered, done]
    · exact ⟨holdsAfter.known, holds.unrestricted, holdsAfter.noControls, holdsAfter.noTape,
        holdsAfter.live, holdsAfter.normal⟩

end Engine

end QuantumKata

end
