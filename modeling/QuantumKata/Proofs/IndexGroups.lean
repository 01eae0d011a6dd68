import QuantumKata.Proofs.Indices
import QuantumKata.StateVector

/-!
# The groups of indices that a gate mixes

A gate is applied group by group: the amplitudes of a group are read from the old state, and what
they become is written into the places they came from.  For this to be what the gate does at each
index by itself, no index may be written twice and none may be missed.

Let the targets be distinct and no control be a target.  An index in a group has the number of its
place in the targets and is equal to the base everywhere else, so it reads one at all controls, and
both the base and the place can be told from it.  The other way round, an index that reads one at
all controls lies at the place that its targets spell, in the group of the index that has zeros in
the targets instead.
-/

namespace QuantumKata

namespace Basis

/-! ## Masks and offsets -/

theorem testBit_mask (qubits : List Nat) (qubit : Nat) :
    (mask qubits).testBit qubit = decide (qubit ∈ qubits) := by
  have general : ∀ start : Nat,
      (qubits.foldl (fun ones qubit => ones ||| count qubit) start).testBit qubit =
        (start.testBit qubit || decide (qubit ∈ qubits)) := by
    induction qubits with
    | nil => simp
    | cons first rest ih =>
      intro start
      rw [List.foldl_cons, ih, Nat.testBit_or, testBit_count, Bool.or_assoc]
      simp [eq_comm]
  rw [mask]
  rw [general]
  simp

/-- An index shares no one with a mask exactly if it reads zero at all its qubits. -/
theorem and_mask_eq_zero_iff (index : Nat) (qubits : List Nat) :
    index &&& mask qubits = 0 ↔ ∀ qubit ∈ qubits, index.testBit qubit = false := by
  constructor
  · intro none qubit member
    have here := congrArg (Nat.testBit · qubit) none
    simpa [testBit_mask, member] using here
  · intro zero
    apply Nat.eq_of_testBit_eq
    intro qubit
    by_cases member : qubit ∈ qubits
    · simp [zero qubit member]
    · simp [testBit_mask, member]

/-- An index has all ones of a mask exactly if it reads one at all its qubits. -/
theorem and_mask_eq_mask_iff (index : Nat) (qubits : List Nat) :
    index &&& mask qubits = mask qubits ↔ allOne qubits index = true := by
  rw [allOne, List.all_eq_true]
  constructor
  · intro all qubit member
    have here := congrArg (Nat.testBit · qubit) all
    simpa [testBit_mask, member] using here
  · intro one
    apply Nat.eq_of_testBit_eq
    intro qubit
    by_cases member : qubit ∈ qubits
    · simp [one qubit member]
    · simp [testBit_mask, member]

theorem mem_bases {numQubits index : Nat} {targets controls : List Nat} :
    index ∈ bases numQubits targets controls ↔
      index < count numQubits ∧ (∀ target ∈ targets, index.testBit target = false) ∧
        allOne controls index = true := by
  rw [bases]
  simp only [List.mem_filter, List.mem_range, Bool.and_eq_true, beq_iff_eq, and_mask_eq_zero_iff,
    and_mask_eq_mask_iff]

/-- Numbers without a common one are added by putting their ones together. -/
theorem add_eq_or {left right : Nat} (apart : left &&& right = 0) :
    left + right = left ||| right := by
  induction left using Nat.strongRecOn generalizing right with
  | ind left ih =>
    by_cases isZero : left = 0
    · simp [isZero]
    · have halves : left / 2 + right / 2 = left / 2 ||| right / 2 := by
        apply ih (left / 2) (by omega)
        rw [← Nat.and_div_two, apart]
      have quotient : (left ||| right) / 2 = left / 2 ||| right / 2 := Nat.or_div_two
      have lowest : ¬ (left % 2 = 1 ∧ right % 2 = 1) := by
        have here := congrArg (Nat.testBit · 0) apart
        simp [Nat.testBit_zero] at here
        omega
      have joined : (left ||| right) % 2 = 1 ↔ left % 2 = 1 ∨ right % 2 = 1 := by
        have here := Nat.testBit_or left right 0
        simp only [Nat.testBit_zero, ← Bool.decide_or, decide_eq_decide] at here
        exact here
      omega

theorem testBit_offset_of_notMem {qubits : List Nat} {qubit : Nat} (absent : qubit ∉ qubits)
    (number : Nat) : (offset qubits number).testBit qubit = false := by
  induction qubits with
  | nil => simp [offset]
  | cons first rest ih =>
    rcases not_or.1 (mt List.mem_cons.2 absent) with ⟨apart, absent⟩
    rw [offset, Nat.testBit_or, ih absent]
    split
    · simp [testBit_count, Ne.symm apart]
    · simp

/-- From a base to the index that holds a number in the qubits it is as far as the offset says. -/
theorem add_offset {qubits : List Nat} (distinct : qubits.Nodup) (number : Nat) {base : Nat}
    (zero : ∀ qubit ∈ qubits, base.testBit qubit = false) :
    base + offset qubits number = scatter qubits number base := by
  induction qubits generalizing base with
  | nil => rfl
  | cons first rest ih =>
    rcases List.nodup_cons.1 distinct with ⟨apart, distinct⟩
    rcases List.forall_mem_cons.1 zero with ⟨firstZero, restZero⟩
    have stillZero : ∀ qubit ∈ rest,
        (setBit base first (number.testBit rest.length)).testBit qubit = false := by
      intro qubit member
      have other : qubit ≠ first := fun same => apart (same ▸ member)
      rw [testBit_setBit, if_neg other]
      exact restZero qubit member
    have oneBit : base + (if number.testBit rest.length then count first else 0) =
        setBit base first (number.testBit rest.length) := by
      cases bit : number.testBit rest.length with
      | false => simp [setBit, firstZero]
      | true =>
        have clear : base &&& count first = 0 := by
          apply Nat.eq_of_testBit_eq
          intro qubit
          by_cases here : first = qubit
          · simp [← here, firstZero]
          · simp [testBit_count, here]
        rw [if_pos rfl, add_eq_or clear]
        apply Nat.eq_of_testBit_eq
        intro qubit
        rw [testBit_setBit, Nat.testBit_or, testBit_count]
        by_cases here : qubit = first
        · simp [here]
        · simp [here, Ne.symm here]
    have fresh : (if number.testBit rest.length then count first else 0) &&& offset rest number =
        0 := by
      apply Nat.eq_of_testBit_eq
      intro qubit
      by_cases here : first = qubit
      · simp [← here, testBit_offset_of_notMem apart]
      · split <;> simp [testBit_count, here]
    rw [offset, scatter, ← add_eq_or fresh, ← Nat.add_assoc, oneBit]
    exact ih distinct stillZero

/-- Writing zero into qubits that read zero changes nothing. -/
theorem scatter_zero_of_zero {qubits : List Nat} (distinct : qubits.Nodup) {base : Nat}
    (zero : ∀ qubit ∈ qubits, base.testBit qubit = false) : scatter qubits 0 base = base := by
  have none : offset qubits 0 = 0 := by
    induction qubits with
    | nil => rfl
    | cons first rest ih =>
      rw [offset, ih (List.nodup_cons.1 distinct).2 (List.forall_mem_cons.1 zero).2]
      simp
  rw [← add_offset distinct 0 zero, none, Nat.add_zero]

/-! ## What the groups cover -/

section Groups

variable {numQubits : Nat} {targets controls : List Nat}

/-- The group of a base consists of the indices that arise from writing numbers into the targets. -/
theorem groups_eq (distinct : targets.Nodup) :
    groups numQubits targets controls =
      (bases numQubits targets controls).map fun base =>
        (List.range (count targets.length)).map (scatter targets · base) := by
  rw [groups]
  apply List.map_congr_left
  intro base isBase
  rw [List.map_map]
  apply List.map_congr_left
  intro number _
  exact add_offset distinct number (mem_bases.1 isBase).2.1

/-- The base of the group of an index that reads one at all controls. -/
theorem scatter_zero_mem_bases (distinct : targets.Nodup)
    (areTargets : ∀ target ∈ targets, target < numQubits)
    (apart : ∀ control ∈ controls, control ∉ targets) {index : Nat}
    (inRegister : index < count numQubits) (one : allOne controls index = true) :
    scatter targets 0 index ∈ bases numQubits targets controls := by
  refine mem_bases.2 ⟨scatter_lt inRegister areTargets 0, ?_, ?_⟩
  · intro target member
    rcases List.mem_iff_getElem.1 member with ⟨place, inside, rfl⟩
    rw [testBit_scatter_getElem distinct 0 index inside, Nat.zero_testBit]
  · rw [← one]
    exact allOne_congr fun control member =>
      testBit_scatter_of_notMem (apart control member) 0 index

/-- No index is missed: the groups cover exactly the indices that read one at all controls. -/
theorem mem_flatten_groups (distinct : targets.Nodup)
    (areTargets : ∀ target ∈ targets, target < numQubits)
    (apart : ∀ control ∈ controls, control ∉ targets) (index : Nat) :
    index ∈ (groups numQubits targets controls).flatten ↔
      index < count numQubits ∧ allOne controls index = true := by
  rw [groups_eq distinct]
  simp only [List.mem_flatten, List.mem_map]
  constructor
  · rintro ⟨-, ⟨base, isBase, rfl⟩, inGroup⟩
    rcases List.mem_map.1 inGroup with ⟨number, -, rfl⟩
    rcases mem_bases.1 isBase with ⟨inRegister, -, one⟩
    refine ⟨scatter_lt inRegister areTargets number, ?_⟩
    rw [← one]
    exact allOne_congr fun control member =>
      testBit_scatter_of_notMem (apart control member) number base
  · rintro ⟨inRegister, one⟩
    refine ⟨_, ⟨_, scatter_zero_mem_bases distinct areTargets apart inRegister one, rfl⟩, ?_⟩
    refine List.mem_map.2 ⟨gather targets index, List.mem_range.2 (gather_lt targets index), ?_⟩
    rw [scatter_scatter distinct, scatter_gather]

/-- No index is written twice: the groups are disjoint and have no index twice. -/
theorem nodup_flatten_groups (distinct : targets.Nodup) :
    (groups numQubits targets controls).flatten.Nodup := by
  rw [groups_eq distinct, List.nodup_flatten]
  constructor
  · intro group isGroup
    rcases List.mem_map.1 isGroup with ⟨base, -, rfl⟩
    refine List.Nodup.map_on ?_ List.nodup_range
    intro first firstInside second secondInside same
    have read := congrArg (gather targets) same
    have firstSmall : first < 2 ^ targets.length := List.mem_range.1 firstInside
    have secondSmall : second < 2 ^ targets.length := List.mem_range.1 secondInside
    rwa [gather_scatter distinct, gather_scatter distinct, Nat.mod_eq_of_lt firstSmall,
      Nat.mod_eq_of_lt secondSmall] at read
  · have apartBases : (bases numQubits targets controls).Pairwise (· ≠ ·) :=
      List.nodup_range.filter _
    refine List.pairwise_map.2 (apartBases.imp_of_mem ?_)
    intro first second isFirst isSecond apart index inFirst inSecond
    rcases List.mem_map.1 inFirst with ⟨number, -, rfl⟩
    rcases List.mem_map.1 inSecond with ⟨other, -, same⟩
    -- zeros in the targets lead back to the base
    have back := congrArg (scatter targets 0) same
    rw [scatter_scatter distinct, scatter_scatter distinct,
      scatter_zero_of_zero distinct (mem_bases.1 isFirst).2.1,
      scatter_zero_of_zero distinct (mem_bases.1 isSecond).2.1] at back
    exact apart back.symm

end Groups

end Basis

/-! ## Amplitudes after a gate -/

namespace StateVector

variable {R : Type} [Scalar R]

/-- A state is known by its amplitudes. -/
theorem ext_amplitude {left right : StateVector R} (size : left.numQubits = right.numQubits)
    (same : ∀ index < Basis.count left.numQubits, left.amplitude index = right.amplitude index) :
    left = right := by
  rcases left with ⟨numQubits, leftAmplitudes⟩
  rcases right with ⟨otherQubits, rightAmplitudes⟩
  simp only at size
  subst size
  congr 1
  apply Vector.ext
  intro index inRegister
  have here := same index inRegister
  simpa only [amplitude, inRegister, dif_pos] using here

theorem amplitude_ofAmplitudes {numQubits : Nat} (next : Nat → Amplitude R) {index : Nat}
    (inRegister : index < Basis.count numQubits) :
    (ofAmplitudes numQubits next).amplitude index = next index := by
  simp only [amplitude, ofAmplitudes, inRegister, dif_pos, Vector.getElem_ofFn]

theorem amplitude_mapWithIndex {state : StateVector R} (next : Nat → Amplitude R → Amplitude R)
    {index : Nat} (inRegister : index < Basis.count state.numQubits) :
    (state.mapWithIndex next).amplitude index = next index (state.amplitude index) := by
  simp only [amplitude, mapWithIndex, inRegister, dif_pos, Vector.getElem_ofFn]
  rfl

theorem amplitude_applyMatrix {state : StateVector R} (matrix : SquareMatrix R)
    (targets controls : List Nat) {index : Nat} (inRegister : index < Basis.count state.numQubits) :
    (state.applyMatrix matrix targets controls).amplitude index =
      if Basis.allOne controls index then transformed matrix targets state index
      else state.amplitude index :=
  amplitude_mapWithIndex _ inRegister

theorem amplitude_applyPhase {state : StateVector R} (angle : R) (controls : List Nat)
    {index : Nat} (inRegister : index < Basis.count state.numQubits) :
    (state.applyPhase angle controls).amplitude index =
      if Basis.allOne controls index then state.amplitude index * Amplitude.unit angle
      else state.amplitude index :=
  amplitude_mapWithIndex _ inRegister

/-! ## Amplitudes that are written group by group -/

omit [Scalar R] in
theorem write_cons (state : StateVector R) (entry : Nat × Amplitude R)
    (entries : List (Nat × Amplitude R)) :
    state.write (entry :: entries) = (state.write [entry]).write entries := rfl

theorem amplitude_write_single (state : StateVector R) (written : Nat) (new : Amplitude R)
    {index : Nat} (inRegister : index < Basis.count state.numQubits) :
    (state.write [(written, new)]).amplitude index =
      if written = index then new else state.amplitude index := by
  change (if inside : index < Basis.count state.numQubits then
    (state.amplitudes.setIfInBounds written new)[index] else 0) = _
  rw [dif_pos inRegister, Vector.getElem_setIfInBounds, amplitude, dif_pos inRegister]

theorem amplitude_write_of_notMem {state : StateVector R} {entries : List (Nat × Amplitude R)}
    {index : Nat} (absent : index ∉ entries.map Prod.fst)
    (inRegister : index < Basis.count state.numQubits) :
    (state.write entries).amplitude index = state.amplitude index := by
  induction entries generalizing state with
  | nil => rfl
  | cons entry rest ih =>
    rcases not_or.1 (mt List.mem_cons.2 absent) with ⟨apart, absent⟩
    have later : ((state.write [entry]).write rest).amplitude index =
        (state.write [entry]).amplitude index := ih absent inRegister
    rw [write_cons, later, amplitude_write_single _ _ _ inRegister, if_neg (Ne.symm apart)]

/-- What is written for an index is found there, if the index is written once. -/
theorem amplitude_write_of_mem {state : StateVector R} {entries : List (Nat × Amplitude R)}
    (once : (entries.map Prod.fst).Nodup) {index : Nat} {new : Amplitude R}
    (member : (index, new) ∈ entries) (inRegister : index < Basis.count state.numQubits) :
    (state.write entries).amplitude index = new := by
  induction entries generalizing state with
  | nil => cases member
  | cons entry rest ih =>
    rcases List.nodup_cons.1 once with ⟨apart, once⟩
    rw [write_cons]
    rcases List.mem_cons.1 member with rfl | later
    · have kept : ((state.write [(index, new)]).write rest).amplitude index =
          (state.write [(index, new)]).amplitude index :=
        amplitude_write_of_notMem apart inRegister
      rw [kept, amplitude_write_single _ _ _ inRegister, if_pos rfl]
    · exact ih once later inRegister

section Groups

variable {state : StateVector R} {matrix : SquareMatrix R} {targets controls : List Nat}

theorem map_fst_mixed (matrix : SquareMatrix R) (state : StateVector R) (group : List Nat) :
    (mixed matrix state group).map Prod.fst = group := by
  apply List.ext_getElem
  · simp [mixed]
  · intro place _ _
    simp [mixed]

theorem map_fst_flatMap_mixed (matrix : SquareMatrix R) (state : StateVector R)
    (groups : List (List Nat)) :
    (groups.flatMap (mixed matrix state)).map Prod.fst = groups.flatten := by
  rw [List.map_flatMap]
  simp only [map_fst_mixed]
  exact List.flatMap_id'

/-- At the place of a number in the group of a base there is what the gate does at that index. -/
theorem mem_mixed (distinct : targets.Nodup) (size_eq : matrix.size = Basis.count targets.length)
    {base number : Nat} (inside : number < Basis.count targets.length) :
    (Basis.scatter targets number base,
        transformed matrix targets state (Basis.scatter targets number base)) ∈
      mixed matrix state
        ((List.range (Basis.count targets.length)).map (Basis.scatter targets · base)) := by
  have row : Basis.gather targets (Basis.scatter targets number base) = number := by
    rw [Basis.gather_scatter distinct]
    exact Nat.mod_eq_of_lt inside
  have products :
      (((List.range (Basis.count targets.length)).map (Basis.scatter targets · base)).map
        state.amplitude).mapIdx (fun column amplitude => matrix.entry number column * amplitude) =
      (List.range matrix.size).map fun column =>
        matrix.entry number column *
          state.amplitude (Basis.scatter targets column (Basis.scatter targets number base)) := by
    apply List.ext_getElem
    · simp [size_eq]
    · intro column _ _
      simp [Basis.scatter_scatter distinct]
  rw [transformed, row, ← products, mixed]
  refine List.mem_iff_getElem.2 ⟨number, by simpa using inside, ?_⟩
  simp

/-- Applied group by group, a gate does at each index what it does at that index by itself. -/
theorem applyToGroups_eq (distinct : targets.Nodup)
    (areTargets : ∀ target ∈ targets, target < state.numQubits)
    (apart : ∀ control ∈ controls, control ∉ targets)
    (size_eq : matrix.size = Basis.count targets.length) :
    state.applyToGroups matrix targets controls = state.applyMatrix matrix targets controls := by
  refine ext_amplitude (rfl :) fun index within => ?_
  have inRegister : index < Basis.count state.numQubits := within
  rw [amplitude_applyMatrix matrix targets controls inRegister, applyToGroups]
  have indices := map_fst_flatMap_mixed matrix state
    (Basis.groups state.numQubits targets controls)
  have covered := Basis.mem_flatten_groups distinct areTargets apart index
  split
  · rename_i one
    apply amplitude_write_of_mem
    · rw [indices]
      exact Basis.nodup_flatten_groups distinct
    · have isBase := Basis.scatter_zero_mem_bases distinct areTargets apart inRegister one
      have back : Basis.scatter targets (Basis.gather targets index)
          (Basis.scatter targets 0 index) = index := by
        rw [Basis.scatter_scatter distinct, Basis.scatter_gather]
      have placed : (_, _) ∈ mixed matrix state ((List.range _).map
          (Basis.scatter targets · (Basis.scatter targets 0 index))) :=
        mem_mixed distinct size_eq (Basis.gather_lt targets index)
      rw [back] at placed
      rw [Basis.groups_eq distinct]
      exact List.mem_flatMap.2 ⟨_, List.mem_map.2 ⟨_, isBase, rfl⟩, placed⟩
    · exact inRegister
  · rename_i off
    apply amplitude_write_of_notMem _ inRegister
    rw [indices, covered]
    exact fun ⟨_, one⟩ => off one

end Groups

end StateVector

end QuantumKata
