import QuantumKata.Proofs.IndexGroups
import QuantumKata.Proofs.Relabel
import QuantumKata.Proofs.Resolving

/-!
# Courses that only issue gates

A course that reaches its end without a measurement or a reset is known by the gates that it issues.
On an engine without a tape it ends well exactly if each of these gates fits into the register
together with the controls in force, and then the state has gone through the gates one after the
other.

So neither which gates are issued nor whether the course ends well depends on the amplitudes: a body
that completes from one state completes from all states of the register.
-/

namespace QuantumKata

/-! ## The gates of a course -/

namespace Course

/-- A course ends with a value after issuing the given gates and nothing else. -/
inductive Issues {R α : Type} : Course R α → List (TapeEntry R) → α → Prop where
  | done (value : α) : Issues (.done (.ok value)) [] value
  | issue {entry : TapeEntry R} {rest : Course R α} {entries : List (TapeEntry R)} {value : α}
      (later : Issues rest entries value) : Issues (.issue entry rest) (entry :: entries) value
  | pause {seconds : R} {rest : Course R α} {entries : List (TapeEntry R)} {value : α}
      (later : Issues rest entries value) : Issues (.pause seconds rest) entries value

variable {R α β : Type} {entries : List (TapeEntry R)} {value : α}

theorem Issues.unique {course : Course R α} {others : List (TapeEntry R)} {other : α}
    (first : course.Issues entries value) (second : course.Issues others other) :
    entries = others ∧ value = other := by
  induction first generalizing others with
  | done value =>
    cases second
    exact ⟨rfl, rfl⟩
  | issue later ih =>
    cases second with
    | issue following =>
      rcases ih following with ⟨rfl, rfl⟩
      exact ⟨rfl, rfl⟩
  | pause later ih =>
    cases second with
    | pause following => exact ih following

theorem Issues.bind {course : Course R α} {next : α → Course R β} {others : List (TapeEntry R)}
    {last : β} (first : course.Issues entries value) (second : (next value).Issues others last) :
    (course >>= next).Issues (entries ++ others) last := by
  induction first with
  | done value => exact second
  | issue later ih => exact .issue (ih second)
  | pause later ih => exact .pause (ih second)

/-- The gates of a course that goes on are those of its first part and those that follow. -/
theorem issues_bind {course : Course R α} {next : α → Course R β} {last : β}
    (whole : (course >>= next).Issues entries last) :
    ∃ first value second,
      course.Issues first value ∧ (next value).Issues second last ∧ entries = first ++ second := by
  induction course generalizing entries with
  | done outcome =>
    cases outcome with
    | ok value => exact ⟨[], value, entries, .done value, whole, rfl⟩
    | error fault => cases whole
  | issue entry rest ih =>
    cases whole with
    | issue later =>
      rcases ih later with ⟨first, value, second, issued, following, rfl⟩
      exact ⟨entry :: first, value, second, .issue issued, following, rfl⟩
  | pause seconds rest ih =>
    cases whole with
    | pause later =>
      rcases ih later with ⟨first, value, second, issued, following, rfl⟩
      exact ⟨first, value, second, .pause issued, following, rfl⟩
  | measure qubit rest ih => cases whole
  | reset qubit rest ih => cases whole
  | refuse what => cases whole

theorem issues_done {outcome : Except Fault α}
    (issued : (done outcome : Course R α).Issues entries value) :
    outcome = .ok value ∧ entries = [] := by
  cases issued
  exact ⟨rfl, rfl⟩

/-- The gates of a course that goes on from an outcome which is known from the start. -/
theorem issues_done_bind {outcome : Except Fault α} {next : α → Course R β} {last : β}
    (whole : ((done outcome : Course R α) >>= next).Issues entries last) :
    ∃ value, outcome = .ok value ∧ (next value).Issues entries last := by
  cases outcome with
  | ok value => exact ⟨value, rfl, whole⟩
  | error fault => cases whole

theorem Issues.under {course : Course R α} (issued : course.Issues entries value)
    (added : List Int) :
    (course.under added).Issues (entries.map (TapeEntry.under added)) value := by
  induction issued with
  | done value => exact .done value
  | issue later ih => exact .issue ih
  | pause later ih => exact .pause ih

theorem issues_under {course : Course R α} {added : List Int}
    (issued : (course.under added).Issues entries value) :
    ∃ inner, course.Issues inner value ∧ entries = inner.map (TapeEntry.under added) := by
  induction course generalizing entries with
  | done outcome =>
    rcases issues_done issued with ⟨rfl, rfl⟩
    exact ⟨[], .done value, rfl⟩
  | issue entry rest ih =>
    cases issued with
    | issue later =>
      rcases ih later with ⟨inner, following, rfl⟩
      exact ⟨entry :: inner, .issue following, rfl⟩
  | pause seconds rest ih =>
    cases issued with
    | pause later =>
      rcases ih later with ⟨inner, following, rfl⟩
      exact ⟨inner, .pause following, rfl⟩
  | measure qubit rest ih =>
    rw [Course.under] at issued
    split at issued <;> cases issued
  | reset qubit rest ih =>
    rw [Course.under] at issued
    split at issued <;> cases issued
  | refuse what =>
    rw [Course.under] at issued
    split at issued <;> cases issued

theorem Issues.recordedAfter {course : Course R α} (issued : course.Issues entries value)
    (collected : List (TapeEntry R)) :
    (course.recordedAfter collected).Issues [] (collected ++ entries) := by
  induction issued generalizing collected with
  | done value =>
    rw [List.append_nil]
    exact Issues.done collected
  | @issue entry rest entries value later ih =>
    have following := ih (collected ++ [entry])
    rwa [List.append_assoc] at following
  | pause later ih => exact .pause (ih collected)

/-- Recording a course issues nothing and answers with its gates. -/
theorem Issues.recorded {course : Course R α} (issued : course.Issues entries value) :
    course.recorded.Issues [] entries :=
  issued.recordedAfter []

theorem issues_recordedAfter {course : Course R α} {collected tape : List (TapeEntry R)}
    (issued : (course.recordedAfter collected).Issues entries tape) :
    entries = [] ∧ ∃ inner value, course.Issues inner value ∧ tape = collected ++ inner := by
  induction course generalizing collected entries with
  | done outcome =>
    cases outcome with
    | ok value =>
      rcases issues_done issued with ⟨same, rfl⟩
      cases same
      exact ⟨rfl, [], value, .done value, by simp⟩
    | error fault => cases issued
  | issue entry rest ih =>
    rcases ih issued with ⟨rfl, inner, value, following, rfl⟩
    exact ⟨rfl, entry :: inner, value, .issue following, by simp⟩
  | pause seconds rest ih =>
    cases issued with
    | pause later =>
      rcases ih later with ⟨rfl, inner, value, following, rfl⟩
      exact ⟨rfl, inner, value, .pause following, rfl⟩
  | measure qubit rest ih => cases issued
  | reset qubit rest ih => cases issued
  | refuse what => cases issued

theorem issues_recorded {course : Course R α} {tape : List (TapeEntry R)}
    (issued : course.recorded.Issues entries tape) :
    entries = [] ∧ ∃ value, course.Issues tape value := by
  rcases issues_recordedAfter issued with ⟨rfl, inner, value, following, rfl⟩
  exact ⟨rfl, value, following⟩

theorem Issues.relabel {course : Course R α} (issued : course.Issues entries value)
    (label : Int → Int) (result : α → β) :
    (course.relabel label result).Issues (entries.map (TapeEntry.relabel label))
      (result value) := by
  induction issued with
  | done value => exact .done (result value)
  | issue later ih => exact .issue ih
  | pause later ih => exact .pause ih

theorem issues_relabel {course : Course R α} {label : Int → Int} {result : α → β} {last : β}
    (issued : (course.relabel label result).Issues entries last) :
    ∃ inner value, course.Issues inner value ∧
      entries = inner.map (TapeEntry.relabel label) ∧ last = result value := by
  induction course generalizing entries with
  | done outcome =>
    cases outcome with
    | ok value =>
      rcases issues_done issued with ⟨same, rfl⟩
      cases same
      exact ⟨[], value, .done value, rfl, rfl⟩
    | error fault => cases issued
  | issue entry rest ih =>
    cases issued with
    | issue later =>
      rcases ih later with ⟨inner, value, following, rfl, rfl⟩
      exact ⟨entry :: inner, value, .issue following, rfl, rfl⟩
  | pause seconds rest ih =>
    cases issued with
    | pause later =>
      rcases ih later with ⟨inner, value, following, rfl, rfl⟩
      exact ⟨inner, value, .pause following, rfl, rfl⟩
  | measure qubit rest ih => cases issued
  | reset qubit rest ih => cases issued
  | refuse what => cases issued

theorem Meets.issued {course : Course R α} {wanted : TapeEntry R → Prop} {measuring : Prop}
    {result : α → Prop} (met : course.Meets wanted measuring result)
    (issued : course.Issues entries value) : (∀ entry ∈ entries, wanted entry) ∧ result value := by
  induction issued with
  | done value => exact ⟨by simp, met⟩
  | issue later ih =>
    rcases ih met.2 with ⟨others, last⟩
    exact ⟨List.forall_mem_cons.2 ⟨met.1, others⟩, last⟩
  | pause later ih => exact ih met

/-- The only gate of the course of a gate. -/
theorem issues_ofGate [Scalar R] {profile : TargetProfile} {gate : Gate R} {targets : List Int}
    {value : Unit} (issued : (ofGate profile gate targets).Issues entries value) :
    entries = [⟨gate, targets, []⟩] ∧ targets.length = gate.numQubits := by
  rw [ofGate] at issued
  by_cases fits : targets.length = gate.numQubits
  · rw [if_neg (not_not_intro fits)] at issued
    split at issued
    · cases issued with
      | issue later =>
        cases later
        exact ⟨rfl, fits⟩
    · cases issued
  · rw [if_pos fits] at issued
    cases issued

/-- Without a restriction every gate on the right number of targets is issued. -/
theorem ofGate_issues [Scalar R] {gate : Gate R} {targets : List Int}
    (fits : targets.length = gate.numQubits) :
    (ofGate .unrestricted gate targets).Issues [⟨gate, targets, []⟩] () := by
  rw [ofGate]
  rw [if_neg (not_not_intro fits)]
  exact .issue (.done ())

end Course

/-! ## Gates on a state -/

/-- Distinct qubits of a register. -/
def QubitsFit (numQubits : Nat) (qubits : List Int) : Prop :=
  qubits.Nodup ∧ ∀ qubit ∈ qubits, 0 ≤ qubit ∧ qubit < numQubits

instance (numQubits : Nat) (qubits : List Int) : Decidable (QubitsFit numQubits qubits) :=
  inferInstanceAs (Decidable (_ ∧ _))

namespace QubitsFit

theorem toNat_nodup {numQubits : Nat} {qubits : List Int}
    (fits : QubitsFit numQubits qubits) : (qubits.map Int.toNat).Nodup := by
  refine List.Nodup.map_on ?_ fits.1
  intro first firstMember second secondMember same
  have firstBound := fits.2 first firstMember
  have secondBound := fits.2 second secondMember
  omega

theorem toNat_lt {numQubits : Nat} {qubits : List Int}
    (fits : QubitsFit numQubits qubits) : ∀ qubit ∈ qubits.map Int.toNat, qubit < numQubits := by
  intro qubit member
  rcases List.mem_map.1 member with ⟨original, among, rfl⟩
  have bound := fits.2 original among
  omega

theorem left {numQubits : Nat} {first second : List Int}
    (fits : QubitsFit numQubits (first ++ second)) : QubitsFit numQubits first :=
  ⟨(List.nodup_append.1 fits.1).1, fun qubit member =>
    fits.2 qubit (List.mem_append_left second member)⟩

theorem right {numQubits : Nat} {first second : List Int}
    (fits : QubitsFit numQubits (first ++ second)) : QubitsFit numQubits second :=
  ⟨(List.nodup_append.1 fits.1).2.1, fun qubit member =>
    fits.2 qubit (List.mem_append_right first member)⟩

/-- The first and the last of distinct qubits have no number in common. -/
theorem apart {numQubits : Nat} {first second : List Int}
    (fits : QubitsFit numQubits (first ++ second)) :
    ∀ qubit ∈ first.map Int.toNat, qubit ∉ second.map Int.toNat := by
  have distinct := fits.toNat_nodup
  rw [List.map_append] at distinct
  intro qubit firstMember secondMember
  exact (List.nodup_append.1 distinct).2.2 qubit firstMember qubit secondMember rfl

/-- On distinct qubits a gate can be applied group by group or index by index. -/
theorem applyToGroups_eq {R : Type} [Scalar R] {state : StateVector R} {matrix : SquareMatrix R}
    {targets controls : List Int} (fits : QubitsFit state.numQubits (targets ++ controls))
    (size_eq : matrix.size = Basis.count targets.length) :
    state.applyToGroups matrix (targets.map Int.toNat) (controls.map Int.toNat) =
      state.applyMatrix matrix (targets.map Int.toNat) (controls.map Int.toNat) := by
  apply StateVector.applyToGroups_eq fits.left.toNat_nodup fits.left.toNat_lt
  · exact fun control isControl isTarget => fits.apart control isTarget isControl
  · rw [size_eq, List.length_map]

end QubitsFit

namespace QubitIndex

theorem standFor_indices {qubits : List Int} {resolved : List Nat} :
    StandFor (Engine.indices qubits) resolved ↔
      qubits = resolved.map fun (qubit : Nat) => (qubit : Int) := by
  have named : (Engine.indices qubits).map value? = qubits.map some := by
    rw [Engine.indices, List.map_map]
    rfl
  have listed : (resolved.map fun (qubit : Nat) => some (qubit : Int)) =
      (resolved.map fun (qubit : Nat) => (qubit : Int)).map some := (List.map_map ..).symm
  rw [StandFor, named, listed, (List.map_injective_iff.2 (Option.some_injective Int)).eq_iff]

/-- Qubits are accepted exactly if they are distinct qubits of the register. -/
theorem resolve_numbers (word : String) (numQubits : Nat) (qubits : List Int)
    (resolved : List Nat) :
    resolve word numQubits (Engine.indices qubits) = .ok resolved ↔
      QubitsFit numQubits qubits ∧ resolved = qubits.map Int.toNat := by
  rw [resolve_eq_ok_iff, standFor_indices]
  constructor
  · rintro ⟨rfl, distinct, within⟩
    refine ⟨⟨distinct.map Nat.cast_injective, ?_⟩, ?_⟩
    · intro qubit member
      obtain ⟨position, among, rfl⟩ := List.mem_map.1 member
      exact ⟨Int.natCast_nonneg position, Int.ofNat_lt.2 (within position among)⟩
    · simp [Function.comp_def]
  · rintro ⟨fits, rfl⟩
    refine ⟨?_, fits.toNat_nodup, fits.toNat_lt⟩
    rw [List.map_map]
    refine (List.map_id qubits).symm.trans (List.map_congr_left fun qubit member => ?_)
    exact (Int.toNat_of_nonneg (fits.2 qubit member).1).symm

/-- All qubits of a register are accepted. -/
theorem resolve_range (word : String) (numQubits : Nat) :
    resolve word numQubits ((List.range numQubits).map fun (qubit : Nat) => .number qubit) =
      .ok (List.range numQubits) := by
  have own : ((List.range numQubits).map fun (qubit : Nat) => QubitIndex.number qubit) =
      Engine.indices ((List.range numQubits).map fun (qubit : Nat) => (qubit : Int)) := by
    rw [Engine.indices, List.map_map]
    rfl
  rw [own]
  refine (resolve_numbers _ _ _ _).2 ⟨⟨?_, ?_⟩, ?_⟩
  · refine List.pairwise_map.2 (List.nodup_range.imp ?_)
    intro first second apart same
    exact apart (Int.ofNat.inj same)
  · intro qubit member
    rcases List.mem_map.1 member with ⟨position, among, rfl⟩
    have bound := List.mem_range.1 among
    omega
  · simp [Function.comp_def]

end QubitIndex

theorem Gate.matrix_size {R : Type} [Scalar R] (gate : Gate R) :
    gate.matrix.size = Basis.count gate.numQubits := by
  cases gate with
  | fixed gate => cases gate <;> rfl
  | rotation axis angle => cases axis <;> rfl
  | globalPhase angle => rfl
  | custom gate => exact gate.size_eq

namespace TapeEntry

variable {R : Type}

/-- A recorded gate fits into a register under the controls in force. -/
def Fits (numQubits : Nat) (ambient : List Int) (entry : TapeEntry R) : Prop :=
  QubitsFit numQubits (entry.targets ++ (ambient ++ entry.controls))

/-- A recorded gate with as many targets as it has. -/
def IsComplete (entry : TapeEntry R) : Prop := entry.targets.length = entry.gate.numQubits

variable [Scalar R]

/-- A recorded gate on a memory under the controls in force. -/
def onMemory (ambient : List Int) (entry : TapeEntry R) (memory : Memory R) :
    Except Fault (Memory R) :=
  match entry.gate with
  | .globalPhase angle => memory.applyPhase angle (Engine.indices (ambient ++ entry.controls))
  | other =>
    memory.applyMatrix other.matrix (Engine.indices entry.targets)
      (Engine.indices (ambient ++ entry.controls))

/-- A recorded gate on a state under the controls in force. -/
def onState (ambient : List Int) (entry : TapeEntry R) (state : StateVector R) : StateVector R :=
  match entry.gate with
  | .globalPhase angle => state.applyPhase angle ((ambient ++ entry.controls).map Int.toNat)
  | other =>
    if entry.targets.isEmpty then
      state.applyPhase (other.matrix.entry 0 0).angle ((ambient ++ entry.controls).map Int.toNat)
    else
      state.applyMatrix other.matrix (entry.targets.map Int.toNat)
        ((ambient ++ entry.controls).map Int.toNat)

@[simp]
theorem onState_numQubits (ambient : List Int) (entry : TapeEntry R) (state : StateVector R) :
    (entry.onState ambient state).numQubits = state.numQubits := by
  rw [onState]
  split
  · rfl
  · split <;> rfl

end TapeEntry

namespace Memory

variable {R : Type} [Scalar R]

variable {memory after : Memory R}

omit [Scalar R] in
theorem live_eq_ok_iff {state : StateVector R} :
    memory.live = .ok state ↔ memory = .holding state := by
  cases memory with
  | holding held => rw [live, Except.ok.injEq, holding.injEq]
  | released size => exact iff_of_false nofun nofun

/-- A phase is applied exactly to a live state under controls that are qubits of it. -/
theorem applyPhase_eq_ok_iff {angle : R} {controls : List QubitIndex} :
    memory.applyPhase angle controls = .ok after ↔
      ∃ state qubits, memory = .holding state ∧
        QubitIndex.resolve QubitIndex.controlWord state.numQubits controls = .ok qubits ∧
        after = .holding (state.applyPhase angle qubits) := by
  constructor
  · intro applied
    rcases Fault.bind_eq_ok_iff.1 applied with ⟨state, isLive, applied⟩
    rcases Fault.bind_eq_ok_iff.1 applied with ⟨qubits, resolved, applied⟩
    exact ⟨state, qubits, live_eq_ok_iff.1 isLive, resolved, (Except.ok.inj applied).symm⟩
  · rintro ⟨state, qubits, rfl, resolved, rfl⟩
    exact Fault.bind_eq_ok_iff.2 ⟨state, rfl, Fault.bind_eq_ok_iff.2 ⟨qubits, resolved, rfl⟩⟩

/-- A matrix of the size for its targets is applied to them under the controls, all of them distinct
qubits of a live state. -/
theorem applyMatrix_eq_ok_iff {matrix : SquareMatrix R} {targets controls : List QubitIndex} :
    memory.applyMatrix matrix targets controls = .ok after ↔
      matrix.size = Basis.count targets.length ∧ ∃ state qubits, memory = .holding state ∧
        QubitIndex.resolve QubitIndex.qubitWord state.numQubits (targets ++ controls) =
          .ok qubits ∧
        after = .holding (if targets.isEmpty then state.applyPhase (matrix.entry 0 0).angle qubits
          else state.applyToGroups matrix (qubits.take targets.length)
            (qubits.drop targets.length)) := by
  constructor
  · intro applied
    rcases Fault.bind_eq_ok_iff.1 applied with ⟨state, isLive, applied⟩
    rcases Fault.bind_eq_ok_iff.1 applied with ⟨qubits, resolved, applied⟩
    split at applied
    case isTrue size_eq =>
      refine ⟨size_eq, state, qubits, live_eq_ok_iff.1 isLive, resolved, ?_⟩
      split at applied
      case isTrue empty =>
        rw [if_pos empty]
        exact (Except.ok.inj applied).symm
      case isFalse someTarget =>
        rw [if_neg someTarget]
        exact (Except.ok.inj applied).symm
    case isFalse => cases applied
  · rintro ⟨size_eq, state, qubits, rfl, resolved, rfl⟩
    refine Fault.bind_eq_ok_iff.2 ⟨state, rfl, Fault.bind_eq_ok_iff.2 ⟨qubits, resolved, ?_⟩⟩
    rw [if_pos size_eq]
    split <;> rfl

theorem applyPhase_holding (state : StateVector R) (angle : R) (controls : List Int)
    (after : Memory R) :
    (holding state).applyPhase angle (Engine.indices controls) = .ok after ↔
      QubitsFit state.numQubits controls ∧
        after = .holding (state.applyPhase angle (controls.map Int.toNat)) := by
  rw [applyPhase_eq_ok_iff]
  constructor
  · rintro ⟨held, qubits, same, resolved, rfl⟩
    cases same
    rcases (QubitIndex.resolve_numbers _ _ _ _).1 resolved with ⟨fits, rfl⟩
    exact ⟨fits, rfl⟩
  · rintro ⟨fits, rfl⟩
    exact ⟨state, _, rfl, (QubitIndex.resolve_numbers _ _ _ _).2 ⟨fits, rfl⟩, rfl⟩

theorem applyMatrix_holding (state : StateVector R) (matrix : SquareMatrix R)
    (targets controls : List Int) (size_eq : matrix.size = Basis.count targets.length)
    (after : Memory R) :
    (holding state).applyMatrix matrix (Engine.indices targets) (Engine.indices controls) =
        .ok after ↔
      QubitsFit state.numQubits (targets ++ controls) ∧
        after = .holding
          (if targets.isEmpty then
            state.applyPhase (matrix.entry 0 0).angle (controls.map Int.toNat)
          else state.applyMatrix matrix (targets.map Int.toNat) (controls.map Int.toNat)) := by
  have together : Engine.indices targets ++ Engine.indices controls =
      Engine.indices (targets ++ controls) := List.map_append.symm
  have length_eq : (Engine.indices targets).length = targets.length := List.length_map _
  have isEmpty_eq : (Engine.indices targets).isEmpty = targets.isEmpty := List.isEmpty_map
  have applied_eq : ∀ fits : QubitsFit state.numQubits (targets ++ controls),
      (if targets.isEmpty then
          state.applyPhase (matrix.entry 0 0).angle ((targets ++ controls).map Int.toNat)
        else state.applyToGroups matrix (((targets ++ controls).map Int.toNat).take targets.length)
          (((targets ++ controls).map Int.toNat).drop targets.length)) =
        if targets.isEmpty then
          state.applyPhase (matrix.entry 0 0).angle (controls.map Int.toNat)
        else state.applyMatrix matrix (targets.map Int.toNat) (controls.map Int.toNat) := by
    intro fits
    cases targets with
    | nil => rfl
    | cons target others =>
      rw [← fits.applyToGroups_eq size_eq]
      simp
  rw [applyMatrix_eq_ok_iff, together, length_eq, isEmpty_eq, and_iff_right size_eq]
  constructor
  · rintro ⟨held, qubits, same, resolved, rfl⟩
    cases same
    rcases (QubitIndex.resolve_numbers _ _ _ _).1 resolved with ⟨fits, rfl⟩
    exact ⟨fits, congrArg holding (applied_eq fits)⟩
  · rintro ⟨fits, rfl⟩
    exact ⟨state, _, rfl, (QubitIndex.resolve_numbers _ _ _ _).2 ⟨fits, rfl⟩,
      congrArg holding (applied_eq fits).symm⟩

end Memory

namespace TapeEntry

variable {R : Type} [Scalar R]

/-- A complete gate acts on a live memory exactly if it fits, and then it acts on the state. -/
theorem onMemory_holding {entry : TapeEntry R} (complete : entry.IsComplete) (ambient : List Int)
    (state : StateVector R) (after : Memory R) :
    entry.onMemory ambient (.holding state) = .ok after ↔
      entry.Fits state.numQubits ambient ∧ after = .holding (entry.onState ambient state) := by
  have size_eq : entry.gate.matrix.size = Basis.count entry.targets.length := by
    rw [Gate.matrix_size, complete]
  rw [onMemory, onState, Fits]
  rw [IsComplete] at complete
  cases gate_eq : entry.gate with
  | globalPhase angle =>
    have noTarget : entry.targets = [] := by
      rw [gate_eq] at complete
      exact List.length_eq_zero_iff.1 complete
    simp only [noTarget, List.nil_append]
    exact Memory.applyPhase_holding state angle _ after
  | fixed fixed =>
    rw [gate_eq] at size_eq
    exact Memory.applyMatrix_holding state _ _ _ size_eq after
  | rotation axis angle =>
    rw [gate_eq] at size_eq
    exact Memory.applyMatrix_holding state _ _ _ size_eq after
  | custom custom =>
    rw [gate_eq] at size_eq
    exact Memory.applyMatrix_holding state _ _ _ size_eq after

end TapeEntry

namespace StateVector

variable {R : Type} [Scalar R]

/-- The state after the given gates under the controls in force. -/
def through (ambient : List Int) : List (TapeEntry R) → StateVector R → StateVector R
  | [], state => state
  | entry :: rest, state => through ambient rest (entry.onState ambient state)

@[simp]
theorem through_numQubits (ambient : List Int) (entries : List (TapeEntry R))
    (state : StateVector R) : (through ambient entries state).numQubits = state.numQubits := by
  induction entries generalizing state with
  | nil => rfl
  | cons entry rest ih => rw [through, ih, TapeEntry.onState_numQubits]

end StateVector

/-! ## Playing a course that only issues gates -/

namespace Engine

variable {R : Type} [Scalar R]

theorem carryOut_onMemory (gate : Gate R) (targets : List Int) {engine : Engine R}
    (noTape : engine.tapes = []) :
    carryOut gate targets engine =
      match (TapeEntry.mk gate targets engine.controls).onMemory [] engine.memory with
      | .ok memory => (.ok (), { engine with memory := memory })
      | .error fault => (.error fault, engine) := by
  rcases engine with ⟨memory, profile, controls, tapes, draws, elapsed, definitions⟩
  simp only at noTape
  subst noTape
  cases gate <;> rfl

theorem carryOutEntry_onMemory (entry : TapeEntry R) {engine : Engine R}
    (noTape : engine.tapes = []) :
    carryOutEntry entry engine =
      match entry.onMemory engine.controls engine.memory with
      | .ok memory => (.ok (), { engine with memory := memory })
      | .error fault => (.error fault, engine) := by
  have inside : carryOut entry.gate entry.targets (pushControls entry.controls engine) = _ :=
    carryOut_onMemory entry.gate entry.targets noTape
  have same : (TapeEntry.mk entry.gate entry.targets (engine.controls ++ entry.controls)).onMemory
      [] engine.memory = entry.onMemory engine.controls engine.memory := rfl
  simp only [pushControls, same] at inside
  simp only [carryOutEntry, controlledBy, Action.during, pushControls, inside]
  cases entry.onMemory engine.controls engine.memory with
  | ok memory => simp only [popControls, List.take_left']
  | error fault => simp only [popControls, List.take_left']

end Engine

namespace Course

variable {R α : Type} [Scalar R] {entries : List (TapeEntry R)} {value : α}

open Engine

/-- A course whose gates fit ends well, and the state has gone through its gates. -/
theorem Issues.play {course : Course R α} (issued : course.Issues entries value)
    (engine : Engine R) {state : StateVector R} (noTape : engine.tapes = [])
    (live : engine.memory = .holding state) (complete : ∀ entry ∈ entries, entry.IsComplete)
    (fit : ∀ entry ∈ entries, entry.Fits state.numQubits engine.controls) :
    ∃ elapsed, course.play engine =
      (.ok value, { engine with
        memory := .holding (state.through engine.controls entries), elapsed := elapsed }) := by
  induction issued generalizing engine state with
  | done value =>
    refine ⟨engine.elapsed, ?_⟩
    simp only [Course.play, Action.ofExcept, StateVector.through, ← live]
  | @issue entry rest entries value later ih =>
    rcases List.forall_mem_cons.1 complete with ⟨isComplete, complete⟩
    rcases List.forall_mem_cons.1 fit with ⟨fits, fit⟩
    have acted := (entry.onMemory_holding isComplete engine.controls state _).2 ⟨fits, rfl⟩
    have first : carryOutEntry entry engine =
        (.ok (), { engine with memory := .holding (entry.onState engine.controls state) }) := by
      rw [carryOutEntry_onMemory entry noTape, live, acted]
    rcases ih { engine with
        memory := .holding (entry.onState engine.controls state) } noTape rfl complete
        (by simpa using fit) with ⟨elapsed, played⟩
    refine ⟨elapsed, ?_⟩
    rw [Course.play, Action.bind_of_ok first, played]
    rfl
  | @pause seconds rest entries value later ih =>
    exact ih { engine with elapsed := engine.elapsed + seconds } noTape live complete
      fit

/-- A course that does not measure and ends well issues gates that fit, and nothing else. -/
theorem issues_of_play {course : Course R α}
    (met : course.Meets TapeEntry.IsComplete False fun _ => True) (engine : Engine R)
    {after : Engine R} {state : StateVector R} (noTape : engine.tapes = [])
    (live : engine.memory = .holding state) (played : course.play engine = (.ok value, after)) :
    ∃ entries, course.Issues entries value ∧ (∀ entry ∈ entries, entry.IsComplete) ∧
      ∀ entry ∈ entries, entry.Fits state.numQubits engine.controls := by
  induction course generalizing engine state with
  | done outcome =>
    cases played
    exact ⟨[], .done value, by simp, by simp⟩
  | issue entry rest ih =>
    rw [Course.play, Action.bind_apply, carryOutEntry_onMemory entry noTape, live] at played
    cases acted : entry.onMemory engine.controls (.holding state) with
    | error fault =>
      rw [acted] at played
      cases played
    | ok memory =>
      rw [acted] at played
      rcases (entry.onMemory_holding met.1 engine.controls state memory).1 acted with ⟨fits, rfl⟩
      rcases ih met.2 { engine with
        memory := .holding (entry.onState engine.controls state) } noTape rfl played with
        ⟨entries, issued, complete, fit⟩
      refine ⟨entry :: entries, .issue issued, List.forall_mem_cons.2 ⟨met.1, complete⟩,
        List.forall_mem_cons.2 ⟨fits, ?_⟩⟩
      simpa using fit
  | pause seconds rest ih =>
    rcases ih met { engine with elapsed := engine.elapsed + seconds } noTape live
      played with ⟨entries, issued, complete, fit⟩
    exact ⟨entries, .pause issued, complete, fit⟩
  | measure qubit rest ih => exact met.1.elim
  | reset qubit rest ih => exact met.1.elim
  | refuse what => exact met.elim

end Course

end QuantumKata
