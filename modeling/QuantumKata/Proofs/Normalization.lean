import QuantumKata.Proofs.Measuring
import QuantumKata.Proofs.Conduct
import QuantumKata.Proofs.Outline

/-!
# The norm of the state along a run

Every primitive of the engine leaves a state of norm one with norm one: a unitary gate keeps inner
products, a measurement scales what it keeps back to norm one, a reset flips a qubit afterwards, and
a primitive that is refused leaves the state alone.  So the norm is one after each primitive of a
course, and as a body is run by playing its course, after each primitive of a body, whether the body
ends well or breaks off.

An engine is handed from call to call, also after a call that has failed.  Blocks may be left open
between calls: a block whose body handles the faults inside it is the opening of the block, the calls
inside and its closing.  None of this touches the state.

Nothing is assumed of the gates that come with the engine.  Gates of one's own have to be unitary,
and the draws that decide measurements lie between zero and one.
-/

noncomputable section

namespace QuantumKata

open Complex

/-! ## Gates -/

namespace Gate

/-- Every gate that comes with the engine is unitary. -/
theorem isUnitary_of_own {gate : Gate ℝ} (own : gate.kind = .custom → gate.IsUnitary) :
    gate.IsUnitary := by
  cases gate with
  | fixed gate => exact isUnitary_fixed gate
  | rotation axis angle => exact isUnitary_rotation axis angle
  | globalPhase angle => exact isUnitary_globalPhase angle
  | custom gate => exact own rfl

end Gate

namespace Conduct

/-- The conduct whose gates of one's own are unitary. -/
def ownUnitary : Conduct ℝ :=
  ⟨fun gate => gate.kind = .custom → gate.IsUnitary, fun _ => True, True⟩

theorem ownUnitary_reversible : ownUnitary.Reversible :=
  fun _ _ own built _ => Gate.adjoint_isUnitary (Gate.isUnitary_of_own own) built

end Conduct

theorem TapeEntry.Follows.isExact {entry : TapeEntry ℝ} (follows : entry.Follows .ownUnitary) :
    entry.IsExact :=
  ⟨Gate.isUnitary_of_own follows.1, follows.2⟩

/-- A unitary gate keeps the norm. -/
theorem TapeEntry.squaredNorm_onState {entry : TapeEntry ℝ} (exact : entry.IsExact)
    {ambient : List Int} {state : StateVector ℝ} (fits : entry.Fits state.numQubits ambient) :
    (entry.onState ambient state).squaredNorm = state.squaredNorm := by
  have kept := overlap_actAll (List.forall_mem_singleton.2 exact)
    (List.forall_mem_singleton.2 fits) state.value state.value
  rw [actAll_cons, actAll_nil, ← entry.value_onState exact fits] at kept
  have same : overlap (entry.onState ambient state).numQubits (entry.onState ambient state).value
      (entry.onState ambient state).value = overlap state.numQubits state.value state.value := by
    rw [entry.onState_numQubits]
    exact kept
  rw [StateVector.overlap_self, StateVector.overlap_self] at same
  exact_mod_cast same

namespace StateVector

variable {state : StateVector ℝ} {qubit : ℕ}

/-- The gate that flips a qubit. -/
def flipOf (qubit : ℕ) : TapeEntry ℝ := ⟨.fixed .x, [(qubit : Int)], []⟩

theorem flipOf_isExact (qubit : ℕ) : (flipOf qubit).IsExact := ⟨Gate.isUnitary_fixed .x, rfl⟩

theorem flipOf_fits (inside : qubit < state.numQubits) : (flipOf qubit).Fits state.numQubits [] :=
  ⟨List.nodup_singleton _, List.forall_mem_singleton.2
    ⟨Int.natCast_nonneg qubit, Int.ofNat_lt.2 inside⟩⟩

theorem applyToGroups_flip (inside : qubit < state.numQubits) :
    state.applyToGroups (.ofRows 0 1 1 0) [qubit] [] = (flipOf qubit).onState [] state :=
  (flipOf_fits inside).applyToGroups_eq rfl

theorem squaredNorm_flip (inside : qubit < state.numQubits) :
    (state.applyToGroups (.ofRows 0 1 1 0) [qubit] []).squaredNorm = state.squaredNorm := by
  rw [applyToGroups_flip inside]
  exact TapeEntry.squaredNorm_onState (flipOf_isExact qubit) (flipOf_fits inside)

end StateVector

/-! ## Memories -/

namespace Memory

/-- A memory that holds a state of norm one. -/
def IsUnit (memory : Memory ℝ) : Prop := ∃ state, memory = .holding state ∧ state.squaredNorm = 1

/-- Draws that lie between zero and one. -/
def Draws.AreAdmissible (draws : Draws ℝ) : Prop := ∀ draw ∈ draws.upcoming, 0 ≤ draw ∧ draw < 1

theorem Draws.AreAdmissible.next {draws : Draws ℝ} (admissible : draws.AreAdmissible) :
    (0 ≤ draws.next.1 ∧ draws.next.1 < 1) ∧ draws.next.2.AreAdmissible := by
  rcases draws with ⟨upcoming⟩
  cases upcoming with
  | nil =>
    refine ⟨?_, admissible⟩
    change (0 : ℝ) ≤ (3 : ℤ) / 10 ^ 1 ∧ ((3 : ℤ) : ℝ) / 10 ^ 1 < 1
    norm_num
  | cons first rest =>
    exact ⟨admissible first List.mem_cons_self,
      fun draw member => admissible draw (List.mem_cons_of_mem _ member)⟩

variable {memory after : Memory ℝ}

theorem IsUnit.onMemory (unit : memory.IsUnit) {entry : TapeEntry ℝ} (exact : entry.IsExact)
    {ambient : List Int} (acted : entry.onMemory ambient memory = .ok after) : after.IsUnit := by
  rcases unit with ⟨state, rfl, normal⟩
  rcases (TapeEntry.onMemory_holding exact.2 ambient state after).1 acted with ⟨fits, rfl⟩
  exact ⟨_, rfl, (TapeEntry.squaredNorm_onState exact fits).trans normal⟩

theorem IsUnit.measure (unit : memory.IsUnit) {draws rest : Draws ℝ}
    (admissible : draws.AreAdmissible) {indices : List QubitIndex} {bits : List Bool}
    (measured : memory.measure indices draws = .ok (bits, after, rest)) :
    after.IsUnit ∧ rest.AreAdmissible := by
  rcases unit with ⟨state, rfl, normal⟩
  rcases admissible.next with ⟨⟨lower, upper⟩, admissible⟩
  rcases exists_of_measure measured with ⟨held, qubits, collapsed, same, -, collapsedIs, rfl, rfl⟩
  cases same
  exact ⟨⟨_, rfl, StateVector.squaredNorm_measure normal lower upper collapsedIs⟩, admissible⟩

/-- A reset flips a qubit that has been measured. -/
theorem IsUnit.reset (unit : memory.IsUnit) {draws rest : Draws ℝ}
    (admissible : draws.AreAdmissible) {qubit : Int}
    (brought : memory.reset (.number qubit) draws = .ok (after, rest)) :
    after.IsUnit ∧ rest.AreAdmissible := by
  rcases unit with ⟨state, rfl, normal⟩
  rcases admissible.next with ⟨⟨lower, upper⟩, admissible⟩
  rcases exists_of_reset brought with
    ⟨held, qubits, bits, collapsed, same, resolved, collapsedIs, rfl, rfl⟩
  cases same
  rcases (QubitIndex.resolve_numbers _ _ [qubit] _).1 resolved with ⟨fits, rfl⟩
  have collapsedNormal := StateVector.squaredNorm_measure normal lower upper collapsedIs
  refine ⟨⟨_, rfl, ?_⟩, admissible⟩
  split
  · have inside : qubit.toNat < collapsed.numQubits := by
      rw [StateVector.numQubits_of_measure collapsedIs]
      exact fits.toNat_lt _ List.mem_cons_self
    exact (StateVector.squaredNorm_flip inside).trans collapsedNormal
  · exact collapsedNormal

end Memory

/-! ## Engines -/

namespace Engine

/-- An engine whose state has norm one, with draws between zero and one. -/
structure IsNormalized (engine : Engine ℝ) : Prop where
  unit : engine.memory.IsUnit
  admissible : engine.draws.AreAdmissible

/-- Work that leaves an engine normalized, whether it ends well or not. -/
def KeepsNormalized {α : Type} (action : EngineAction ℝ α) : Prop :=
  ∀ engine, engine.IsNormalized → (action engine).2.IsNormalized

variable {α β : Type}

theorem keepsNormalized_of_keeps {action : EngineAction ℝ α}
    (kept : Action.Keeps (fun engine : Engine ℝ => (engine.memory, engine.draws)) action) :
    KeepsNormalized action := by
  intro engine normal
  have same := kept engine
  simp only [Prod.mk.injEq] at same
  exact ⟨same.1 ▸ normal.unit, same.2 ▸ normal.admissible⟩

theorem KeepsNormalized.bind {action : EngineAction ℝ α} {next : α → EngineAction ℝ β}
    (first : KeepsNormalized action) (second : ∀ value, KeepsNormalized (next value)) :
    KeepsNormalized (action >>= next) := by
  intro engine normal
  have between := first engine normal
  rw [Action.bind_apply]
  rcases result : action engine with ⟨fault | value, after⟩
  · rwa [result] at between
  · rw [result] at between
    exact second value after between

theorem keepsNormalized_carryOut {gate : Gate ℝ} {targets : List Int} (unitary : gate.IsUnitary)
    (complete : targets.length = gate.numQubits) : KeepsNormalized (carryOut gate targets) := by
  intro engine normal
  cases tapes : engine.tapes with
  | cons tape below =>
    unfold carryOut
    simp only [tapes]
    exact ⟨normal.unit, normal.admissible⟩
  | nil =>
    rw [carryOut_onMemory gate targets tapes]
    cases acted : (TapeEntry.mk gate targets engine.controls).onMemory [] engine.memory with
    | error fault => exact normal
    | ok memory =>
      have exact : (TapeEntry.mk gate targets engine.controls).IsExact := ⟨unitary, complete⟩
      exact ⟨normal.unit.onMemory exact acted, normal.admissible⟩

theorem keepsNormalized_carryOutEntry {entry : TapeEntry ℝ} (exact : entry.IsExact) :
    KeepsNormalized (carryOutEntry entry) := by
  intro engine normal
  have inside := keepsNormalized_carryOut exact.1 exact.2 (pushControls entry.controls engine)
    ⟨normal.unit, normal.admissible⟩
  exact ⟨inside.unit, inside.admissible⟩

theorem keepsNormalized_observe (qubit : Int) : KeepsNormalized (observe qubit) := by
  refine (keepsNormalized_of_keeps (requireReversible_keeps _ _)).bind fun _ engine normal => ?_
  rw [measureMemory]
  split
  · rename_i measured
    rcases normal.unit.measure normal.admissible measured with ⟨unit, admissible⟩
    exact ⟨unit, admissible⟩
  · exact normal

theorem keepsNormalized_restore (qubit : Int) : KeepsNormalized (restore qubit) := by
  refine (keepsNormalized_of_keeps (requireReversible_keeps _ _)).bind fun _ engine normal => ?_
  rw [resetMemory]
  split
  · rename_i brought
    rcases normal.unit.reset normal.admissible brought with ⟨unit, admissible⟩
    exact ⟨unit, admissible⟩
  · exact normal

end Engine

/-! ## The engines along a run -/

namespace Course

variable {R α β : Type}

open Engine

/-- The engine after an action, and the engines along what follows it. -/
def after (action : EngineAction R β) (next : β → Engine R → List (Engine R)) (engine : Engine R) :
    List (Engine R) :=
  (action engine).2 :: match (action engine).1 with
    | .ok value => next value (action engine).2
    | .error _ => []

theorem getLastD_after (action : EngineAction R β) {next : β → Engine R → List (Engine R)}
    {rest : β → EngineAction R α}
    (ends : ∀ value engine, (next value engine).getLastD engine = (rest value engine).2)
    (engine : Engine R) :
    (after action next engine).getLastD engine = ((action >>= rest) engine).2 := by
  rw [after, List.getLastD_cons, Action.bind_apply]
  rcases action engine with ⟨fault | value, between⟩
  · rfl
  · exact ends value between

variable [Scalar R]

/-- The engines that playing a course leads through, one after each primitive. -/
def trail : Course R α → Engine R → List (Engine R)
  | done _ => fun _ => []
  | issue entry rest => after (carryOutEntry entry) fun _ => rest.trail
  | pause seconds rest => after (sleep seconds) fun _ => rest.trail
  | measure qubit rest => after (observe qubit) fun bit => (rest bit).trail
  | reset qubit rest => after (restore qubit) fun _ => rest.trail
  | refuse _ => fun _ => []

/-- A trail leads from an engine to the engine at which playing the course ends. -/
theorem getLastD_trail (course : Course R α) :
    ∀ engine, (course.trail engine).getLastD engine = (course.play engine).2 := by
  induction course with
  | done outcome => exact fun _ => rfl
  | issue entry rest ih => exact getLastD_after _ fun _ => ih
  | pause seconds rest ih => exact getLastD_after _ fun _ => ih
  | measure qubit rest ih => exact getLastD_after _ ih
  | reset qubit rest ih => exact getLastD_after _ fun _ => ih
  | refuse what => exact fun engine => (refuse_keeps id what engine).symm

theorem isNormalized_after {action : EngineAction ℝ β} {next : β → Engine ℝ → List (Engine ℝ)}
    (first : KeepsNormalized action)
    (second : ∀ value engine, engine.IsNormalized → ∀ passed ∈ next value engine,
      passed.IsNormalized) :
    ∀ engine, engine.IsNormalized → ∀ passed ∈ after action next engine, passed.IsNormalized := by
  intro engine normal
  have between := first engine normal
  rw [after]
  refine List.forall_mem_cons.2 ⟨between, ?_⟩
  cases (action engine).1 with
  | error fault => exact List.forall_mem_nil _
  | ok value => exact second value _ between

/-- Every engine along a course whose gates are unitary is normalized. -/
theorem isNormalized_trail {course : Course ℝ α} (follows : course.Follows .ownUnitary) :
    ∀ engine, engine.IsNormalized → ∀ passed ∈ course.trail engine, passed.IsNormalized := by
  induction course with
  | done outcome => exact fun _ _ => List.forall_mem_nil _
  | issue entry rest ih =>
    exact isNormalized_after (keepsNormalized_carryOutEntry follows.1.isExact) fun _ => ih follows.2
  | pause seconds rest ih =>
    have slept : KeepsNormalized (sleep seconds) := keepsNormalized_of_keeps fun _ => rfl
    exact isNormalized_after slept fun _ => ih follows
  | measure qubit rest ih =>
    exact isNormalized_after (keepsNormalized_observe qubit) fun bit => ih bit (follows.2 bit)
  | reset qubit rest ih =>
    exact isNormalized_after (keepsNormalized_restore qubit) fun _ => ih follows.2
  | refuse what => exact fun _ _ => List.forall_mem_nil _

theorem keepsNormalized_play {course : Course ℝ α} (follows : course.Follows .ownUnitary) :
    KeepsNormalized course.play := by
  intro engine normal
  rw [← getLastD_trail]
  have among : (course.trail engine).getLastD engine ∈ engine :: course.trail engine :=
    List.getLastD_mem_cons
  rcases List.mem_cons.1 among with first | along
  · rw [first]
    exact normal
  · exact isNormalized_trail follows engine normal _ along

end Course

/-! ## Calls of an engine -/

/-- What an engine is asked for from outside.  A block may be opened and closed by calls of their
own, so that calls in between may fail without ending it. -/
inductive Call (R : Type) where
  | execute (program : Program R) (frame : Frame)
  | apply (operation : Operation R) (qubits : List Int)
  | replay (tape : List (TapeEntry R))
  | enterControls (added : List Int)
  | leaveControls (depth : Nat)
  | enterProfile (profile : TargetProfile)
  | startTape
  | endTape

namespace Call

open Engine

/-- Whether the bodies and the tape of a call keep to a conduct. -/
def Follows {R : Type} [Scalar R] (rule : Conduct R) (definitions : Definitions R) :
    Call R → Prop
  | execute program _ => program.Follows rule (rule.namedWithin definitions Engine.depthLimit)
  | apply operation _ => operation.Keeps rule definitions
  | replay tape => ∀ entry ∈ tape, entry.Follows rule
  | enterControls _ | leaveControls _ | enterProfile _ | startTape | endTape => True

section

variable {R : Type} [Scalar R]

/-- The engine after a call, whether the call ends well or fails. -/
def perform : Call R → Engine R → Engine R
  | execute program frame, engine => (Engine.execute program frame engine).2
  | apply operation qubits, engine => (Engine.apply operation qubits engine).2
  | replay tape, engine => (undoTape tape engine).2
  | enterControls added, engine => pushControls added engine
  | leaveControls depth, engine => { engine with controls := engine.controls.take depth }
  | enterProfile profile, engine => Engine.enterProfile profile engine
  | startTape, engine => pushTape engine
  | endTape, engine => popTape engine engine

/-- The engines along a call, one after each primitive. -/
def trail : Call R → Engine R → List (Engine R)
  | execute program frame, engine =>
    (program.course engine.definitions frame engine.profile).trail engine
  | apply operation qubits, engine =>
    (operation.course engine.definitions qubits engine.profile).trail engine
  | replay tape, engine => (Course.ofUndoTape engine.profile tape).trail engine
  | enterControls _, _ | leaveControls _, _ | enterProfile _, _ | startTape, _ | endTape, _ => []

/-- The engines along calls one after the other, one after each primitive and one after each
call. -/
def trailAll : List (Call R) → Engine R → List (Engine R)
  | [], _ => []
  | call :: rest, engine =>
    call.trail engine ++ call.perform engine :: trailAll rest (call.perform engine)

/-- The engine after a call is the one that its trail leads to, apart from what is on its stacks. -/
theorem getLastD_trail (call : Call R) (engine : Engine R) :
    ((call.trail engine).getLastD engine).memory = (call.perform engine).memory := by
  cases call with
  | execute program frame =>
    rw [perform, execute_eq, ← Course.getLastD_trail]
    rfl
  | apply operation qubits =>
    rw [perform, apply_eq, ← Course.getLastD_trail]
    rfl
  | replay tape =>
    rw [perform, Course.undoTape_eq, Course.enact, ← Course.getLastD_trail]
    rfl
  | enterControls _ | leaveControls _ | enterProfile _ | startTape | endTape => rfl

theorem definitions_perform (call : Call R) (engine : Engine R) :
    (call.perform engine).definitions = engine.definitions := by
  have kept : ∀ {α : Type} (course : Course R α),
      (course.play engine).2.definitions = engine.definitions :=
    fun course => congrArg (fun part => part.2.2) (course.play_keeps_frame engine)
  cases call with
  | execute program frame =>
    rw [perform, execute_eq]
    exact kept _
  | apply operation qubits =>
    rw [perform, apply_eq]
    exact kept _
  | replay tape =>
    rw [perform, Course.undoTape_eq]
    exact kept _
  | enterControls _ | leaveControls _ | enterProfile _ | startTape | endTape => rfl

end

variable {definitions : Definitions ℝ} {call : Call ℝ}

/-- The courses that a call plays have unitary gates. -/
theorem execute_follows {program : Program ℝ} {frame : Frame}
    (follows : (execute program frame).Follows .ownUnitary definitions) (profile : TargetProfile) :
    (program.course definitions frame profile).Follows .ownUnitary :=
  Course.ofProgram_follows Conduct.ownUnitary_reversible
    (Guide.within_follows Conduct.ownUnitary_reversible definitions _) program follows frame profile

theorem isNormalized_trail {engine : Engine ℝ}
    (follows : call.Follows .ownUnitary engine.definitions) (normal : engine.IsNormalized) :
    ∀ passed ∈ call.trail engine, passed.IsNormalized := by
  cases call with
  | execute program frame =>
    exact Course.isNormalized_trail (execute_follows follows engine.profile) engine normal
  | apply operation qubits =>
    exact Course.isNormalized_trail (operation.course_follows Conduct.ownUnitary_reversible follows
      qubits engine.profile) engine normal
  | replay tape =>
    exact Course.isNormalized_trail
      (Course.ofUndoTape_follows Conduct.ownUnitary_reversible follows) engine normal
  | enterControls _ | leaveControls _ | enterProfile _ | startTape | endTape =>
    exact List.forall_mem_nil _

theorem isNormalized_perform {engine : Engine ℝ}
    (follows : call.Follows .ownUnitary engine.definitions) (normal : engine.IsNormalized) :
    (call.perform engine).IsNormalized := by
  cases call with
  | execute program frame =>
    rw [perform, execute_eq]
    exact Course.keepsNormalized_play (execute_follows follows engine.profile) engine normal
  | apply operation qubits =>
    rw [perform, apply_eq]
    exact Course.keepsNormalized_play (operation.course_follows Conduct.ownUnitary_reversible
      follows qubits engine.profile) engine normal
  | replay tape =>
    rw [perform, Course.undoTape_eq]
    exact Course.keepsNormalized_play
      (Course.ofUndoTape_follows Conduct.ownUnitary_reversible follows) engine normal
  | enterControls _ | leaveControls _ | enterProfile _ | startTape | endTape =>
    exact ⟨normal.unit, normal.admissible⟩

/-- Every engine along calls with unitary gates is normalized. -/
theorem isNormalized_trailAll (calls : List (Call ℝ)) :
    ∀ engine : Engine ℝ, (∀ call ∈ calls, call.Follows .ownUnitary engine.definitions) →
      engine.IsNormalized → ∀ passed ∈ trailAll calls engine, passed.IsNormalized := by
  induction calls with
  | nil => exact fun _ _ _ => List.forall_mem_nil _
  | cons call rest ih =>
    intro engine follow normal
    rcases List.forall_mem_cons.1 follow with ⟨follows, follow⟩
    have after := isNormalized_perform follows normal
    rw [← call.definitions_perform engine] at follow
    rw [trailAll, List.forall_mem_append, List.forall_mem_cons]
    exact ⟨isNormalized_trail follows normal, after, ih _ follow after⟩

end Call

/-! ## The norm is an invariant -/

/-- The norm of the state is one along all calls of an engine, whether they end well or fail.  So a
measurement divides by one where it makes parts of the probabilities, what it keeps has a positive
norm, and every basis state of positive probability is the outcome of some draw. -/
theorem norm_invariant :
    (∀ size, (StateVector.zero size : StateVector ℝ).squaredNorm = 1) ∧
    ∀ (calls : List (Call ℝ)) (engine : Engine ℝ) (first : StateVector ℝ),
      engine.memory = .holding first → first.squaredNorm = 1 →
      (∀ draw ∈ engine.draws.upcoming, 0 ≤ draw ∧ draw < 1) →
      (∀ call ∈ calls, call.Follows .ownUnitary engine.definitions) →
      ∀ passed ∈ Call.trailAll calls engine, ∃ state, passed.memory = .holding state ∧
        state.squaredNorm = 1 ∧
        Scalar.sum state.probabilities = 1 ∧
        (StateVector.runningSums state.choiceWeights).getLastD 1 = 1 ∧
        (∀ qubits draw, 0 ≤ draw → draw < 1 →
          0 < normSq (state.value (StateVector.chooseIndex state.choiceWeights draw)) ∧
          0 < (state.kept qubits (StateVector.chooseIndex state.choiceWeights draw)).squaredNorm) ∧
        ∀ index, 0 < normSq (state.value index) →
          ∃ draw, 0 ≤ draw ∧ draw < 1 ∧
            StateVector.chooseIndex state.choiceWeights draw = index := by
  constructor
  · intro size
    exact StateVector.squaredNorm_basis (Nat.two_pow_pos size)
  · intro calls engine first holding firstNormal admissible follow passed among
    rcases Call.isNormalized_trailAll calls engine follow
      ⟨⟨first, holding, firstNormal⟩, admissible⟩ passed among with ⟨⟨state, holds, normal⟩, -⟩
    refine ⟨state, holds, normal, ?_, ?_, ?_, ?_⟩
    · rw [StateVector.sum_probabilities, normal]
    · exact StateVector.getLastD_runningSums (StateVector.sum_choiceWeights normal)
    · intro qubits draw lower upper
      exact ⟨(StateVector.chosen_pos normal lower upper).2,
        StateVector.squaredNorm_kept_pos normal qubits lower upper⟩
    · intro index positive
      exact StateVector.exists_draw_of_pos normal positive

/-- A turn, a measurement and a reset that are followed by a fault, and after the fault a controlled
turn. -/
theorem norm_invariant_of_fault :
    let turn : Instruction ℝ := .primitive (.rotation .ry 1) [.given 0]
    let body : Program ℝ := .ofList [turn, .measure (.given 0), .reset (.given 0), turn,
      .refused [] (.raised .value [.text "no"])]
    let controlled : Program ℝ := .ofList [.controlledBy [.given 1] (.ofList [turn])]
    let calls : List (Call ℝ) := [.execute body .register, .execute controlled .register]
    let engine : Engine ℝ := .start (.holding (.zero 2)) .unrestricted [1 / 2] {}
    (StateVector.zero 2 : StateVector ℝ).squaredNorm = 1 ∧
    (∀ call ∈ calls, call.Follows .ownUnitary engine.definitions) ∧
    ∀ passed ∈ Call.trailAll calls engine, ∃ state,
      passed.memory = .holding state ∧ state.squaredNorm = 1 := by
  intro turn body controlled calls engine
  have follow : ∀ call ∈ calls, call.Follows .ownUnitary engine.definitions := by
    have turns : ∀ named, turn.Follows .ownUnitary named := fun _ => ⟨nofun, fun _ _ => trivial⟩
    refine (List.forall_mem_cons (l := [_])).2 ⟨?_, List.forall_mem_singleton.2 ?_⟩
    · exact ⟨turns _, ⟨trivial, trivial⟩, ⟨trivial, trivial⟩, turns _, fun _ _ => trivial, trivial⟩
    · exact ⟨⟨fun _ _ => trivial, turns _, trivial⟩, trivial⟩
  have half : ∀ draw ∈ engine.draws.upcoming, 0 ≤ draw ∧ draw < 1 := by
    refine (List.forall_mem_singleton (a := 1 / 2)).2 ?_
    norm_num
  refine ⟨norm_invariant.1 2, follow, ?_⟩
  intro passed among
  rcases norm_invariant.2 calls engine (.zero 2) rfl (norm_invariant.1 2) half follow passed among
    with ⟨state, holds, normal, -⟩
  exact ⟨state, holds, normal⟩

end QuantumKata

end
