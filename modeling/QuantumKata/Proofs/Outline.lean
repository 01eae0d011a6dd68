import QuantumKata.Proofs.Issuing

/-!
# What an engine keeps

Gates, measurements and resets change the amplitudes in the memory and nothing about the memory
itself: it stays as large as it was, and live if it was live.  Entries go to the tape that is
recording, but tapes are not started or taken off on the way.  So an operation leaves an engine with
the same outline, whatever it does and however it ends.
-/

namespace QuantumKata

theorem Action.Keeps.and {σ τ υ α : Type} {view : σ → τ} {other : σ → υ} {action : Action σ α}
    (first : Action.Keeps view action) (second : Action.Keeps other action) :
    Action.Keeps (fun state => (view state, other state)) action :=
  fun state => Prod.ext (first state) (second state)

theorem StateVector.numQubits_of_measure {R : Type} [Scalar R] {state collapsed : StateVector R}
    {qubits : List Nat} {draw : R} {bits : List Bool}
    (measured : state.measure? qubits draw = some (bits, collapsed)) :
    collapsed.numQubits = state.numQubits := by
  rw [measure?] at measured
  dsimp only at measured
  split at measured
  · cases measured
  · cases measured
    rfl

namespace Memory

variable {R : Type}

/-- The size of a memory, and whether it has been released. -/
def extent (memory : Memory R) : Nat × Bool := (memory.numQubits, memory.isReleased)

theorem exists_state_of_extent {memory : Memory R} {numQubits : Nat}
    (extent : memory.extent = (numQubits, false)) :
    ∃ state, memory = .holding state ∧ state.numQubits = numQubits := by
  cases memory with
  | holding state => exact ⟨state, rfl, congrArg Prod.fst extent⟩
  | released size => cases extent

variable [Scalar R] {memory after : Memory R}

/-- A measurement that succeeds reads qubits of a live state and leaves what it collapses to. -/
theorem exists_of_measure {indices : List QubitIndex} {draws rest : Draws R} {bits : List Bool}
    (measured : memory.measure indices draws = .ok (bits, after, rest)) :
    ∃ state qubits collapsed, memory = .holding state ∧
      QubitIndex.resolve QubitIndex.qubitWord state.numQubits indices = .ok qubits ∧
      state.measure? qubits draws.next.1 = some (bits, collapsed) ∧
      after = .holding collapsed ∧ rest = draws.next.2 := by
  rcases Fault.bind_eq_ok_iff.1 measured with ⟨state, isLive, measured⟩
  rcases Fault.bind_eq_ok_iff.1 measured with ⟨qubits, resolved, measured⟩
  dsimp only at measured
  split at measured
  · cases measured
  · rename_i collapsedIs
    cases measured
    exact ⟨state, qubits, _, live_eq_ok_iff.1 isLive, resolved, collapsedIs, rfl, rfl⟩

/-- A reset that succeeds measures a qubit of a live state and flips it when it reads one. -/
theorem exists_of_reset {index : QubitIndex} {draws rest : Draws R}
    (brought : memory.reset index draws = .ok (after, rest)) :
    ∃ state qubits bits collapsed, memory = .holding state ∧
      QubitIndex.resolve QubitIndex.qubitWord state.numQubits [index] = .ok qubits ∧
      state.measure? qubits draws.next.1 = some (bits, collapsed) ∧
      after = .holding (if bits.any id then collapsed.applyToGroups (.ofRows 0 1 1 0) qubits []
        else collapsed) ∧ rest = draws.next.2 := by
  rcases Fault.bind_eq_ok_iff.1 brought with ⟨state, isLive, brought⟩
  rcases Fault.bind_eq_ok_iff.1 brought with ⟨qubits, resolved, brought⟩
  dsimp only at brought
  split at brought
  · cases brought
  · rename_i bits collapsed collapsedIs
    refine ⟨state, qubits, bits, collapsed, live_eq_ok_iff.1 isLive, resolved, collapsedIs, ?_⟩
    split at brought
    case isTrue one =>
      cases brought
      rw [if_pos one]
      exact ⟨rfl, rfl⟩
    case isFalse zero =>
      cases brought
      rw [if_neg zero]
      exact ⟨rfl, rfl⟩

theorem extent_applyPhase {angle : R} {controls : List QubitIndex}
    (applied : memory.applyPhase angle controls = .ok after) : after.extent = memory.extent := by
  rcases applyPhase_eq_ok_iff.1 applied with ⟨state, qubits, rfl, -, rfl⟩
  rfl

theorem extent_applyMatrix {matrix : SquareMatrix R} {targets controls : List QubitIndex}
    (applied : memory.applyMatrix matrix targets controls = .ok after) :
    after.extent = memory.extent := by
  rcases applyMatrix_eq_ok_iff.1 applied with ⟨-, state, qubits, rfl, -, rfl⟩
  split <;> rfl

theorem extent_measure {indices : List QubitIndex} {draws rest : Draws R} {bits : List Bool}
    (measured : memory.measure indices draws = .ok (bits, after, rest)) :
    after.extent = memory.extent := by
  rcases exists_of_measure measured with ⟨state, qubits, collapsed, rfl, -, collapsedIs, rfl, -⟩
  exact congrArg (·, false) (StateVector.numQubits_of_measure collapsedIs)

theorem extent_reset {index : QubitIndex} {draws rest : Draws R}
    (brought : memory.reset index draws = .ok (after, rest)) : after.extent = memory.extent := by
  rcases exists_of_reset brought with ⟨state, qubits, bits, collapsed, rfl, -, collapsedIs, rfl, -⟩
  have size := StateVector.numQubits_of_measure collapsedIs
  split
  · exact congrArg (·, false) size
  · exact congrArg (·, false) size

theorem extent_onMemory {entry : TapeEntry R} {ambient : List Int}
    (acted : entry.onMemory ambient memory = .ok after) : after.extent = memory.extent := by
  rw [TapeEntry.onMemory] at acted
  split at acted
  · exact extent_applyPhase acted
  · exact extent_applyMatrix acted

end Memory

/-! ## What of an engine stays as it is -/

namespace Engine

variable {R : Type}

/-- What of an engine stays as it is while it works: besides the frame, the size of the memory and
which tapes are recording. -/
def layout (engine : Engine R) : (Nat × Bool) × List Nat :=
  (engine.memory.extent, engine.tapes.map Tape.depth)

/-- The frame and the layout of an engine. -/
def outline (engine : Engine R) :
    (List Int × TargetProfile × Definitions R) × (Nat × Bool) × List Nat :=
  (engine.frame, engine.layout)

theorem restrictedTo_keeps_outline {α : Type} {block : EngineAction R α} (profile : TargetProfile)
    (kept : Action.Keeps outline block) : Action.Keeps outline (restrictedTo profile block) := by
  intro engine
  have inside := kept (enterProfile profile engine)
  simp only [outline, frame, layout, enterProfile, Prod.mk.injEq] at inside
  rcases inside with ⟨⟨controls, -, definitions⟩, memory, tapes⟩
  simp only [restrictedTo, Action.during, outline, frame, layout, leaveProfile, enterProfile,
    controls, definitions, memory, tapes]

variable [Scalar R]

theorem carryOut_keeps_layout (gate : Gate R) (targets : List Int) :
    Action.Keeps layout (carryOut gate targets) := by
  intro engine
  cases tapes : engine.tapes with
  | nil =>
    rw [carryOut_onMemory gate targets tapes]
    cases acted : (TapeEntry.mk gate targets engine.controls).onMemory [] engine.memory with
    | ok memory => exact congrArg (·, _) (Memory.extent_onMemory acted)
    | error fault => rfl
  | cons tape below =>
    unfold carryOut layout
    simp only [tapes, List.map_cons]

theorem carryOutEntry_keeps_layout (entry : TapeEntry R) :
    Action.Keeps layout (carryOutEntry entry) :=
  fun engine => carryOut_keeps_layout entry.gate entry.targets (pushControls entry.controls engine)

theorem observe_keeps_layout (qubit : Int) : Action.Keeps (layout (R := R)) (observe qubit) := by
  apply (requireReversible_keeps layout _).bind
  intro _ engine
  rw [measureMemory]
  split
  · rename_i measured
    exact congrArg (·, _) (Memory.extent_measure measured)
  · rfl

theorem restore_keeps_layout (qubit : Int) : Action.Keeps (layout (R := R)) (restore qubit) := by
  apply (requireReversible_keeps layout _).bind
  intro _ engine
  rw [resetMemory]
  split
  · rename_i brought
    exact congrArg (·, _) (Memory.extent_reset brought)
  · rfl

theorem play_keeps_layout {α : Type} (course : Course R α) :
    Action.Keeps layout course.play := by
  induction course with
  | done outcome => exact Action.keeps_ofExcept outcome
  | issue entry rest ih => exact (carryOutEntry_keeps_layout entry).bind fun _ => ih
  | pause seconds rest ih =>
    have slept : Action.Keeps layout (sleep seconds) := fun _ => rfl
    exact slept.bind fun _ => ih
  | measure qubit rest ih => exact (observe_keeps_layout qubit).bind ih
  | reset qubit rest ih => exact (restore_keeps_layout qubit).bind fun _ => ih
  | refuse what => exact refuse_keeps layout what

theorem apply_keeps_outline (operation : Operation R) (qubits : List Int) :
    Action.Keeps outline (apply operation qubits) := by
  intro engine
  rw [apply_eq]
  exact (Course.play_keeps_frame _).and (play_keeps_layout _) engine

end Engine

end QuantumKata
