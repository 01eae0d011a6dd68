import QuantumKata.Proofs.OutOfDate
import QuantumKata.Proofs.Outline
import QuantumKata.Proofs.Resolving

/-!
# Primitives fail before they write

The state of a register is changed in place.  A gate checks its qubits and its matrix and then writes
the amplitudes; a matrix on no target asks for a phase, which checks the controls over again.  A
measurement checks its qubits, draws, writes zero into everything that does not agree with what was
drawn, looks at what is left, and writes that once more, scaled.  A reset measures and then asks for
a gate, which has checks of its own.  What a primitive has written before a fault would stay written.

Here the primitives are told write by write, each write visible to the checks that come later, and it
is shown that this makes no difference: they are what they are at once, a result together with the
state afterwards, or a fault and the state from before.  It comes down to this, that nothing can be
refused any more after the first write.  A second check of the same qubits accepts what the first one
has accepted, by whatever word it calls them, and the gate of a reset fits every register that has
the qubit.

The same goes for a step appended to a circuit, whose steps, capabilities and adjoint are written one
after the other.
-/

namespace QuantumKata

/-! ## Atomic actions -/

namespace Action

variable {σ α β : Type}

/-- An action that leaves the state as it was if it fails. -/
def IsAtomic (action : Action σ α) : Prop :=
  ∀ before fault after, action before = (.error fault, after) → after = before

/-- What comes after checks that write nothing may be atomic for the whole to be so. -/
theorem IsAtomic.after_keeps {action : Action σ α} {next : α → Action σ β}
    (kept : Keeps id action) (atomic : ∀ value, IsAtomic (next value)) :
    IsAtomic (action >>= next) := by
  intro before fault after failed
  have same : (action before).2 = before := kept before
  rw [bind_apply] at failed
  rcases result : action before with ⟨_ | value, between⟩
  · rw [result] at failed same
    cases failed
    exact same
  · rw [result] at failed same
    obtain rfl : between = before := same
    exact atomic value between fault after failed

/-- What is made of the result of an atomic action. -/
theorem IsAtomic.bind_pure {action : Action σ α} (atomic : IsAtomic action) (value : α → β) :
    IsAtomic (action >>= fun result => pure (value result)) := by
  intro before fault after failed
  rw [bind_apply] at failed
  rcases result : action before with ⟨_ | _, between⟩
  · rw [result] at failed
    cases failed
    exact atomic before fault after result
  · rw [result] at failed
    cases failed

/-- An action that is told write by write is the same as at once, and if it fails nothing has been
written. -/
structure ComesTo (inPlace whole : Action σ α) : Prop where
  same : inPlace = whole
  atomic : IsAtomic inPlace

end Action

/-! ## Writing into a register -/

/-- Work on a register: its memory is written in place, and draws are used up. -/
abbrev RegisterAction (R α : Type) : Type := Action (Memory R × Memory.Draws R) α

namespace RegisterAction

open QubitIndex

variable {R α : Type}

/-- The state in the memory, unless it has been released. -/
def look : RegisterAction R (StateVector R) := fun register => (register.1.live, register)

/-- Write a state into the memory. -/
def write (state : StateVector R) : RegisterAction R Unit :=
  Action.update fun (_, draws) => (.holding state, draws)

/-- A result together with the memory and the draws afterwards, or a fault and those from before. -/
def atOnce (change : Memory R → Memory.Draws R → Except Fault (α × Memory R × Memory.Draws R)) :
    RegisterAction R α := fun (memory, draws) =>
  match change memory draws with
  | .ok (value, after) => (.ok value, after)
  | .error fault => (.error fault, (memory, draws))

/-- A change of the memory alone. -/
def ofMemory (change : Memory R → Except Fault (Memory R)) : RegisterAction R Unit :=
  atOnce fun memory draws => (change memory).map fun after => ((), after, draws)

theorem isAtomic_atOnce
    (change : Memory R → Memory.Draws R → Except Fault (α × Memory R × Memory.Draws R)) :
    Action.IsAtomic (atOnce change) := by
  rintro ⟨memory, draws⟩ fault after failed
  rw [atOnce] at failed
  split at failed <;> cases failed
  rfl

variable [Scalar R]

/-- Check the controls, then write the phase. -/
def applyPhase (angle : R) (controls : List QubitIndex) : RegisterAction R Unit := do
  let state ← look
  let qubits ← Action.ofExcept (resolve controlWord state.numQubits controls)
  write (state.applyPhase angle qubits)

/-- Check targets and controls and the shape of the matrix, then write the amplitudes.  Without a
target a phase is asked for. -/
def applySquare (square? : Option (SquareMatrix R)) (shape : List Nat)
    (targets controls : List QubitIndex) : RegisterAction R Unit := do
  let state ← look
  let qubits ← Action.ofExcept (resolve qubitWord state.numQubits (targets ++ controls))
  match square? with
  | some matrix =>
    if matrix.size = Basis.count targets.length then
      if targets.isEmpty then applyPhase (matrix.entry 0 0).angle controls
      else
        write (state.applyToGroups matrix (qubits.take targets.length)
          (qubits.drop targets.length))
    else Action.fail (.matrixShape shape targets.length)
  | none => Action.fail (.matrixShape shape targets.length)

/-- Choose an index by a draw; none is used when the weights are undefined. -/
def choose (weights : List R) : RegisterAction R Nat := fun (memory, draws) =>
  if weights.any Scalar.isUndefined then (.error .undefinedProbabilities, (memory, draws))
  else (.ok (StateVector.chooseIndex weights draws.next.1), (memory, draws.next.2))

/-- Check the qubits and choose an index, then write zero where the qubits read something else, and
then write what is left, scaled to norm one. -/
def measure (indices : List QubitIndex) : RegisterAction R (List Bool) := do
  let state ← look
  let qubits ← Action.ofExcept (resolve qubitWord state.numQubits indices)
  let outcome ← choose state.choiceWeights
  write (state.mapWithIndex fun index old => if Basis.agree qubits index outcome then old else 0)
  let kept ← look
  write (kept.mapWithIndex fun _ old => old.scale (1 / Scalar.sqrt kept.squaredNorm))
  return qubits.map outcome.testBit

/-- The matrix of a flip. -/
def flip : SquareMatrix R := .ofRows 0 1 1 0

/-- Measure the qubit, and ask for a flip if it reads one. -/
def reset (index : QubitIndex) : RegisterAction R Unit := do
  let bits ← measure [index]
  if bits.any id then applySquare (some flip) (flip (R := R)).shape [index] []

/-! ## Nothing is refused after a write -/

omit [Scalar R] in
theorem look_holding (state : StateVector R) (draws : Memory.Draws R) :
    look (.holding state, draws) = (.ok state, (.holding state, draws)) := rfl

omit [Scalar R] in
theorem atOnce_of_ok
    {change : Memory R → Memory.Draws R → Except Fault (α × Memory R × Memory.Draws R)}
    {memory after : Memory R} {draws rest : Memory.Draws R} {value : α}
    (changed : change memory draws = .ok (value, after, rest)) :
    atOnce change (memory, draws) = (.ok value, (after, rest)) := by
  rw [atOnce, changed]

omit [Scalar R] in
theorem atOnce_of_error
    {change : Memory R → Memory.Draws R → Except Fault (α × Memory R × Memory.Draws R)}
    {memory : Memory R} {draws : Memory.Draws R} {fault : Fault}
    (refused : change memory draws = .error fault) :
    atOnce change (memory, draws) = (.error fault, (memory, draws)) := by
  rw [atOnce, refused]

theorem applyPhase_eq (angle : R) (controls : List QubitIndex) :
    applyPhase angle controls = ofMemory fun memory => memory.applyPhase angle controls := by
  funext ⟨memory, draws⟩
  cases memory with
  | released size => rfl
  | holding state =>
    rw [applyPhase, Action.bind_of_ok (look_holding state draws), ofMemory, atOnce,
      Memory.applyPhase]
    simp only [Memory.live, bind, Except.bind, Action.ofExcept]
    cases resolve controlWord state.numQubits controls <;> rfl

/-- The controls have been accepted among all qubits, so the phase accepts them once more. -/
theorem applySquare_eq (square? : Option (SquareMatrix R)) (shape : List Nat)
    (targets controls : List QubitIndex) :
    applySquare square? shape targets controls = ofMemory (fun memory => do
      let state ← memory.live
      let qubits ← resolve qubitWord state.numQubits (targets ++ controls)
      match square? with
      | some matrix =>
        if matrix.size = Basis.count targets.length then
          if targets.isEmpty then
            return .holding (state.applyPhase (matrix.entry 0 0).angle qubits)
          else
            return .holding (state.applyToGroups matrix (qubits.take targets.length)
              (qubits.drop targets.length))
        else throw (.matrixShape shape targets.length)
      | none => throw (.matrixShape shape targets.length)) := by
  funext ⟨memory, draws⟩
  cases memory with
  | released size => rfl
  | holding state =>
    rw [applySquare, Action.bind_of_ok (look_holding state draws), ofMemory, atOnce]
    simp only [Memory.live, bind, Except.bind, Action.ofExcept]
    cases accepted : resolve qubitWord state.numQubits (targets ++ controls) with
    | error fault => rfl
    | ok qubits =>
      cases square? with
      | none => rfl
      | some matrix =>
        by_cases fits : matrix.size = Basis.count targets.length
        · simp only [if_pos fits]
          cases targets with
          | nil =>
            have again : resolve controlWord state.numQubits controls = .ok qubits :=
              resolve_congr_word accepted
            simp only [List.isEmpty_nil, if_pos]
            rw [applyPhase_eq, ofMemory, atOnce, Memory.applyPhase]
            simp only [Memory.live, bind, Except.bind, again]
          | cons target rest => rfl
        · simp only [if_neg fits]
          rfl

theorem applyTensor_eq (tensor : Tensor R) (targets controls : List QubitIndex) :
    applySquare tensor.square? tensor.shape targets controls =
      ofMemory fun memory => memory.applyTensor tensor targets controls :=
  applySquare_eq tensor.square? tensor.shape targets controls

theorem applyMatrix_eq (matrix : SquareMatrix R) (targets controls : List QubitIndex) :
    applySquare (some matrix) matrix.shape targets controls =
      ofMemory fun memory => memory.applyMatrix matrix targets controls :=
  applySquare_eq (some matrix) matrix.shape targets controls

theorem measure_eq (indices : List QubitIndex) :
    measure indices = atOnce fun (memory : Memory R) draws => memory.measure indices draws := by
  funext ⟨memory, draws⟩
  cases memory with
  | released size => rfl
  | holding state =>
    rw [measure, Action.bind_of_ok (look_holding state draws), atOnce, Memory.measure]
    simp only [Memory.live, bind, Except.bind, Action.ofExcept]
    cases resolve qubitWord state.numQubits indices with
    | error fault => rfl
    | ok qubits =>
      simp only [choose, StateVector.measure?]
      cases state.choiceWeights.any Scalar.isUndefined <;> rfl

/-- A flip of a qubit of the register is accepted. -/
theorem flip_of_accepted {state : StateVector R} {index : QubitIndex} {qubits : List Nat}
    (accepted : resolve qubitWord state.numQubits [index] = .ok qubits) (draws : Memory.Draws R) :
    applySquare (some flip) (flip (R := R)).shape [index] [] (.holding state, draws) =
      (.ok (), (.holding (state.applyToGroups flip qubits []), draws)) := by
  obtain ⟨stand, -, -⟩ := resolve_eq_ok_iff.1 accepted
  obtain ⟨qubit, rest, rfl, -, stand⟩ := standFor_cons.1 stand
  obtain rfl := standFor_nil.1 stand
  have applied : (Memory.holding state).applyMatrix flip [index] [] =
      .ok (.holding (state.applyToGroups flip [qubit] [])) := by
    simp only [Memory.applyMatrix, Memory.live, bind, Except.bind, List.append_nil, accepted]
    rfl
  rw [applyMatrix_eq, ofMemory]
  refine atOnce_of_ok ?_
  rw [applied]
  rfl

/-- The qubit has been accepted before it was measured, so the flip is not refused. -/
theorem reset_eq (index : QubitIndex) :
    reset index = atOnce fun (memory : Memory R) draws =>
      (memory.reset index draws).map fun (after, rest) => ((), after, rest) := by
  funext ⟨memory, draws⟩
  cases memory with
  | released size => rfl
  | holding state =>
    rw [reset, measure_eq]
    cases accepted : resolve qubitWord state.numQubits [index] with
    | error fault =>
      have refused : (Memory.holding state).measure [index] draws = .error fault := by
        simp only [Memory.measure, Memory.live, bind, Except.bind, accepted]
      rw [Action.bind_of_error (atOnce_of_error refused), atOnce, Memory.reset]
      simp only [Memory.live, bind, Except.bind, accepted]
      rfl
    | ok qubits =>
      cases measured : state.measure? qubits draws.next.1 with
      | none =>
        have refused : (Memory.holding state).measure [index] draws =
            .error .undefinedProbabilities := by
          simp only [Memory.measure, Memory.live, bind, Except.bind, accepted, measured]
          rfl
        rw [Action.bind_of_error (atOnce_of_error refused), atOnce, Memory.reset]
        simp only [Memory.live, bind, Except.bind, accepted, measured]
        rfl
      | some result =>
        obtain ⟨bits, collapsed⟩ := result
        have read : (Memory.holding state).measure [index] draws =
            .ok (bits, .holding collapsed, draws.next.2) := by
          simp only [Memory.measure, Memory.live, bind, Except.bind, accepted, measured]
          rfl
        have still : resolve qubitWord collapsed.numQubits [index] = .ok qubits := by
          rw [StateVector.numQubits_of_measure measured]
          exact accepted
        rw [Action.bind_of_ok (atOnce_of_ok read), atOnce, Memory.reset]
        simp only [Memory.live, bind, Except.bind, accepted, measured]
        cases bits.any id with
        | false => rfl
        | true =>
          rw [if_pos rfl, if_pos rfl, flip_of_accepted still]
          rfl

end RegisterAction

/-! ## The primitives of the engine -/

namespace Engine

variable {R α : Type}

/-- Work on the register of an engine. -/
def onRegister (work : RegisterAction R α) : EngineAction R α := fun engine =>
  let (outcome, memory, draws) := work (engine.memory, engine.draws)
  (outcome, { engine with memory := memory, draws := draws })

theorem isAtomic_onRegister {work : RegisterAction R α} (atomic : work.IsAtomic) :
    Action.IsAtomic (onRegister work) := by
  intro engine fault after failed
  rcases result : work (engine.memory, engine.draws) with ⟨outcome, register⟩
  simp only [onRegister, result] at failed
  obtain ⟨rfl, rfl⟩ := Prod.mk.inj failed
  obtain rfl := atomic _ _ _ result
  rfl

theorem keeps_require (kind : InstructionKind) (name : String) :
    Action.Keeps (id : Engine R → Engine R) (require kind name) := by
  intro engine
  rw [require]
  split <;> rfl

theorem keeps_requireReversible (what : String) :
    Action.Keeps (id : Engine R → Engine R) (requireReversible what) := by
  intro engine
  rw [requireReversible]
  split
  · rfl
  · split <;> rfl

/-- A change of the memory that fails leaves the engine alone. -/
theorem onRegister_ofMemory (change : Memory R → Except Fault (Memory R)) (engine : Engine R) :
    onRegister (RegisterAction.ofMemory change) engine =
      match change engine.memory with
      | .ok memory => (.ok (), { engine with memory := memory })
      | .error fault => (.error fault, engine) := by
  rw [onRegister, RegisterAction.ofMemory, RegisterAction.atOnce]
  cases change engine.memory <;> rfl

variable [Scalar R]

/-- What a gate does to the register under the controls in force. -/
def gateWork (gate : Gate R) (targets controls : List Int) : RegisterAction R Unit :=
  match gate with
  | .globalPhase angle => RegisterAction.applyPhase angle (indices controls)
  | other =>
    RegisterAction.applySquare (some other.matrix) other.matrix.shape (indices targets)
      (indices controls)

/-- Record a gate on the topmost tape, or work on the register. -/
def carryOutInPlace (gate : Gate R) (targets : List Int) : EngineAction R Unit := fun engine =>
  match engine.tapes with
  | _ :: _ => carryOut gate targets engine
  | [] => onRegister (gateWork gate targets engine.controls) engine

/-- Check the number of targets and the profile, then carry the gate out. -/
def gateInPlace (gate : Gate R) (targets : List Int) : EngineAction R Unit := do
  if targets.length ≠ gate.numQubits then
    Action.fail (.gateArity gate.text gate.numQubits targets.length)
  require (instructionKind gate) gate.name
  carryOutInPlace gate targets

/-- Check the profile and that nothing is controlled or recorded, then measure. -/
def measureInPlace (qubit : Int) : EngineAction R Bool := do
  require .measure "M"
  requireReversible "measurement"
  let bits ← onRegister (RegisterAction.measure [.number qubit])
  return bits.headD false

/-- Check the profile and that nothing is controlled or recorded, then reset. -/
def resetInPlace (qubit : Int) : EngineAction R Unit := do
  require .reset "Reset"
  requireReversible "reset"
  onRegister (RegisterAction.reset (.number qubit))

/-- Find the qubits and check the matrix of a gate of one's own, then issue the gate. -/
def unitaryInPlace (frame : Frame) (tensor : Tensor R) (name : String)
    (references : List QubitRef) : EngineAction R (Reading R) := do
  let qubits ← Action.ofExcept (frame.resolveAll references)
  let primitive ← Action.ofExcept (Gate.ofTensor tensor name Scalar.defaultTolerance)
  gateInPlace primitive qubits
  return .nothing

theorem gateWork_eq (gate : Gate R) (targets controls : List Int) :
    gateWork gate targets controls = RegisterAction.ofMemory fun memory =>
      match gate with
      | .globalPhase angle => memory.applyPhase angle (indices controls)
      | other => memory.applyMatrix other.matrix (indices targets) (indices controls) := by
  cases gate with
  | globalPhase angle => exact RegisterAction.applyPhase_eq angle (indices controls)
  | fixed _ | rotation _ _ | custom _ => exact RegisterAction.applyMatrix_eq _ _ _

theorem carryOutInPlace_eq (gate : Gate R) (targets : List Int) :
    carryOutInPlace gate targets = carryOut gate targets := by
  funext ⟨memory, profile, controls, tapes, draws, elapsed, definitions⟩
  cases tapes with
  | cons tape below => rfl
  | nil =>
    simp only [carryOutInPlace]
    rw [gateWork_eq, onRegister_ofMemory]
    cases gate <;> rfl

theorem gateInPlace_eq (primitive : Gate R) (targets : List Int) :
    gateInPlace primitive targets = gate primitive targets := by
  rw [gateInPlace, gate, carryOutInPlace_eq]

theorem measureInPlace_eq (qubit : Int) : measureInPlace (R := R) qubit = measure qubit := by
  refine congrArg (require .measure "M" >>= ·) (funext fun _ =>
    congrArg (requireReversible "measurement" >>= ·) (funext fun _ => funext fun engine => ?_))
  rw [RegisterAction.measure_eq, Action.bind_apply, onRegister, RegisterAction.atOnce]
  cases engine.memory.measure [.number qubit] engine.draws <;> rfl

theorem resetInPlace_eq (qubit : Int) : resetInPlace (R := R) qubit = reset qubit := by
  refine congrArg (require .reset "Reset" >>= ·) (funext fun _ =>
    congrArg (requireReversible "reset" >>= ·) (funext fun _ => funext fun engine => ?_))
  rw [RegisterAction.reset_eq, onRegister, RegisterAction.atOnce]
  cases engine.memory.reset (.number qubit) engine.draws <;> rfl

theorem isAtomic_carryOutInPlace (gate : Gate R) (targets : List Int) :
    Action.IsAtomic (carryOutInPlace gate targets) := by
  rintro ⟨memory, profile, controls, tapes, draws, elapsed, definitions⟩ fault after failed
  cases tapes with
  | cons tape below => cases failed
  | nil =>
    simp only [carryOutInPlace] at failed
    rw [gateWork_eq] at failed
    exact isAtomic_onRegister (RegisterAction.isAtomic_atOnce _) _ fault after failed

theorem isAtomic_gateInPlace (primitive : Gate R) (targets : List Int) :
    Action.IsAtomic (gateInPlace primitive targets) := by
  have checked : Action.IsAtomic (do
      require (instructionKind primitive) primitive.name
      carryOutInPlace primitive targets : EngineAction R Unit) :=
    .after_keeps (keeps_require _ primitive.name) fun _ =>
      isAtomic_carryOutInPlace primitive targets
  rw [gateInPlace]
  split
  · exact .after_keeps (fun _ => rfl) fun _ => checked
  · exact checked

theorem isAtomic_measureInPlace (qubit : Int) :
    Action.IsAtomic (measureInPlace (R := R) qubit) := by
  have read : Action.IsAtomic
      (onRegister (RegisterAction.measure [.number qubit]) : EngineAction R (List Bool)) := by
    rw [RegisterAction.measure_eq]
    exact isAtomic_onRegister (RegisterAction.isAtomic_atOnce _)
  rw [measureInPlace]
  exact .after_keeps (keeps_require _ _) fun _ => .after_keeps (keeps_requireReversible _)
    fun _ => read.bind_pure _

theorem isAtomic_resetInPlace (qubit : Int) : Action.IsAtomic (resetInPlace (R := R) qubit) := by
  rw [resetInPlace, RegisterAction.reset_eq]
  exact .after_keeps (keeps_require _ _) fun _ => .after_keeps (keeps_requireReversible _)
    fun _ => isAtomic_onRegister (RegisterAction.isAtomic_atOnce _)

theorem unitaryInPlace_eq (scope : Scope R) (frame : Frame) (tensor : Tensor R) (name : String)
    (references : List QubitRef) :
    unitaryInPlace frame tensor name references =
      runInstruction scope (.unitary tensor name references) frame := by
  simp only [unitaryInPlace, gateInPlace_eq]
  rw [runInstruction]

theorem isAtomic_unitaryInPlace (frame : Frame) (tensor : Tensor R) (name : String)
    (references : List QubitRef) :
    Action.IsAtomic (unitaryInPlace frame tensor name references) :=
  .after_keeps (Action.keeps_ofExcept _) fun qubits =>
    .after_keeps (Action.keeps_ofExcept _) fun primitive =>
      (isAtomic_gateInPlace primitive qubits).bind_pure _

end Engine

/-! ## Appending a step -/

namespace Workshop

variable {R : Type} {workshop : Workshop R}

/-- Two changes of one part are one. -/
theorem altered_altered (id : PartId) (first second : Part R → Part R) :
    (workshop.altered id first).altered id second =
      workshop.altered id fun part => second (first part) := by
  have same : (workshop.parts.modify id first).modify id second =
      workshop.parts.modify id fun part => second (first part) := by
    refine Array.ext_getElem? fun place => ?_
    by_cases here : id = place <;> simp [Array.getElem?_modify, here, Function.comp_def]
  exact congrArg (fun parts => { workshop with parts := parts }) same

/-- A change that leaves the capabilities of a part as they are leaves those of all parts. -/
theorem capabilities_altered {id : PartId} {next : Part R → Part R}
    (kept : ∀ part, (next part).capabilities = part.capabilities) (other : PartId) :
    ((workshop.altered id next).part other).capabilities = (workshop.part other).capabilities := by
  by_cases same : other = id
  · subst same
    by_cases old : other < workshop.parts.size
    · rw [part_altered_self old, kept]
    · have outside : (workshop.altered other next).parts.size ≤ other := by
        rw [size_altered]
        exact Nat.le_of_not_lt old
      rw [part_of_le outside, part_of_le (Nat.le_of_not_lt old)]
  · rw [part_altered_of_ne same]

/-- Check the size of the step and its qubits, then write the steps of the circuit, its capabilities
and its adjoint, one after the other. -/
def addStepInPlace (circuit step : PartId) (qubits : List Int) : WorkshopAction R Unit := do
  let whole ← look circuit
  let added ← look step
  match whole.shape with
  | .circuit steps =>
    if (qubits.length : Int) ≠ added.numQubits then
      Action.fail (.operationArity added.name added.numQubits qubits.length)
    if Operation.areDistinctBelow whole.numQubits qubits then
      change circuit fun part => { part with shape := .circuit (steps ++ [(step, qubits)]) }
      let appended ← look step
      change circuit fun part =>
        { part with capabilities := part.capabilities.common appended.capabilities }
      change circuit fun part => { part with adjoint := none }
    else Action.fail (.circuitQubits qubits whole.numQubits)
  | _ => Action.fail (.wrongMember "only circuits take steps")

/-- The capabilities of the step are those from before, even if the circuit is appended to itself. -/
theorem addStepInPlace_eq (circuit step : PartId) (qubits : List Int) :
    addStepInPlace (R := R) circuit step qubits = addStep circuit step qubits := by
  funext workshop
  cases shape : (workshop.part circuit).shape with
  | gate _ | phaseShifted _ _ | controlled _ _ | derivedAdjoint _ | routine _ _ =>
    simp [addStepInPlace, addStep, shape]
  | circuit steps =>
    by_cases arity : (qubits.length : Int) = (workshop.part step).numQubits
    · by_cases distinct : Operation.areDistinctBelow (workshop.part circuit).numQubits qubits = true
      · rw [addStep_of_fits shape arity distinct]
        let longer : Workshop R := workshop.altered circuit fun part =>
          { part with shape := .circuit (steps ++ [(step, qubits)]) }
        have written : addStepInPlace circuit step qubits workshop =
            (.ok (), (longer.altered circuit fun part => { part with
              capabilities := part.capabilities.common (longer.part step).capabilities }).altered
                circuit fun part => { part with adjoint := none }) := by
          simp [addStepInPlace, shape, arity, distinct, change_apply, longer]
        have same : (longer.part step).capabilities = (workshop.part step).capabilities := by
          refine capabilities_altered ?_ step
          exact fun _ => rfl
        rw [written, same, altered_altered, altered_altered]
        rfl
      · simp [addStepInPlace, addStep, shape, arity, distinct]
    · simp [addStepInPlace, addStep, shape, arity]

theorem isAtomic_addStepInPlace (circuit step : PartId) (qubits : List Int) :
    Action.IsAtomic (addStepInPlace (R := R) circuit step qubits) := by
  intro workshop fault after failed
  rw [addStepInPlace_eq] at failed
  rcases addStep_cases workshop circuit step qubits with ⟨_, refused⟩ | ⟨_, -, -, -, appended⟩
  · rw [refused] at failed
    exact (Prod.mk.inj failed).2.symm
  · rw [appended] at failed
    cases failed

end Workshop

/-! ## All of them -/

/-- Every primitive, told write by write, is what it is at once, and changes nothing if it fails:
the four changes of a register, whatever state it is in, the gates, phases, measurements and resets
of an engine, whatever it controls, records and allows, and a step appended to a circuit. -/
theorem primitives_fail_before_writing (R : Type) [Scalar R] :
    (∀ (tensor : Tensor R) targets controls, Action.ComesTo
      (RegisterAction.applySquare tensor.square? tensor.shape targets controls)
      (RegisterAction.ofMemory fun memory => memory.applyTensor tensor targets controls)) ∧
    (∀ (angle : R) controls, Action.ComesTo (RegisterAction.applyPhase angle controls)
      (RegisterAction.ofMemory fun memory => memory.applyPhase angle controls)) ∧
    (∀ indices, Action.ComesTo (RegisterAction.measure indices)
      (RegisterAction.atOnce fun (memory : Memory R) draws => memory.measure indices draws)) ∧
    (∀ index, Action.ComesTo (RegisterAction.reset index)
      (RegisterAction.atOnce fun (memory : Memory R) draws =>
        (memory.reset index draws).map fun (after, rest) => ((), after, rest))) ∧
    (∀ (primitive : Gate R) targets, Action.ComesTo (Engine.gateInPlace primitive targets)
      (Engine.gate primitive targets)) ∧
    (∀ scope frame (tensor : Tensor R) name references, Action.ComesTo
      (Engine.unitaryInPlace frame tensor name references)
      (Engine.runInstruction scope (.unitary tensor name references) frame)) ∧
    (∀ qubit, Action.ComesTo (Engine.measureInPlace (R := R) qubit) (Engine.measure qubit)) ∧
    (∀ qubit, Action.ComesTo (Engine.resetInPlace (R := R) qubit) (Engine.reset qubit)) ∧
    ∀ circuit step qubits, Action.ComesTo (Workshop.addStepInPlace (R := R) circuit step qubits)
      (Workshop.addStep circuit step qubits) := by
  refine ⟨fun tensor targets controls => ?_, fun angle controls => ?_, fun indices => ?_,
    fun index => ?_, fun primitive targets => ?_, fun scope frame tensor name references => ?_,
    fun qubit => ?_, fun qubit => ?_, fun circuit step qubits => ?_⟩
  · rw [RegisterAction.applyTensor_eq]
    exact ⟨rfl, RegisterAction.isAtomic_atOnce _⟩
  · rw [RegisterAction.applyPhase_eq]
    exact ⟨rfl, RegisterAction.isAtomic_atOnce _⟩
  · rw [RegisterAction.measure_eq]
    exact ⟨rfl, RegisterAction.isAtomic_atOnce _⟩
  · rw [RegisterAction.reset_eq]
    exact ⟨rfl, RegisterAction.isAtomic_atOnce _⟩
  · exact ⟨Engine.gateInPlace_eq primitive targets, Engine.isAtomic_gateInPlace primitive targets⟩
  · exact ⟨Engine.unitaryInPlace_eq scope frame tensor name references,
      Engine.isAtomic_unitaryInPlace frame tensor name references⟩
  · exact ⟨Engine.measureInPlace_eq qubit, Engine.isAtomic_measureInPlace qubit⟩
  · exact ⟨Engine.resetInPlace_eq qubit, Engine.isAtomic_resetInPlace qubit⟩
  · exact ⟨Workshop.addStepInPlace_eq circuit step qubits,
      Workshop.isAtomic_addStepInPlace circuit step qubits⟩

/-- A flip of a qubit under its own control is refused, and the engine is what it was. -/
theorem primitives_fail_before_writing_of_clash :
    let engine : Engine ℝ :=
      { Engine.start (.holding (.zero 1)) .unrestricted [] {} with controls := [0] }
    Engine.gate (.fixed .x) [0] engine =
      (.error (.qubitRepeated QubitIndex.qubitWord (QubitIndex.number 0).text), engine) := by
  intro engine
  obtain ⟨-, -, -, -, gates, -⟩ := primitives_fail_before_writing ℝ
  obtain ⟨same, atomic⟩ := gates (.fixed .x) [0]
  rw [same] at atomic
  have refused : (Engine.gate (.fixed .x) [0] engine).1 =
      .error (.qubitRepeated QubitIndex.qubitWord (QubitIndex.number 0).text) := rfl
  exact Prod.ext refused (atomic engine _ _ (Prod.ext refused rfl))

end QuantumKata
