import QuantumKata.Action
import QuantumKata.Blueprint.Build
import QuantumKata.Memory

/-!
# The engine

The engine runs operations on the memory of a register.  Bodies never touch amplitudes: they issue
gates, and the engine decides what becomes of a gate.  It keeps

* a stack of *controls*: a gate takes effect only where all of them read one;
* a stack of *tapes*: while there is one, gates are not applied but recorded on the topmost tape,
  together with the controls that were added since that tape was started;
* the *profile* in force, which every gate, measurement and reset is checked against.

Measuring and resetting cannot be undone and cannot be controlled, so both are refused under a
control and while a tape is recording.  A block that adds to a stack takes off again what it has
added, whether it ends well or with a fault.

An action of the engine answers with a result or a fault, and in either case with the engine
afterwards, because what was done before a fault stays done.

The meaning of an operation is given relative to a *scope*, which says how operations that are known
by name only are built and run.  The engine's own scope builds them from the definitions it knows
and runs them in the same way, down to a limited depth.
-/

namespace QuantumKata

/-- A recorded gate with the controls that were added while recording. -/
structure TapeEntry (R : Type) where
  gate : Gate R
  targets : List Int
  controls : List Int

/-- A recording in progress; `depth` is the number of controls when it was started. -/
structure Tape (R : Type) where
  entries : List (TapeEntry R)
  depth : Nat

/-- The engine; the topmost tape comes first. -/
structure Engine (R : Type) where
  memory : Memory R
  profile : TargetProfile
  controls : List Int
  tapes : List (Tape R)
  draws : Memory.Draws R
  elapsed : R
  /-- What the names in bodies stand for. -/
  definitions : Definitions R

/-- An action of the engine. -/
abbrev EngineAction (R α : Type) : Type := Action (Engine R) α

/-- How operations that are known by name only are built and run. -/
structure Scope (R : Type) where
  build : Blueprint R → Except Fault (Operation R)
  run : Operation R → List Int → EngineAction R Unit

/-- The qubits that a body can name: all of the register, or those of a list it was given. -/
inductive Frame where
  | register
  | given (qubits : List Int)

namespace Frame

/-- The qubit at a place; a negative place counts from the end of the list. -/
def at? (frame : Frame) (place : Int) : Except Fault Int :=
  match frame with
  | register => .ok place
  | given qubits =>
    match Snapshot.place? place qubits.length with
    | some position => .ok (qubits.getD position 0)
    | none => .error (.listIndexOutOfRange place)

/-- The qubit that a body means. -/
def resolve (frame : Frame) : QubitRef → Except Fault Int
  | .given place => frame.at? place
  | .absolute qubit => .ok qubit
  | .offset place distance => (frame.at? place).map (· + distance)

/-- The qubits that a body means. -/
def resolveAll (frame : Frame) (references : List QubitRef) : Except Fault (List Int) :=
  references.mapM frame.resolve

end Frame

/-- What an instruction answers. -/
inductive Reading (R : Type) where
  | nothing
  | bit (value : Bool)
  | tape (entries : List (TapeEntry R))

namespace Engine

variable {R : Type}

/-- Add controls to the stack. -/
def pushControls (added : List Int) (engine : Engine R) : Engine R :=
  { engine with controls := engine.controls ++ added }

/-- Take off the controls that were not there before. -/
def popControls (before after : Engine R) : Engine R :=
  { after with controls := after.controls.take before.controls.length }

/-- Add controls for the duration of a block. -/
def controlledBy {α : Type} (added : List Int) (block : EngineAction R α) : EngineAction R α :=
  Action.during (pushControls added) popControls block

/-- Put a profile in force. -/
def enterProfile (profile : TargetProfile) (engine : Engine R) : Engine R :=
  { engine with profile := profile }

/-- Put the profile in force that was there before. -/
def leaveProfile (before after : Engine R) : Engine R := { after with profile := before.profile }

/-- Put a profile in force for the duration of a block. -/
def restrictedTo {α : Type} (profile : TargetProfile) (block : EngineAction R α) :
    EngineAction R α :=
  Action.during (enterProfile profile) leaveProfile block

/-- Start a tape. -/
def pushTape (engine : Engine R) : Engine R :=
  { engine with tapes := ⟨[], engine.controls.length⟩ :: engine.tapes }

/-- Take the topmost tape off. -/
def popTape (_ after : Engine R) : Engine R := { after with tapes := after.tapes.tail }

/-- What the topmost tape holds. -/
def topmostEntries (engine : Engine R) : List (TapeEntry R) :=
  (engine.tapes.headD ⟨[], 0⟩).entries

/-- Record the gates of a block; the result is the tape. -/
def record {α : Type} (block : EngineAction R α) : EngineAction R (List (TapeEntry R)) :=
  Action.during pushTape popTape do
    let _ ← block
    Action.inspect topmostEntries

/-- Refuse an instruction that the profile in force does not have. -/
def require (kind : InstructionKind) (name : String) : EngineAction R Unit := fun engine =>
  if engine.profile.allows kind then (.ok (), engine)
  else (.error (.notInProfile name engine.profile.setting), engine)

/-- Refuse what cannot be undone or controlled. -/
def requireReversible (what : String) : EngineAction R Unit := fun engine =>
  if !engine.controls.isEmpty then (.error (.irreversibleUnderControl what), engine)
  else if !engine.tapes.isEmpty then (.error (.irreversibleInAdjoint what), engine)
  else (.ok (), engine)

/-- The family of instructions that a gate belongs to. -/
def instructionKind (gate : Gate R) : InstructionKind :=
  match gate.kind with
  | .custom => .customUnitary
  | .phase => .globalPhase
  | .standard => .gate

/-- Qubits of the register as indices to be checked. -/
def indices (qubits : List Int) : List QubitIndex := qubits.map .number

variable [Scalar R]

/-- An engine on a memory, with nothing on its stacks. -/
def start (memory : Memory R) (profile : TargetProfile) (draws : List R)
    (definitions : Definitions R) : Engine R where
  memory := memory
  profile := profile
  controls := []
  tapes := []
  draws := ⟨draws⟩
  elapsed := 0
  definitions := definitions

/-- Carry a gate out: on the topmost tape if there is one, else on the memory. -/
def carryOut (gate : Gate R) (targets : List Int) : EngineAction R Unit := fun engine =>
  match engine.tapes with
  | tape :: below =>
    let entry : TapeEntry R := ⟨gate, targets, engine.controls.drop tape.depth⟩
    (.ok (), { engine with tapes := { tape with entries := tape.entries ++ [entry] } :: below })
  | [] =>
    let outcome := match gate with
      | .globalPhase angle => engine.memory.applyPhase angle (indices engine.controls)
      | other => engine.memory.applyMatrix other.matrix (indices targets) (indices engine.controls)
    match outcome with
    | .ok memory => (.ok (), { engine with memory := memory })
    | .error fault => (.error fault, engine)

/-- Issue a gate. -/
def gate (gate : Gate R) (targets : List Int) : EngineAction R Unit := do
  if targets.length ≠ gate.numQubits then
    Action.fail (.gateArity gate.text gate.numQubits targets.length)
  require (instructionKind gate) gate.name
  carryOut gate targets

/-- Measure a qubit. -/
def measure (qubit : Int) : EngineAction R Bool := do
  require .measure "M"
  requireReversible "measurement"
  fun engine =>
    match engine.memory.measure [.number qubit] engine.draws with
    | .ok (bits, memory, draws) =>
      (.ok (bits.headD false), { engine with memory := memory, draws := draws })
    | .error fault => (.error fault, engine)

/-- Bring a qubit back to zero. -/
def reset (qubit : Int) : EngineAction R Unit := do
  require .reset "Reset"
  requireReversible "reset"
  fun engine =>
    match engine.memory.reset (.number qubit) engine.draws with
    | .ok (memory, draws) => (.ok (), { engine with memory := memory, draws := draws })
    | .error fault => (.error fault, engine)

/-- Let time pass. -/
def sleep (seconds : R) : EngineAction R Unit := fun engine =>
  (.ok (), { engine with elapsed := engine.elapsed + seconds })

/-- Issue the inverse of a recorded gate under the controls recorded with it. -/
def undoEntry (entry : TapeEntry R) : EngineAction R Unit :=
  controlledBy entry.controls do
    let inverse ← Action.ofExcept entry.gate.adjoint
    gate inverse entry.targets

/-- Issue the inverses of gates in the order given. -/
def undoEntries : List (TapeEntry R) → EngineAction R Unit
  | [] => pure ()
  | entry :: rest => do
    undoEntry entry
    undoEntries rest

/-- Play a tape backwards. -/
def undoTape (entries : List (TapeEntry R)) : EngineAction R Unit :=
  undoEntries entries.reverse

/-- The qubits at the places of a step of a circuit. -/
def pick (qubits : List Int) (places : List Int) : Except Fault (List Int) :=
  places.mapM (Frame.given qubits).at?

/-- The first qubits of a list and the others.  A negative count leaves that many at the end of the
list to the others. -/
def splitAt (count : Int) (qubits : List Int) : List Int × List Int :=
  let position := if 0 ≤ count then count.toNat else qubits.length - count.natAbs
  (qubits.take position, qubits.drop position)

/-- Refuse to run an operation on the wrong number of qubits. -/
def checkArity (operation : Operation R) (qubits : List Int) : Except Fault Unit :=
  if (qubits.length : Int) ≠ operation.numQubits then
    .error (.operationArity operation.name operation.numQubits qubits.length)
  else .ok ()

mutual

/-- Run the body of an operation on qubits. -/
def runBody (scope : Scope R) : Operation R → List Int → EngineAction R Unit
  | .gate primitive _, qubits => gate primitive qubits
  | .circuit _ _ steps, qubits => runSteps scope steps qubits
  | .phaseShifted inner angle, qubits => do
    runBody scope inner qubits
    gate (.globalPhase angle.value) []
  | .controlled inner count _, qubits =>
    controlledBy (splitAt count qubits).1 (runBody scope inner (splitAt count qubits).2)
  | .derivedAdjoint inner, qubits => do
    let entries ← record (runBody scope inner qubits)
    undoTape entries
  | .routine _ _ _ body _, qubits => do
    let _ ← runProgram scope body (.given qubits)
    pure ()
  | .linked core _, qubits => runBody scope core qubits

/-- Run the steps of a circuit on the qubits at their places. -/
def runSteps (scope : Scope R) : Steps R → List Int → EngineAction R Unit
  | .nil, _ => pure ()
  | .cons operation places rest, qubits => do
    let chosen ← Action.ofExcept (pick qubits places)
    Action.ofExcept (checkArity operation chosen)
    runBody scope operation chosen
    runSteps scope rest qubits

/-- Run one instruction. -/
def runInstruction (scope : Scope R) : Instruction R → Frame → EngineAction R (Reading R)
  | .primitive primitive targets, frame => do
    let qubits ← Action.ofExcept (frame.resolveAll targets)
    gate primitive qubits
    return .nothing
  | .unitary tensor name targets, frame => do
    let qubits ← Action.ofExcept (frame.resolveAll targets)
    let primitive ← Action.ofExcept (Gate.ofTensor tensor name Scalar.defaultTolerance)
    gate primitive qubits
    return .nothing
  | .apply operation references, frame => do
    let qubits ← Action.ofExcept (frame.resolveAll references)
    Action.ofExcept (checkArity operation qubits)
    runBody scope operation qubits
    return .nothing
  | .applyNamed variant described controls references, frame => do
    let operation ← Action.ofExcept (scope.build described)
    let qubits ← Action.ofExcept (frame.resolveAll (controls ++ references))
    let chosen ← Action.ofExcept (operation.variant variant controls.length)
    Action.ofExcept (checkArity chosen qubits)
    scope.run chosen qubits
    return .nothing
  | .refused references fault, frame => do
    let _ ← Action.ofExcept (frame.resolveAll references)
    Action.fail fault
  | .measure reference, frame => do
    let qubit ← Action.ofExcept (frame.resolve reference)
    let bit ← measure qubit
    return .bit bit
  | .reset reference, frame => do
    let qubit ← Action.ofExcept (frame.resolve reference)
    reset qubit
    return .nothing
  | .controlledBy references block, frame => do
    let controls ← Action.ofExcept (frame.resolveAll references)
    controlledBy controls (runProgram scope block frame)
  | .restrictedTo profile block, frame => restrictedTo profile (runProgram scope block frame)
  | .record block, frame => do
    let entries ← record (runProgram scope block frame)
    return .tape entries
  | .recordAndUndo block, frame => do
    let entries ← record (runProgram scope block frame)
    undoTape entries
    return .tape entries
  | .ifMeasured reference block, frame => do
    let qubit ← Action.ofExcept (frame.resolve reference)
    let bit ← measure qubit
    if bit then
      let _ ← runProgram scope block frame
      return .bit bit
    else return .bit bit
  | .sleep seconds, _ => do
    sleep seconds
    return .nothing

/-- Run instructions one after the other; the answer is the last one's. -/
def runProgram (scope : Scope R) : Program R → Frame → EngineAction R (Reading R)
  | .nil, _ => pure .nothing
  | .cons instruction .nil, frame => runInstruction scope instruction frame
  | .cons instruction (.cons next rest), frame => do
    let _ ← runInstruction scope instruction frame
    runProgram scope (.cons next rest) frame

end

/-- How deep operations that are known by name may run inside each other. -/
def depthLimit : Nat := 1000

/-- The scope of definitions, down to a depth. -/
def scopeWithin (definitions : Definitions R) : (depth : Nat) → Scope R
  | 0 => ⟨Blueprint.build definitions, fun _ _ => Action.fail .endlessRecursion⟩
  | depth + 1 =>
    ⟨Blueprint.build definitions, fun operation qubits =>
      runBody (scopeWithin definitions depth) operation qubits⟩

/-- The scope of the definitions that an engine knows. -/
def scope (engine : Engine R) : Scope R := scopeWithin engine.definitions depthLimit

/-- Apply an operation to as many qubits as it acts on. -/
def apply (operation : Operation R) (qubits : List Int) : EngineAction R Unit := do
  Action.ofExcept (checkArity operation qubits)
  let scope ← Action.inspect scope
  runBody scope operation qubits

/-- Carry a program out. -/
def execute (program : Program R) (frame : Frame) : EngineAction R (Reading R) := do
  let scope ← Action.inspect scope
  runProgram scope program frame

end Engine

end QuantumKata
