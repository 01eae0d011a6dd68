import QuantumKata.Engine
import QuantumKata.Workshop

/-!
# Running parts

A part is run in the workshop it stands in: what a body mentions is built there when the instruction
runs, so that it means what the names stand for at that moment, and what is built remembers its
adjoint from then on.  Running changes the workshop and the engine together.

A part may be used inside itself, as long as it does not run itself without end.
-/

namespace QuantumKata

/-- Work with an engine in the workshop. -/
abbrev RunAction (R α : Type) : Type := Action (Workshop R × Engine R) α

namespace Workshop

variable {R α : Type} [Scalar R]

/-- Change the engine for the duration of a block. -/
def during (enter : Engine R → Engine R) (leave : (before after : Engine R) → Engine R)
    (block : RunAction R α) : RunAction R α :=
  Action.during (fun (workshop, engine) => (workshop, enter engine))
    (fun before after => (after.1, leave before.2 after.2)) block

/-- Record the gates of a block. -/
def record (block : RunAction R α) : RunAction R (List (TapeEntry R)) :=
  during Engine.pushTape Engine.popTape do
    let _ ← block
    Action.inspect fun (_, engine) => engine.topmostEntries

/-- Refuse to run a part on the wrong number of qubits. -/
def checkArity (id : PartId) (qubits : List Int) : RunAction R Unit := do
  let found ← Action.onFirst (look id)
  if (qubits.length : Int) ≠ found.numQubits then
    Action.fail (.operationArity found.name found.numQubits qubits.length)

mutual

/-- Run an instruction, given how parts are run. -/
def runInstruction (call : PartId → List Int → RunAction R Unit) :
    InstructionPlan R → Frame → RunAction R (Reading R)
  | .apply wanted described controls references, frame => do
    let made ← Action.onFirst (build described)
    let qubits ← Action.ofExcept (frame.resolveAll (controls ++ references))
    let chosen ← Action.onFirst (variant made wanted controls.length)
    checkArity chosen qubits
    call chosen qubits
    return .nothing
  | .controlledBy references block, frame => do
    let controls ← Action.ofExcept (frame.resolveAll references)
    during (Engine.pushControls controls) Engine.popControls (runBody call block frame)
  | .restrictedTo profile block, frame =>
    during (Engine.enterProfile profile) Engine.leaveProfile (runBody call block frame)
  | .record block, frame => do
    let entries ← record (runBody call block frame)
    return .tape entries
  | .recordAndUndo block, frame => do
    let entries ← record (runBody call block frame)
    Action.onSecond (Engine.undoTape entries)
    return .tape entries
  | .ifMeasured reference block, frame => do
    let qubit ← Action.ofExcept (frame.resolve reference)
    let bit ← Action.onSecond (Engine.measure qubit)
    if bit then
      let _ ← runBody call block frame
      return .bit bit
    else return .bit bit
  | other, frame =>
    Action.onSecond (Engine.execute (.cons (Blueprint.buildInstruction other) .nil) frame)

/-- Run instructions one after the other; the answer is the last one's. -/
def runBody (call : PartId → List Int → RunAction R Unit) :
    InstructionPlans R → Frame → RunAction R (Reading R)
  | .nil, _ => pure .nothing
  | .cons instruction .nil, frame => runInstruction call instruction frame
  | .cons instruction (.cons next rest), frame => do
    let _ ← runInstruction call instruction frame
    runBody call (.cons next rest) frame

end

/-- Run the steps of a circuit on the qubits at their places. -/
def runSteps (call : PartId → List Int → RunAction R Unit) (qubits : List Int) :
    List (PartId × List Int) → RunAction R Unit
  | [] => pure ()
  | (step, places) :: rest => do
    let chosen ← Action.ofExcept (Engine.pick qubits places)
    checkArity step chosen
    call step chosen
    runSteps call qubits rest

/-- Run a part; the depth bounds how far parts may run inside each other. -/
def runWithin : (depth : Nat) → PartId → List Int → RunAction R Unit
  | 0, _, _ => Action.fail .endlessRecursion
  | depth + 1, id, qubits => do
    let call := runWithin depth
    let found ← Action.onFirst (look id)
    match found.shape with
    | .gate primitive => Action.onSecond (Engine.gate primitive qubits)
    | .circuit steps => runSteps call qubits steps
    | .phaseShifted inner angle =>
      call inner qubits
      Action.onSecond (Engine.gate (.globalPhase angle.value) [])
    | .controlled inner count =>
      let (controls, targets) := Engine.splitAt count qubits
      during (Engine.pushControls controls) Engine.popControls (call inner targets)
    | .derivedAdjoint inner =>
      let entries ← record (call inner qubits)
      Action.onSecond (Engine.undoTape entries)
    | .routine body _ =>
      let _ ← runBody call body (.given qubits)

/-- Apply a part to as many qubits as it acts on. -/
def apply (id : PartId) (qubits : List Int) : RunAction R Unit := do
  checkArity id qubits
  runWithin depthLimit id qubits

/-- Work with an engine and give it back. -/
def withEngine (engine : Engine R) (block : RunAction R Unit) : WorkshopAction R (Engine R) :=
  fun workshop =>
    let (outcome, after, left) := block (workshop, engine)
    (outcome.map fun _ => left, after)

end Workshop

end QuantumKata
