import QuantumKata.Action
import QuantumKata.Blueprint.Build

/-!
# The workshop

In the workshop operations are objects with an identity: a part is put together from other parts,
can be used in several places, and a circuit or a routine can still be changed after it has been
used.  The parts are kept in a store that only grows; a part's place in it is its identity.

Every part remembers its adjoint once that has been asked for, and the adjoint remembers the part it
belongs to.  Changing a part forgets its own adjoint, but not the adjoints of the parts it is used
in, and not what its former adjoint remembers.  Likewise a part's capabilities are settled when it
is made; later changes of its own parts do not reach them.

The library constants exist once.  A name stands for the part that got it last.
-/

namespace QuantumKata

/-- The identity of a part: its place in the store. -/
abbrev PartId : Type := Nat

/-- What a part is put together from. -/
inductive PartShape (R : Type) where
  | gate (primitive : Gate R)
  | circuit (steps : List (PartId × List Int))
  | phaseShifted (inner : PartId) (angle : PhaseAngle R)
  | controlled (inner : PartId) (count : Int)
  | derivedAdjoint (inner : PartId)
  | routine (body : InstructionPlans R) (inverse : InversePlan R)

namespace PartShape

/-- The word for the kind of a part. -/
def kindWord {R : Type} : PartShape R → String
  | gate _ => "GateOperation"
  | circuit _ => "Circuit"
  | phaseShifted _ _ => "PhaseShifted"
  | controlled _ _ => "ControlledOperation"
  | derivedAdjoint _ => "AdjointOperation"
  | routine _ _ => "CallableOperation"

end PartShape

/-- A part. -/
structure Part (R : Type) where
  shape : PartShape R
  name : String
  numQubits : Int
  capabilities : Capabilities
  adjoint : Option PartId := none

instance {R : Type} : Inhabited (Part R) := ⟨⟨.circuit [], "", 0, .all, none⟩⟩

namespace Part

variable {R : Type}

/-- The text that shows a part. -/
def text (part : Part R) : String :=
  part.shape.kindWord ++ "(name=" ++ Text.quoted part.name ++ ", num_qubits=" ++
    Decimal.integer part.numQubits ++ ")"

/-- The number of steps, for circuits. -/
def length? (part : Part R) : Option Nat :=
  match part.shape with
  | .circuit steps => some steps.length
  | _ => none

end Part

/-- The store of parts, the constants that have been made, and the names given to parts. -/
structure Workshop (R : Type) where
  parts : Array (Part R) := #[]
  constants : List (LibraryConstant × PartId) := []
  names : List (String × PartId) := []

/-- Work in the workshop. -/
abbrev WorkshopAction (R α : Type) : Type := Action (Workshop R) α

namespace Workshop

variable {R : Type}

/-- The part at a place. -/
def part (workshop : Workshop R) (id : PartId) : Part R := workshop.parts.getD id default

/-- Put a new part into the store. -/
def add (made : Part R) : WorkshopAction R PartId := fun workshop =>
  (.ok workshop.parts.size, { workshop with parts := workshop.parts.push made })

/-- Change a part. -/
def change (id : PartId) (next : Part R → Part R) : WorkshopAction R Unit :=
  Action.update fun workshop => { workshop with parts := workshop.parts.modify id next }

/-- Look at a part. -/
def look (id : PartId) : WorkshopAction R (Part R) :=
  Action.inspect fun workshop => workshop.part id

/-- Give a part a name. -/
def giveName (name : String) (id : PartId) : WorkshopAction R Unit :=
  Action.update fun workshop => { workshop with names := (name, id) :: workshop.names }

/-- The part of a name. -/
def find (name : String) : WorkshopAction R PartId := fun workshop =>
  match workshop.names.lookup name with
  | some id => (.ok id, workshop)
  | none => (.error (.raised .key [.text name]), workshop)

/-- The gate that a constant wraps, if it is a control wrapper, with the number of controls. -/
def wrappedBy : LibraryConstant → Option (FixedGate × Int)
  | .fixed _ => none
  | .cnot => some (.x, 1)
  | .cz => some (.z, 1)
  | .ccnot => some (.x, 2)

/-- The gate of a constant, made on first use. -/
def fixedConstant (gate : FixedGate) : WorkshopAction R PartId := do
  let known ← Action.inspect fun workshop => workshop.constants.lookup (.fixed gate)
  match known with
  | some id => return id
  | none =>
    let id ← add ⟨.gate (.fixed gate), gate.name, gate.numQubits, .all, none⟩
    Action.update fun workshop =>
      { workshop with constants := (.fixed gate, id) :: workshop.constants }
    return id

/-- The part of a constant, made on first use. -/
def constant (given : LibraryConstant) : WorkshopAction R PartId := do
  let known ← Action.inspect fun workshop => workshop.constants.lookup given
  match known with
  | some id => return id
  | none =>
    match given with
    | .fixed gate => fixedConstant gate
    | other =>
      let (gate, count) := (wrappedBy other).getD (.x, 1)
      let inner ← fixedConstant gate
      let id ← add ⟨.controlled inner count, other.name, gate.numQubits + count, .all, none⟩
      Action.update fun workshop => { workshop with constants := (given, id) :: workshop.constants }
      return id

variable [Scalar R]

/-- Make a control wrapper. -/
def controlWrapper (inner : PartId) (count : Int) (name : Option String) :
    WorkshopAction R PartId := do
  let wrapped ← look inner
  let given := name.getD (Operation.controlledName count wrapped.name)
  if wrapped.numQubits + count < 0 then Action.fail (.negativeArity given)
  add ⟨.controlled inner count, given, wrapped.numQubits + count,
    wrapped.capabilities.withControlled, none⟩

/-- Make a phase shift. -/
def phaseShift (inner : PartId) (angle : PhaseAngle R) : WorkshopAction R PartId := do
  let wrapped ← look inner
  add ⟨.phaseShifted inner angle, wrapped.name ++ "·e^(i" ++ angle.text ++ ")",
    wrapped.numQubits, wrapped.capabilities, none⟩

/-- Make an empty circuit. -/
def emptyCircuit (numQubits : Int) (name : String) : WorkshopAction R PartId :=
  if numQubits < 0 then Action.fail (.negativeArity name)
  else add ⟨.circuit [], name, numQubits, .all, none⟩

/-- Append a step to a circuit, which forgets its adjoint. -/
def addStep (circuit step : PartId) (qubits : List Int) : WorkshopAction R Unit := do
  let whole ← look circuit
  let added ← look step
  match whole.shape with
  | .circuit steps =>
    if (qubits.length : Int) ≠ added.numQubits then
      Action.fail (.operationArity added.name added.numQubits qubits.length)
    if Operation.areDistinctBelow whole.numQubits qubits then
      change circuit fun part => { part with
        shape := .circuit (steps ++ [(step, qubits)])
        capabilities := part.capabilities.common added.capabilities
        adjoint := none }
    else Action.fail (.circuitQubits qubits whole.numQubits)
  | _ => Action.fail (.wrongMember "only circuits take steps")

/-- Write the inverse of a routine by hand; the routine forgets its adjoint. -/
def defineAdjoint (id : PartId) (body : InstructionPlans R) : WorkshopAction R Unit := do
  let found ← look id
  match found.shape with
  | .routine forward _ =>
    change id fun part => { part with shape := .routine forward (.written body), adjoint := none }
  | _ => Action.fail (.wrongMember "only routines have hand-written inverses")

/-- Make the variant with control qubits. -/
def controlledBy (id : PartId) (count : Int) : WorkshopAction R PartId := do
  let found ← look id
  match found.shape with
  | .controlled inner already =>
    if count < 1 then Action.fail .noControlQubit
    controlWrapper inner (already + count) none
  | _ =>
    if !found.capabilities.controlled then Action.fail (.noControlled found.name)
    if count < 1 then Action.fail .noControlQubit
    controlWrapper id count none

/-- Append the adjoints of steps, given latest first, to a circuit. -/
def addAdjointSteps (adjoint : PartId → WorkshopAction R PartId) (inverse : PartId) :
    List (PartId × List Int) → WorkshopAction R Unit
  | [] => pure ()
  | (step, qubits) :: earlier => do
    let undone ← adjoint step
    addStep inverse undone qubits
    addAdjointSteps adjoint inverse earlier

/-- Make the adjoint of a part, given how to take the adjoint of the parts it is made from. -/
def makeAdjoint (adjoint : PartId → WorkshopAction R PartId) (id : PartId) :
    WorkshopAction R PartId := do
  let found ← look id
  match found.shape with
  | .gate primitive =>
    if primitive.isSelfAdjoint then return id
    else
      let inverse ← Action.ofExcept primitive.adjoint
      add ⟨.gate inverse, inverse.text, inverse.numQubits, .all, none⟩
  | .circuit steps =>
    let inverse ← emptyCircuit found.numQubits (Operation.adjointName found.name)
    addAdjointSteps adjoint inverse steps.reverse
    return inverse
  | .phaseShifted inner angle =>
    let undone ← adjoint inner
    phaseShift undone angle.opposite
  | .controlled inner count =>
    let undone ← adjoint inner
    controlWrapper undone count none
  | .derivedAdjoint inner => return inner
  | .routine _ inverse =>
    match inverse with
    | .absent =>
      add ⟨.derivedAdjoint id, Operation.adjointName found.name, found.numQubits,
        found.capabilities, some id⟩
    | .written body =>
      add ⟨.routine body .absent, Operation.adjointName found.name, found.numQubits,
        found.capabilities, none⟩

/-- The adjoint of a part: the one it remembers, or a new one, which is then remembered on both
sides. -/
def adjointWithin : (fuel : Nat) → PartId → WorkshopAction R PartId
  | 0, _ => Action.fail .endlessRecursion
  | fuel + 1, id => do
    let found ← look id
    if !found.capabilities.adjoint then Action.fail (.noAdjoint found.name)
    match found.adjoint with
    | some known => return known
    | none =>
      let inverse ← makeAdjoint (adjointWithin fuel) id
      if inverse ≠ id then change inverse fun part => { part with adjoint := some id }
      change id fun part => { part with adjoint := some inverse }
      return inverse

/-- How deeply parts may be nested. -/
def depthLimit : Nat := 1000

/-- The adjoint of a part. -/
def adjoint (id : PartId) : WorkshopAction R PartId := adjointWithin depthLimit id

/-- Make the identity on a number of qubits. -/
def addIdentitySteps (circuit : PartId) : List Nat → WorkshopAction R Unit
  | [] => pure ()
  | qubit :: rest => do
    let step ← constant (.fixed .i)
    addStep circuit step [(qubit : Int)]
    addIdentitySteps circuit rest

mutual

/-- Make a described part. -/
def build : Blueprint R → WorkshopAction R PartId
  | .constant given => constant given
  | .rotation axis angle => do
    let primitive : Gate R := .rotation axis angle
    add ⟨.gate primitive, primitive.text, primitive.numQubits, .all, none⟩
  | .gate gateName angles name => do
    let primitive ← Action.ofExcept (Gate.named gateName angles)
    add ⟨.gate primitive, (Operation.ofGate primitive name).name, primitive.numQubits, .all, none⟩
  | .unitary matrix name => do
    let tensor ← Action.ofExcept matrix.build
    let given := name.getD Gate.defaultCustomName
    let primitive ← Action.ofExcept (Gate.ofTensor tensor given Scalar.defaultTolerance)
    add ⟨.gate primitive, (Operation.ofGate primitive (some given)).name, primitive.numQubits, .all,
      none⟩
  | .identity numQubits => do
    let circuit ← emptyCircuit numQubits (Operation.identityName numQubits)
    addIdentitySteps circuit (List.range numQubits.toNat)
    return circuit
  | .bellPair => do
    let circuit ← emptyCircuit 2 "bell_pair"
    let first ← constant (.fixed .h)
    addStep circuit first [0]
    let second ← constant .cnot
    addStep circuit second [0, 1]
    return circuit
  | .circuit numQubits name steps => do
    let circuit ← emptyCircuit numQubits (Blueprint.circuitName name)
    buildSteps circuit steps
    return circuit
  | .routine numQubits name adjoint controlled body inverse =>
    let given := Blueprint.routineName name
    if numQubits < 0 then Action.fail (.negativeArity given)
    else add ⟨.routine body inverse, given, numQubits, ⟨adjoint, controlled⟩, none⟩
  | .phaseShifted inner angle => do
    let made ← build inner
    phaseShift made angle
  | .adjointOf inner => do
    let made ← build inner
    adjoint made
  | .controlledOf inner count => do
    let made ← build inner
    controlledBy made count
  | .controlWrapper inner count name => do
    let made ← build inner
    controlWrapper made count name
  | .reference name => find name
  | .failing fault => Action.fail fault

/-- Append described steps to a circuit. -/
def buildSteps (circuit : PartId) : StepPlans R → WorkshopAction R Unit
  | .nil => pure ()
  | .cons operation qubits rest => do
    let made ← build operation
    addStep circuit made qubits
    buildSteps circuit rest

end

/-- Make described parts one after the other and name each of them. -/
def define : List (String × Blueprint R) → WorkshopAction R Unit
  | [] => pure ()
  | (name, described) :: rest => do
    let made ← build described
    giveName name made
    define rest

/-- A variant of a part, where the controlled ones have the given number of control qubits. -/
def variant (id : PartId) (wanted : Variant) (count : Nat) : WorkshopAction R PartId :=
  match wanted with
  | .itself => pure id
  | .adjoint => adjoint id
  | .controlled => controlledBy id count
  | .controlledAdjoint => do
    let undone ← adjoint id
    controlledBy undone count

end Workshop

end QuantumKata
