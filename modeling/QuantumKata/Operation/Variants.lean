import QuantumKata.Operation.Basic

/-!
# Building operations and their variants

Circuits, control wrappers and routines are built by functions that check their parts.  The
*adjoint* of an operation undoes it; the *controlled* variant takes some control qubits before the
qubits of the operation.  Both refuse to build what the operation does not support, so that a
missing variant is noticed before anything runs.

The adjoint of a circuit reverses the adjoints of its steps, the adjoint of a phase shift negates
the angle, and the adjoint of a control wrapper is a wrapper around the adjoint.  A routine without
a hand-written inverse is undone by playing its tape backwards.  Controlling a controlled operation
adds up the control qubits.
-/

namespace QuantumKata.Operation

variable {R : Type}

/-- The operation without the memory of what it is the adjoint of. -/
def core : Operation R → Operation R
  | linked inner _ => inner.core
  | other => other

/-- Remember what an operation is the adjoint of. -/
def linkedTo (partner core : Operation R) : Operation R := linked core partner

variable [Scalar R]

/-- An empty circuit. -/
def emptyCircuit (numQubits : Int) (name : String) : Except Fault (Operation R) :=
  if numQubits < 0 then .error (.negativeArity name) else .ok (circuit numQubits name .nil)

/-- Whether qubits are distinct indices below a bound. -/
def areDistinctBelow (bound : Int) (qubits : List Int) : Bool :=
  decide qubits.Nodup && qubits.all fun qubit => decide (0 ≤ qubit ∧ qubit < bound)

/-- Check a step of a circuit: the number of qubits has to be the operation's, and they have to be
distinct qubits of the circuit. -/
def checkStep (circuitQubits : Int) (operation : Operation R) (qubits : List Int) :
    Except Fault Unit :=
  if (qubits.length : Int) ≠ operation.numQubits then
    .error (.operationArity operation.name operation.numQubits qubits.length)
  else if areDistinctBelow circuitQubits qubits then .ok ()
  else .error (.circuitQubits qubits circuitQubits)

/-- Append a step to a circuit. -/
def addStep (operation : Operation R) (qubits : List Int) : Operation R → Except Fault (Operation R)
  | circuit numQubits name steps =>
    (checkStep numQubits operation qubits).map fun _ =>
      circuit numQubits name (steps.append (.cons operation qubits .nil))
  | linked inner _ => addStep operation qubits inner
  | _ => .error (.wrongMember "only circuits take steps")

/-- A circuit with the listed steps. -/
def circuitOf (numQubits : Int) (name : String) (steps : List (Operation R × List Int)) :
    Except Fault (Operation R) := do
  let start ← emptyCircuit numQubits name
  steps.foldlM (fun whole (operation, qubits) => addStep operation qubits whole) start

/-- A control wrapper; without a name of its own it is named after what it wraps. -/
def controlWrapper (inner : Operation R) (count : Int) (name : Option String) :
    Except Fault (Operation R) :=
  let given := name.getD (controlledName count inner.name)
  if inner.numQubits + count < 0 then .error (.negativeArity given)
  else .ok (controlled inner count given)

/-- A routine. -/
def routineOf (numQubits : Int) (name : String) (declared : Capabilities) (body : Program R)
    (undo : Undo R) : Except Fault (Operation R) :=
  if numQubits < 0 then .error (.negativeArity name)
  else .ok (routine numQubits name declared body undo)

/-- The operation of a single gate; without a name of its own it is named after the gate. -/
def ofGate (primitive : Gate R) (name : Option String) : Operation R :=
  gate primitive (match name with
    | some given => if given.isEmpty then primitive.text else given
    | none => primitive.text)

mutual

/-- The operation that undoes an operation. -/
def adjoint : Operation R → Except Fault (Operation R)
  | linked inner partner => do
    unless (capabilities inner).adjoint do throw (.noAdjoint inner.name)
    return linked partner inner
  | gate primitive name =>
    if primitive.isSelfAdjoint then .ok (gate primitive name)
    else primitive.adjoint.map fun inverse =>
      linkedTo (gate primitive name) (gate inverse inverse.text)
  | circuit numQubits name steps => do
    unless (stepsCapabilities steps).adjoint do throw (.noAdjoint name)
    let reversed ← stepsAdjoint steps
    return linkedTo (circuit numQubits name steps) (circuit numQubits (adjointName name) reversed)
  | phaseShifted inner angle => do
    unless (capabilities inner).adjoint do
      throw (.noAdjoint (phaseShifted inner angle).name)
    let inverse ← adjoint inner
    return linkedTo (phaseShifted inner angle) (phaseShifted inverse angle.opposite)
  | controlled inner count name => do
    unless (capabilities inner).adjoint do throw (.noAdjoint name)
    let inverse ← adjoint inner
    return linkedTo (controlled inner count name)
      (controlled inverse count (controlledName count inverse.name))
  | derivedAdjoint inner => do
    unless (capabilities inner).adjoint do throw (.noAdjoint (adjointName inner.name))
    return inner
  | routine numQubits name declared body undo => do
    unless declared.adjoint do throw (.noAdjoint name)
    let whole := routine numQubits name declared body undo
    match undo with
    | .derived => return derivedAdjoint whole
    | .written inverse =>
      return linkedTo whole (routine numQubits (adjointName name) declared inverse .derived)

/-- The adjoints of steps in reverse order. -/
def stepsAdjoint : Steps R → Except Fault (Steps R)
  | .nil => .ok .nil
  | .cons operation qubits rest => do
    let later ← stepsAdjoint rest
    let first ← adjoint operation
    return later.append (.cons first qubits .nil)

end

attribute [grind =] adjoint stepsAdjoint

/-- The variant of an operation with `count` control qubits before its own. -/
def controlledBy (count : Int) (operation : Operation R) : Except Fault (Operation R) :=
  match operation.core with
  | controlled inner already _ =>
    if count < 1 then .error .noControlQubit
    else .ok (controlled inner (already + count) (controlledName (already + count) inner.name))
  | _ =>
    if operation.capabilities.controlled then
      if count < 1 then .error .noControlQubit
      else .ok (controlled operation count (controlledName count operation.name))
    else .error (.noControlled operation.name)

/-- A variant of an operation, where the controlled ones have the given number of control qubits. -/
def variant (operation : Operation R) (wanted : Variant) (count : Nat) :
    Except Fault (Operation R) :=
  match wanted with
  | .itself => .ok operation
  | .adjoint => operation.adjoint
  | .controlled => operation.controlledBy count
  | .controlledAdjoint => operation.adjoint >>= controlledBy count

end QuantumKata.Operation
