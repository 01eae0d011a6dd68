import QuantumKata.Operation.Constant
import QuantumKata.PhaseAngle
import QuantumKata.Profile

/-!
# Blueprints

A blueprint describes how an operation is put together: from library constants, named gates,
matrices, circuits, routines and the variants of other operations, some of which are referred to by
a name.  The instructions of a routine's body mention further blueprints.

A name stands for whatever is defined under it when it is looked up.  A description *calls on names*
if building it looks one up; the bodies of routines are not looked into when a routine is built.
-/

namespace QuantumKata

/-- A qubit as a body names it. -/
inductive QubitRef where
  /-- The qubit at a place in the list that the body was given. -/
  | given (place : Int)
  /-- A qubit of the register. -/
  | absolute (qubit : Int)
  /-- The qubit some places away from one that the body was given. -/
  | offset (place distance : Int)
  deriving DecidableEq, Repr

/-- The variants of an operation that can be applied. -/
inductive Variant where
  | itself
  | adjoint
  | controlled
  | controlledAdjoint
  deriving DecidableEq, Repr

/-- A matrix as it is described: entry by entry, or as the matrix of a named gate. -/
inductive MatrixPlan (R : Type) where
  | entries (tensor : Tensor R)
  | ofGate (name : String) (angles : List R)

mutual

/-- The description of an operation. -/
inductive Blueprint (R : Type) where
  | constant (given : LibraryConstant)
  | rotation (axis : Rotation) (angle : R)
  | gate (gateName : String) (angles : List R) (name : Option String)
  | unitary (matrix : MatrixPlan R) (name : Option String)
  | identity (numQubits : Int)
  | bellPair
  | circuit (numQubits : Int) (name : Option String) (steps : StepPlans R)
  | routine (numQubits : Int) (name : Option String) (adjoint controlled : Bool)
      (body : InstructionPlans R) (inverse : InversePlan R)
  | phaseShifted (inner : Blueprint R) (angle : PhaseAngle R)
  | adjointOf (inner : Blueprint R)
  | controlledOf (inner : Blueprint R) (count : Int)
  | controlWrapper (inner : Blueprint R) (count : Int) (name : Option String)
  | reference (name : String)
  /-- A description that cannot be carried out. -/
  | failing (fault : Fault)

/-- The steps of a described circuit. -/
inductive StepPlans (R : Type) where
  | nil
  | cons (operation : Blueprint R) (qubits : List Int) (rest : StepPlans R)

/-- The hand-written inverse of a described routine, if there is one. -/
inductive InversePlan (R : Type) where
  | absent
  | written (body : InstructionPlans R)

/-- The description of an instruction. -/
inductive InstructionPlan (R : Type) where
  | primitive (built : Gate R) (targets : List QubitRef)
  | namedGate (name : String) (angles : List R) (targets : List QubitRef)
  | unitary (matrix : MatrixPlan R) (targets : List QubitRef) (name : Option String)
  | apply (variant : Variant) (operation : Blueprint R) (controls qubits : List QubitRef)
  | measure (qubit : QubitRef)
  | reset (qubit : QubitRef)
  | controlledBy (controls : List QubitRef) (block : InstructionPlans R)
  | restrictedTo (profile : TargetProfile) (block : InstructionPlans R)
  | record (block : InstructionPlans R)
  | recordAndUndo (block : InstructionPlans R)
  | ifMeasured (qubit : QubitRef) (block : InstructionPlans R)
  | sleep (seconds : R)
  | raise (fault : Fault)

/-- The description of a body. -/
inductive InstructionPlans (R : Type) where
  | nil
  | cons (first : InstructionPlan R) (rest : InstructionPlans R)

end

instance {R : Type} : Inhabited (Blueprint R) := ⟨.bellPair⟩

instance {R : Type} : Inhabited (InstructionPlan R) := ⟨.raise .endlessRecursion⟩

instance {R : Type} : Inhabited (InstructionPlans R) := ⟨.nil⟩

namespace InstructionPlans

variable {R : Type}

/-- The listed instructions. -/
def ofList : List (InstructionPlan R) → InstructionPlans R
  | [] => nil
  | first :: rest => cons first (ofList rest)

/-- The instructions as a list. -/
def toList : InstructionPlans R → List (InstructionPlan R)
  | nil => []
  | cons first rest => first :: toList rest

end InstructionPlans

namespace StepPlans

variable {R : Type}

/-- The listed steps. -/
def ofList : List (Blueprint R × List Int) → StepPlans R
  | [] => nil
  | (operation, qubits) :: rest => cons operation qubits (ofList rest)

end StepPlans

namespace InstructionPlan

variable {R : Type}

/-- A gate without parameters. -/
def fixed (gate : FixedGate) (targets : List QubitRef) : InstructionPlan R :=
  primitive (.fixed gate) targets

/-- A gate without parameters where the controls read one. -/
def controlledGate (gate : FixedGate) (controls : List QubitRef) (target : QubitRef) :
    InstructionPlan R :=
  controlledBy controls (.cons (fixed gate [target]) .nil)

end InstructionPlan

namespace Blueprint

variable {R : Type}

mutual

/-- Whether building a description looks a name up. -/
def callsOnNames : Blueprint R → Bool
  | circuit _ _ steps => stepsCallOnNames steps
  | phaseShifted inner _ => callsOnNames inner
  | adjointOf inner => callsOnNames inner
  | controlledOf inner _ => callsOnNames inner
  | controlWrapper inner _ _ => callsOnNames inner
  | reference _ => true
  | _ => false

/-- Whether building described steps looks a name up. -/
def stepsCallOnNames : StepPlans R → Bool
  | .nil => false
  | .cons operation _ rest => callsOnNames operation || stepsCallOnNames rest

end

end Blueprint

end QuantumKata
