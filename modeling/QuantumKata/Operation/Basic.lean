import QuantumKata.Blueprint

/-!
# Operations

An operation is what a submission or a reference is expressed as: a tree built from gates,
circuits, phase shifts, control wrappers and routines.  A routine has a body, a list of
instructions that are run one after the other; an instruction may apply further operations, run a
block under controls or under a profile, or record a block on a tape.  An operation that a body
knows by its name only is a description until the instruction runs.

An operation *supports* the adjoint, the controlled variant, both or neither.  Routines declare what
they support; a circuit supports what all of its steps support; the other kinds inherit it from the
operation they wrap, where a control wrapper can always be controlled further.

A `linked` operation acts as its core and remembers the operation it is the adjoint of, so that
taking the adjoint twice leads back to the same operation.
-/

namespace QuantumKata

/-- The variants that an operation supports. -/
structure Capabilities where
  adjoint : Bool
  controlled : Bool
  deriving DecidableEq, Repr, Inhabited

namespace Capabilities

/-- Both variants. -/
def all : Capabilities := ⟨true, true⟩

/-- The variants that two operations both support. -/
def common (left right : Capabilities) : Capabilities :=
  ⟨left.adjoint && right.adjoint, left.controlled && right.controlled⟩

/-- The same variants and the controlled one. -/
def withControlled (capabilities : Capabilities) : Capabilities :=
  { capabilities with controlled := true }

/-- Whether all of the wanted variants are supported. -/
def includes (capabilities wanted : Capabilities) : Bool :=
  (capabilities.adjoint || !wanted.adjoint) && (capabilities.controlled || !wanted.controlled)

end Capabilities

mutual

/-- An operation over a fixed number of qubits. -/
inductive Operation (R : Type) where
  /-- A single gate. -/
  | gate (gate : Gate R) (name : String)
  /-- Steps on subsets of the circuit's qubits, one after the other. -/
  | circuit (numQubits : Int) (name : String) (steps : Steps R)
  /-- An operation followed by a global phase. -/
  | phaseShifted (inner : Operation R) (angle : PhaseAngle R)
  /-- An operation that takes effect where its leading qubits all read one. -/
  | controlled (inner : Operation R) (count : Int) (name : String)
  /-- The inverse of an operation, which records it and plays the tape backwards. -/
  | derivedAdjoint (inner : Operation R)
  /-- A body of instructions. -/
  | routine (numQubits : Int) (name : String) (capabilities : Capabilities) (body : Program R)
      (undo : Undo R)
  /-- An operation together with the operation it is the adjoint of. -/
  | linked (core partner : Operation R)

/-- The steps of a circuit. -/
inductive Steps (R : Type) where
  | nil
  | cons (operation : Operation R) (qubits : List Int) (rest : Steps R)

/-- The way a routine is undone: by playing its tape backwards, or by a body written by hand. -/
inductive Undo (R : Type) where
  | derived
  | written (body : Program R)

/-- An instruction of a body. -/
inductive Instruction (R : Type) where
  | primitive (gate : Gate R) (targets : List QubitRef)
  /-- A gate given by its matrix, which is looked at when the instruction is run. -/
  | unitary (tensor : Tensor R) (name : String) (targets : List QubitRef)
  | apply (operation : Operation R) (qubits : List QubitRef)
  /-- Apply a variant of a described operation that is built when the instruction runs. -/
  | applyNamed (variant : Variant) (described : Blueprint R) (controls qubits : List QubitRef)
  /-- An instruction that fails as soon as its qubits are known. -/
  | refused (qubits : List QubitRef) (fault : Fault)
  | measure (qubit : QubitRef)
  | reset (qubit : QubitRef)
  | controlledBy (controls : List QubitRef) (block : Program R)
  | restrictedTo (profile : TargetProfile) (block : Program R)
  /-- Record the gates of a block instead of applying them. -/
  | record (block : Program R)
  /-- Record a block, and play the tape backwards afterwards. -/
  | recordAndUndo (block : Program R)
  /-- Measure a qubit, and run the block when it reads one. -/
  | ifMeasured (qubit : QubitRef) (block : Program R)
  /-- Let time pass. -/
  | sleep (seconds : R)

/-- A list of instructions. -/
inductive Program (R : Type) where
  | nil
  | cons (instruction : Instruction R) (rest : Program R)

end

namespace Program

variable {R : Type}

/-- The program of the listed instructions. -/
def ofList : List (Instruction R) → Program R
  | [] => nil
  | instruction :: rest => cons instruction (ofList rest)

end Program

namespace Steps

variable {R : Type}

/-- The steps as a list. -/
def toList : Steps R → List (Operation R × List Int)
  | nil => []
  | cons operation qubits rest => (operation, qubits) :: toList rest

/-- The listed steps. -/
def ofList : List (Operation R × List Int) → Steps R
  | [] => nil
  | (operation, qubits) :: rest => cons operation qubits (ofList rest)

@[simp]
theorem toList_ofList (listed : List (Operation R × List Int)) :
    (ofList listed).toList = listed := by
  induction listed with
  | nil => rfl
  | cons step rest ih => simp [ofList, toList, ih]

/-- Steps after other steps. -/
def append : Steps R → Steps R → Steps R
  | nil, later => later
  | cons operation qubits rest, later => cons operation qubits (append rest later)

@[simp]
theorem toList_append : ∀ earlier later : Steps R,
    (earlier.append later).toList = earlier.toList ++ later.toList
  | nil, _ => rfl
  | cons _ _ rest, later => by simp [append, toList, toList_append rest later]

end Steps

namespace Operation

variable {R : Type}

/-- The name of the controlled variant of an operation. -/
def controlledName (count : Int) (inner : String) : String :=
  (if count = 1 then "Controlled" else "Controlled[" ++ Decimal.integer count ++ "]") ++
    " " ++ inner

/-- What stands before the name of an operation in the name of its adjoint. -/
def adjointName (name : String) : String := "Adjoint " ++ name

/-- The number of qubits an operation acts on. -/
def numQubits : Operation R → Int
  | gate primitive _ => primitive.numQubits
  | circuit numQubits _ _ => numQubits
  | phaseShifted inner _ => inner.numQubits
  | controlled inner count _ => inner.numQubits + count
  | derivedAdjoint inner => inner.numQubits
  | routine numQubits _ _ _ _ => numQubits
  | linked core _ => core.numQubits

mutual

/-- The variants that an operation supports. -/
def capabilities : Operation R → Capabilities
  | gate _ _ => .all
  | circuit _ _ steps => stepsCapabilities steps
  | phaseShifted inner _ => capabilities inner
  | controlled inner _ _ => (capabilities inner).withControlled
  | derivedAdjoint inner => capabilities inner
  | routine _ _ declared _ _ => declared
  | linked core _ => capabilities core

/-- The variants that all steps support. -/
def stepsCapabilities : Steps R → Capabilities
  | .nil => .all
  | .cons operation _ rest => (capabilities operation).common (stepsCapabilities rest)

end

/-- The number of steps, for circuits. -/
def length? : Operation R → Option Nat
  | circuit _ _ steps => some steps.toList.length
  | linked core _ => core.length?
  | _ => none

/-- The word for the kind of an operation. -/
def kindWord : Operation R → String
  | gate _ _ => "GateOperation"
  | circuit _ _ _ => "Circuit"
  | phaseShifted _ _ => "PhaseShifted"
  | controlled _ _ _ => "ControlledOperation"
  | derivedAdjoint _ => "AdjointOperation"
  | routine _ _ _ _ _ => "CallableOperation"
  | linked core _ => core.kindWord

variable [Scalar R]

/-- The name of an operation. -/
def name : Operation R → String
  | gate _ name => name
  | circuit _ name _ => name
  | phaseShifted inner angle => inner.name ++ "·e^(i" ++ angle.text ++ ")"
  | controlled _ _ name => name
  | derivedAdjoint inner => adjointName inner.name
  | routine _ name _ _ _ => name
  | linked core _ => core.name

/-- The text that shows an operation. -/
def text (operation : Operation R) : String :=
  operation.kindWord ++ "(name=" ++ Text.quoted operation.name ++ ", num_qubits=" ++
    Decimal.integer operation.numQubits ++ ")"

end Operation

end QuantumKata
