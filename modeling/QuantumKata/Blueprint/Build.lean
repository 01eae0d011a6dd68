import QuantumKata.Operation.Library

/-!
# Building operations

Building carries a blueprint out and fails where a part cannot be built.  The names that it calls on
are looked up among definitions.

The instructions of a body are built together with their routine as far as no name is called on: a
part that cannot be built becomes an instruction that fails.  What calls on a name is kept as it is
described and is built when the instruction runs, so that a routine can mention operations that are
defined after it, and itself.
-/

namespace QuantumKata

namespace MatrixPlan

variable {R : Type} [Scalar R]

/-- The described matrix. -/
def build : MatrixPlan R → Except Fault (Tensor R)
  | entries tensor => .ok tensor
  | ofGate name angles => (Gate.named name angles).map fun gate => .ofMatrix gate.matrix

end MatrixPlan

/-- The operations that have been defined, by name; the latest definition of a name counts. -/
structure Definitions (R : Type) where
  entries : List (String × Operation R) := []

namespace Definitions

variable {R : Type}

/-- Define a name. -/
def insert (definitions : Definitions R) (name : String) (operation : Operation R) :
    Definitions R :=
  ⟨(name, operation) :: definitions.entries⟩

/-- The operation under a name. -/
def find (definitions : Definitions R) (name : String) : Except Fault (Operation R) :=
  match definitions.entries.lookup name with
  | some operation => .ok operation
  | none => .error (.raised .key [.text name])

end Definitions

namespace Blueprint

variable {R : Type}

/-- The name of a routine that has none of its own. -/
def routineName : Option String → String
  | some given => if given.isEmpty then "body" else given
  | none => "body"

/-- The name of a circuit that has none of its own. -/
def circuitName (name : Option String) : String := name.getD "circuit"

variable [Scalar R]

/-- An instruction that applies a variant of an operation, if it could be built.  The operation is
built before the qubits are looked at, the variant after. -/
def applying (variant : Variant) (controls qubits : List QubitRef) :
    Except Fault (Operation R) → Instruction R
  | .error fault => .refused [] fault
  | .ok operation =>
    match operation.variant variant controls.length with
    | .ok chosen => .apply chosen (controls ++ qubits)
    | .error fault => .refused (controls ++ qubits) fault

mutual

/-- Build a described operation. -/
def build (definitions : Definitions R) : Blueprint R → Except Fault (Operation R)
  | constant given => .ok given.operation
  | rotation axis angle => .ok (Operation.rotation axis angle)
  | gate gateName angles name => (Gate.named gateName angles).map fun built => .ofGate built name
  | unitary matrix name => do
    let tensor ← matrix.build
    Operation.ofTensor tensor (name.getD Gate.defaultCustomName)
  | identity numQubits => Operation.identity numQubits
  | bellPair => .ok Operation.bellPair
  | circuit numQubits name steps => do
    let start ← Operation.emptyCircuit numQubits (circuitName name)
    buildSteps definitions start steps
  | routine numQubits name adjoint controlled body inverse =>
    Operation.routineOf numQubits (routineName name) ⟨adjoint, controlled⟩
      (buildBody body) (buildInverse inverse)
  | phaseShifted inner angle => do
    let built ← build definitions inner
    return .phaseShifted built angle
  | adjointOf inner => do
    let built ← build definitions inner
    built.adjoint
  | controlledOf inner count => do
    let built ← build definitions inner
    built.controlledBy count
  | controlWrapper inner count name => do
    let built ← build definitions inner
    Operation.controlWrapper built count name
  | reference name => definitions.find name
  | failing fault => .error fault

/-- Add described steps to a circuit, one after the other. -/
def buildSteps (definitions : Definitions R) (whole : Operation R) :
    StepPlans R → Except Fault (Operation R)
  | .nil => .ok whole
  | .cons operation qubits rest => do
    let built ← build definitions operation
    let extended ← Operation.addStep built qubits whole
    buildSteps definitions extended rest

/-- Build the hand-written inverse of a routine. -/
def buildInverse : InversePlan R → Undo R
  | .absent => .derived
  | .written body => .written (buildBody body)

/-- Build an instruction. -/
def buildInstruction : InstructionPlan R → Instruction R
  | .primitive built targets => .primitive built targets
  | .namedGate name angles targets =>
    match Gate.named name angles with
    | .ok built => .primitive built targets
    | .error fault => .refused [] fault
  | .unitary matrix targets name =>
    match matrix.build with
    | .ok tensor => .unitary tensor (name.getD Gate.defaultCustomName) targets
    | .error fault => .refused [] fault
  | .apply variant operation controls qubits =>
    if operation.callsOnNames then .applyNamed variant operation controls qubits
    else applying variant controls qubits (build {} operation)
  | .measure qubit => .measure qubit
  | .reset qubit => .reset qubit
  | .controlledBy controls block => .controlledBy controls (buildBody block)
  | .restrictedTo profile block => .restrictedTo profile (buildBody block)
  | .record block => .record (buildBody block)
  | .recordAndUndo block => .recordAndUndo (buildBody block)
  | .ifMeasured qubit block => .ifMeasured qubit (buildBody block)
  | .sleep seconds => .sleep seconds
  | .raise fault => .refused [] fault

/-- Build a body. -/
def buildBody : InstructionPlans R → Program R
  | .nil => .nil
  | .cons first rest => .cons (buildInstruction first) (buildBody rest)

end

/-- Build described operations one after the other and define each of them. -/
def define : (definitions : Definitions R) → List (String × Blueprint R) →
    Except Fault (Definitions R)
  | definitions, [] => .ok definitions
  | definitions, (name, described) :: rest => do
    let operation ← described.build definitions
    define (definitions.insert name operation) rest

/-- A library constant on qubits, as a step. -/
def step (given : LibraryConstant) (qubits : List Int) (rest : StepPlans R) : StepPlans R :=
  .cons (constant given) qubits rest

/-- The references of the built-in exercises, as descriptions. -/
def builtin : List (String × Blueprint R) :=
  [("flip_qubit", constant (.fixed .x)),
    ("basis_change", constant (.fixed .h)),
    ("sign_flip", constant (.fixed .z)),
    ("amplitude_change", rotation .ry (Scalar.two * Scalar.pi / Scalar.ofNat 3)),
    ("bell_state", bellPair),
    ("two_qubit_gate_reversed",
      circuit 2 (some "reversed_cnot") (step .cnot [1, 0] .nil)),
    ("ghz_state",
      circuit 3 (some "ghz_state")
        (step (.fixed .h) [0] (step .cnot [0, 1] (step .cnot [1, 2] .nil)))),
    ("toffoli", constant .ccnot),
    ("fredkin", controlledOf (constant (.fixed .swap)) 1)]

/-- The description of the reference of a built-in exercise. -/
def ofExercise (exercise : String) : Blueprint R :=
  (builtin.lookup exercise).getD (failing (.unknownExercise exercise))

/-- The described references are the references. -/
theorem build_builtin :
    (builtin (R := R)).map (fun entry => (entry.1, build {} entry.2)) =
      builtinReferences.map fun entry => (entry.1, .ok entry.2) := rfl

end Blueprint

end QuantumKata
