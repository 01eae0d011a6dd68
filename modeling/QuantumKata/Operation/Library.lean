import QuantumKata.Operation.Variants

/-!
# The library of operations

Operations that exercises and submissions are built from.  The constants are gates and the three
usual control wrappers; the rest are rotations by an angle, the identity on any number of qubits
and the preparation of an entangled pair.
-/

namespace QuantumKata

/-- The operation that a constant stands for. -/
def LibraryConstant.operation {R : Type} : LibraryConstant → Operation R
  | .fixed gate => .gate (.fixed gate) gate.name
  | .cnot => .controlled (.gate (.fixed .x) "X") 1 "CNOT"
  | .cz => .controlled (.gate (.fixed .z) "Z") 1 "CZ"
  | .ccnot => .controlled (.gate (.fixed .x) "X") 2 "CCNOT"

namespace Operation

variable {R : Type} [Scalar R]

/-- A rotation of one qubit. -/
def rotation (axis : Rotation) (angle : R) : Operation R := ofGate (.rotation axis angle) none

/-- The gate with the given matrix. -/
def ofTensor (tensor : Tensor R) (name : String) : Except Fault (Operation R) :=
  (Gate.ofTensor tensor name Scalar.defaultTolerance).map fun primitive =>
    ofGate primitive (some name)

/-- The name of the identity on a number of qubits. -/
def identityName (numQubits : Int) : String := "I[" ++ Decimal.integer numQubits ++ "]"

/-- The operation that does nothing. -/
def identity (numQubits : Int) : Except Fault (Operation R) :=
  circuitOf numQubits (identityName numQubits)
    ((List.range numQubits.toNat).map fun (qubit : Nat) =>
      (LibraryConstant.operation (.fixed .i), [(qubit : Int)]))

/-- The preparation of an entangled pair. -/
def bellPair : Operation R :=
  .circuit 2 "bell_pair"
    (.cons (LibraryConstant.operation (.fixed .h)) [0]
      (.cons (LibraryConstant.operation .cnot) [0, 1] .nil))

/-- The preparation of an even superposition of both basis states. -/
def plusState : Operation R :=
  .circuit 1 "prepare_plus" (.cons (LibraryConstant.operation (.fixed .h)) [0] .nil)

/-- The preparation of three entangled qubits. -/
def ghzState : Operation R :=
  .circuit 3 "ghz_state"
    (.cons (LibraryConstant.operation (.fixed .h)) [0]
      (.cons (LibraryConstant.operation .cnot) [0, 1]
        (.cons (LibraryConstant.operation .cnot) [1, 2] .nil)))

/-- A controlled negation with its control and target exchanged. -/
def reversedCnot : Operation R :=
  .circuit 2 "reversed_cnot" (.cons (LibraryConstant.operation .cnot) [1, 0] .nil)

/-- A swap under a control. -/
def controlledSwap : Operation R :=
  .controlled (LibraryConstant.operation (.fixed .swap)) 1 (controlledName 1 "SWAP")

end Operation

/-- The references of the built-in exercises, under the names of the exercises. -/
def builtinReferences {R : Type} [Scalar R] : List (String × Operation R) :=
  [("flip_qubit", LibraryConstant.operation (.fixed .x)),
    ("basis_change", LibraryConstant.operation (.fixed .h)),
    ("sign_flip", LibraryConstant.operation (.fixed .z)),
    ("amplitude_change",
      Operation.rotation .ry (Scalar.two * Scalar.pi / Scalar.ofNat 3)),
    ("bell_state", Operation.bellPair),
    ("two_qubit_gate_reversed", Operation.reversedCnot),
    ("ghz_state", Operation.ghzState),
    ("toffoli", LibraryConstant.operation .ccnot),
    ("fredkin", Operation.controlledSwap)]

end QuantumKata
