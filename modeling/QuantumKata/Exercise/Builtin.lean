import QuantumKata.Exercise.Catalog
import QuantumKata.Operation.Library

/-!
# Built-in exercises

A small collection: single-qubit gates, preparations of states, and gates under controls.
-/

namespace QuantumKata.Exercise

variable {R : Type} [Scalar R]

/-- An exercise whose candidate name is its own name. -/
def builtIn (name : String) (numQubits : Int) (reference : Operation R) (mode : EquivalenceMode)
    (preparer : Option (Operation R)) (description hint : String) (tags : List String) :
    Exercise R :=
  { name, numQubits, reference, preparer, mode, description, hint, candidateName := name, tags }

/-- Negation of a qubit. -/
def flipQubit : Exercise R :=
  builtIn "flip_qubit" 1 (LibraryConstant.operation (.fixed .x)) .operator none
    "Change |0⟩ to |1⟩ and |1⟩ to |0⟩." "A single Pauli gate does this."
    ["single-qubit", "basics"]

/-- Change between the computational and the diagonal basis. -/
def basisChange : Exercise R :=
  builtIn "basis_change" 1 (LibraryConstant.operation (.fixed .h)) .operator none
    "Map |0⟩ to |+⟩ and |1⟩ to |−⟩." "Think of the Hadamard gate."
    ["single-qubit", "basics"]

/-- Change of the relative sign. -/
def signFlip : Exercise R :=
  builtIn "sign_flip" 1 (LibraryConstant.operation (.fixed .z)) .state (some Operation.plusState)
    "Change |+⟩ to |−⟩." "Only the relative sign of |1⟩ changes."
    ["single-qubit", "phase"]

/-- Rotation of the amplitudes. -/
def amplitudeChange : Exercise R :=
  builtIn "amplitude_change" 1
    (Operation.rotation .ry (Scalar.two * Scalar.pi / Scalar.ofNat 3)) .operator none
    "Rotate |0⟩ to cos(π/3)|0⟩ + sin(π/3)|1⟩ and |1⟩ accordingly."
    "Use a Y rotation; remember rotation gates take twice the angle."
    ["single-qubit", "rotation"]

/-- Preparation of an entangled pair. -/
def bellState : Exercise R :=
  builtIn "bell_state" 2 Operation.bellPair .state none
    "Prepare (|00⟩ + |11⟩)/√2 from |00⟩."
    "Create a superposition on one qubit, then entangle."
    ["multi-qubit", "preparation"]

/-- A controlled negation whose control is the second qubit. -/
def twoQubitGateReversed : Exercise R :=
  builtIn "two_qubit_gate_reversed" 2 Operation.reversedCnot .operator none
    "Flip the first qubit when the second qubit is |1⟩."
    "The control and target are swapped compared to the usual CNOT."
    ["multi-qubit", "controlled"]

/-- Preparation of three entangled qubits. -/
def ghzState : Exercise R :=
  builtIn "ghz_state" 3 Operation.ghzState .state none
    "Prepare (|000⟩ + |111⟩)/√2 from |000⟩."
    "Extend the Bell state preparation by one more qubit."
    ["multi-qubit", "preparation"]

/-- A negation under two controls. -/
def toffoli : Exercise R :=
  builtIn "toffoli" 3 (LibraryConstant.operation .ccnot) .operator none
    "Flip the third qubit when the first two are both |1⟩." ""
    ["multi-qubit", "controlled"]

/-- A swap under a control. -/
def fredkin : Exercise R :=
  builtIn "fredkin" 3 Operation.controlledSwap .operator none
    "Swap the last two qubits when the first is |1⟩."
    "A controlled SWAP can be built from three Toffoli gates."
    ["multi-qubit", "controlled"]

/-- The built-in exercises. -/
def builtIns : List (Exercise R) :=
  [flipQubit, basisChange, signFlip, amplitudeChange, bellState, twoQubitGateReversed, ghzState,
    toffoli, fredkin]

/-- The references of the built-in exercises are those of the library. -/
theorem builtIns_references :
    (builtIns (R := R)).map (fun exercise => (exercise.name, exercise.reference)) =
      builtinReferences := rfl

/-- The catalog of the built-in exercises. -/
def builtInCatalog : Catalog R := ⟨⟨builtIns.map fun exercise => (exercise.name, exercise)⟩⟩

/-- The built-in exercise of a name. -/
def findBuiltIn (name : String) : Except Fault (Exercise R) := builtInCatalog.get name

end QuantumKata.Exercise
