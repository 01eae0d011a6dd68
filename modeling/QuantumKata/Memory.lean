import QuantumKata.Snapshot

/-!
# Register memory

The memory of a register holds a state vector until it is released.  Every access checks that the
memory has not been released and that the qubits are indices of the register, none of them twice;
all access that changes the state either succeeds or leaves the memory as it was.

Releasing is looked for first, with two exceptions: reading the probability of a single qubit and
testing qubits for zero look at the qubits before they look at the memory.
-/

namespace QuantumKata

/-- A qubit as it is given from outside: a number, a truth value that counts as one or zero, or
something that is no index at all and only has a text. -/
inductive QubitIndex where
  | number (value : Int)
  | truth (value : Bool)
  | foreign (text : String)
  deriving Repr, DecidableEq

namespace QubitIndex

/-- The number that an index stands for. -/
def value? : QubitIndex → Option Int
  | number value => some value
  | truth value => some (if value then 1 else 0)
  | foreign _ => none

/-- The text of an index. -/
def text : QubitIndex → String
  | number value => Decimal.integer value
  | truth value => if value then "True" else "False"
  | foreign text => text

/-- Check indices one after the other: each has to be an index of the register and different from
those before it. -/
def resolveFrom (word : String) (numQubits : Nat) :
    (seen : List Nat) → List QubitIndex → Except Fault (List Nat)
  | _, [] => .ok []
  | seen, index :: rest =>
    match index.value? with
    | none => .error (.qubitOutOfRange word index.text numQubits)
    | some value =>
      if 0 ≤ value ∧ value < numQubits then
        if seen.contains value.toNat then .error (.qubitRepeated word index.text)
        else (resolveFrom word numQubits (value.toNat :: seen) rest).map (value.toNat :: ·)
      else .error (.qubitOutOfRange word index.text numQubits)

/-- The qubits that a list of indices stands for. -/
def resolve (word : String) (numQubits : Nat) (indices : List QubitIndex) :
    Except Fault (List Nat) :=
  resolveFrom word numQubits [] indices

/-- What qubits are called in faults, unless they are controls of a phase. -/
def qubitWord : String := "Qubit"

/-- What the controls of a phase are called in faults. -/
def controlWord : String := "Control"

end QubitIndex

/-- The memory of a register. -/
inductive Memory (R : Type) where
  | holding (state : StateVector R)
  | released (numQubits : Nat)

namespace Memory

open QubitIndex

variable {R : Type}

/-- The number of qubits of the register. -/
def numQubits : Memory R → Nat
  | holding state => state.numQubits
  | released numQubits => numQubits

/-- Whether the memory has been released. -/
def isReleased : Memory R → Bool
  | holding _ => false
  | released _ => true

/-- The state in the memory. -/
def live : Memory R → Except Fault (StateVector R)
  | holding state => .ok state
  | released _ => .error .stateReleased

/-- Give the state up. -/
def release (memory : Memory R) : Except Fault (Memory R) :=
  memory.live.map fun state => .released state.numQubits

/-- The text that shows a memory. -/
def text (memory : Memory R) : String :=
  "StateVector(num_qubits=" ++ Decimal.digits memory.numQubits ++
    (if memory.isReleased then ", released)" else ")")

variable [Scalar R]

/-- A memory in which every qubit reads zero. -/
def allocate (numQubits : Int) : Except Fault (Memory R) :=
  if numQubits < 0 then .error (.negativeRegister numQubits)
  else .ok (.holding (.zero numQubits.toNat))

/-- A memory with the listed amplitudes. -/
def ofArray (listed : Array (Amplitude R)) : Except Fault (Memory R) :=
  match StateVector.ofArray? listed with
  | some state => .ok (.holding state)
  | none => .error (.amplitudeCount listed.size)

/-- Multiply by the number of magnitude one at the given angle where all controls read one. -/
def applyPhase (memory : Memory R) (angle : R) (controls : List QubitIndex) :
    Except Fault (Memory R) := do
  let state ← memory.live
  let qubits ← resolve controlWord state.numQubits controls
  return .holding (state.applyPhase angle qubits)

/-- Apply a matrix to the targets where all controls read one.  A matrix on no target at all is a
phase. -/
def applyTensor (memory : Memory R) (tensor : Tensor R) (targets controls : List QubitIndex) :
    Except Fault (Memory R) := do
  let state ← memory.live
  let qubits ← resolve qubitWord state.numQubits (targets ++ controls)
  match tensor.square? with
  | some matrix =>
    if matrix.size = Basis.count targets.length then
      if targets.isEmpty then
        return .holding (state.applyPhase (matrix.entry 0 0).angle qubits)
      else
        return .holding (state.applyToGroups matrix (qubits.take targets.length)
          (qubits.drop targets.length))
    else throw (.matrixShape tensor.shape targets.length)
  | none => throw (.matrixShape tensor.shape targets.length)

/-- Apply a square matrix to the targets where all controls read one. -/
def applyMatrix (memory : Memory R) (matrix : SquareMatrix R) (targets controls : List QubitIndex) :
    Except Fault (Memory R) := do
  let state ← memory.live
  let qubits ← resolve qubitWord state.numQubits (targets ++ controls)
  if matrix.size = Basis.count targets.length then
    if targets.isEmpty then
      return .holding (state.applyPhase (matrix.entry 0 0).angle qubits)
    else
      return .holding (state.applyToGroups matrix (qubits.take targets.length)
        (qubits.drop targets.length))
  else throw (.matrixShape matrix.shape targets.length)

/-- The probabilities of the basis states. -/
def probabilities (memory : Memory R) : Except Fault (List R) :=
  memory.live.map StateVector.probabilities

/-- For every qubit the probability that it reads one. -/
def qubitProbabilities (memory : Memory R) : Except Fault (List R) :=
  memory.live.map StateVector.qubitProbabilities

/-- The probability that a qubit reads one. -/
def probabilityOfOne (memory : Memory R) (qubit : QubitIndex) : Except Fault R := do
  let qubits ← resolve qubitWord memory.numQubits [qubit]
  let state ← memory.live
  return state.probabilityOfOne (qubits.headD 0)

/-- The amplitude of a basis index. -/
def amplitude (memory : Memory R) (index : Int) : Except Fault (Amplitude R) := do
  let state ← memory.live
  if 0 ≤ index ∧ index < state.dimension then return state.amplitude index.toNat
  else throw (.basisIndexOutOfRange index)

/-- The sum of the squared magnitudes. -/
def squaredNorm (memory : Memory R) : Except Fault R :=
  memory.live.map StateVector.squaredNorm

/-- Whether the squared magnitudes sum to one up to the tolerance. -/
def isNormalized (memory : Memory R) (tolerance : R) : Except Fault Bool :=
  memory.live.map (·.isNormalized tolerance)

/-- Whether the given qubits, or all of them, read zero except for a probability of at most the
tolerance. -/
def isZero (memory : Memory R) (indices : Option (List QubitIndex)) (tolerance : R) :
    Except Fault Bool := do
  let listed := indices.getD ((List.range memory.numQubits).map fun (qubit : Nat) => .number qubit)
  let qubits ← resolve qubitWord memory.numQubits listed
  let state ← memory.live
  return state.isZeroOn qubits tolerance

/-- A copy of the amplitudes. -/
def snapshot (memory : Memory R) : Except Fault (Snapshot R) :=
  memory.live.map Snapshot.ofState

/-! ## Draws -/

/-- Numbers between zero and one that decide measurements, used up in order. -/
structure Draws (R : Type) where
  upcoming : List R

namespace Draws

/-- The draw that stands in when all others are used up. -/
def fallback : R := Scalar.decimal 3 1

/-- The next draw and those after it. -/
def next (draws : Draws R) : R × Draws R :=
  match draws.upcoming with
  | [] => (fallback, draws)
  | first :: rest => (first, ⟨rest⟩)

end Draws

/-- Measure qubits.  No draw is used when the probabilities are undefined. -/
def measure (memory : Memory R) (indices : List QubitIndex) (draws : Draws R) :
    Except Fault (List Bool × Memory R × Draws R) := do
  let state ← memory.live
  let qubits ← resolve qubitWord state.numQubits indices
  let (draw, rest) := draws.next
  match state.measure? qubits draw with
  | none => throw .undefinedProbabilities
  | some (bits, collapsed) => return (bits, .holding collapsed, rest)

/-- Measure a qubit and flip it when it reads one. -/
def reset (memory : Memory R) (index : QubitIndex) (draws : Draws R) :
    Except Fault (Memory R × Draws R) := do
  let state ← memory.live
  let qubits ← resolve qubitWord state.numQubits [index]
  let (draw, rest) := draws.next
  match state.measure? qubits draw with
  | none => throw .undefinedProbabilities
  | some (bits, collapsed) =>
    if bits.any id then
      return (.holding (collapsed.applyToGroups
        (.ofRows 0 1 1 0) qubits []), rest)
    else return (.holding collapsed, rest)

end Memory

end QuantumKata
