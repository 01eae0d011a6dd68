import QuantumKata.Fault
import QuantumKata.StateVector

/-!
# Snapshots

A snapshot is a copy of the amplitudes of a register, taken to be shown.  Its basis states are
labelled by their bits, qubit `0` rightmost, unless other labels are given.  Two states of one size
can be compared up to a phase.
-/

namespace QuantumKata

/-- A copy of the amplitudes of a register. -/
structure Snapshot (R : Type) where
  numQubits : Int
  amplitudes : Array (Amplitude R)
  labels : Option (List String) := none

namespace Snapshot

variable {R : Type}

/-- Two to the power of a negative number, halved once for every unit: zero from the point on at
which no smaller number is left. -/
def fractionalPower : Nat → Float
  | 0 => 1
  | halvings + 1 => fractionalPower halvings / 2

/-- The negative number of qubits from which on two to its power is zero. -/
def vanishing : Int := -1075

/-- The greatest number of qubits whose number of basis states can be written down: the power has no
more than 4300 digits. -/
def longest : Int := 14284

/-- The number of basis states in words, if it can be written down. -/
def countText? (numQubits : Int) : Option String :=
  if numQubits ≤ vanishing then some "0.0"
  else if numQubits < 0 then some (Decimal.shortest (fractionalPower numQubits.natAbs))
  else if numQubits ≤ longest then some (Decimal.digits (Basis.count numQubits.toNat))
  else none

/-- Whether a register has so many basis states.  The count of a negative number of qubits is a
fraction, and zero when it vanishes. -/
def hasCount (numQubits : Int) (count : Nat) : Bool :=
  if numQubits ≤ vanishing then count = 0
  else if numQubits < 0 then false
  else decide (numQubits ≤ longest) && decide (count = Basis.count numQubits.toNat)

/-- A snapshot of the given amplitudes, as many as the register has basis states. -/
def ofAmplitudes (numQubits : Int) (amplitudes : Array (Amplitude R))
    (labels : Option (List String)) : Except Fault (Snapshot R) :=
  if hasCount numQubits amplitudes.size then .ok ⟨numQubits, amplitudes, labels⟩
  else match countText? numQubits with
    | some expected => .error (.snapshotSize expected numQubits amplitudes.size)
    | none => .error (.tooManyDigits none)

/-- The place that an index means in a sequence: a negative index counts from the end. -/
def place? (index : Int) (size : Nat) : Option Nat :=
  if 0 ≤ index then
    if index < size then some index.toNat else none
  else if 0 ≤ index + size then some (index + size).toNat
  else none

/-- The bits of a number of the given width, the least significant one last. -/
def bitsText (width number : Nat) : String :=
  let plain := Nat.toDigits 2 number
  String.ofList (List.replicate (width - plain.length) '0' ++ plain)

/-- The label of a basis state that has none of its own. -/
def plainLabel (numQubits index : Int) : String :=
  if numQubits = 0 then "|⟩"
  else if index < 0 then "|-" ++ bitsText (numQubits.toNat - 1) index.natAbs ++ "⟩"
  else "|" ++ bitsText numQubits.toNat index.natAbs ++ "⟩"

/-- The label of a basis state.  No bits are written for a negative number of qubits. -/
def label (snapshot : Snapshot R) (index : Int) : Except Fault String :=
  match snapshot.labels with
  | some (first :: rest) =>
    match place? index (first :: rest).length with
    | some place => .ok ((first :: rest).getD place "")
    | none => .error (.listIndexOutOfRange index)
  | _ =>
    if snapshot.numQubits < 0 then .error (.negativeWidth snapshot.numQubits)
    else .ok (plainLabel snapshot.numQubits index)

variable [Scalar R]

/-- A copy of the amplitudes of a state. -/
def ofState (state : StateVector R) : Snapshot R where
  numQubits := state.numQubits
  amplitudes := state.amplitudes.toArray

/-- The greatest number of qubits whose amplitudes fit into memory. -/
def roomiest : Int := 35

/-- A snapshot of a basis state. -/
def basisState (numQubits index : Int) : Except Fault (Snapshot R) :=
  if numQubits < 0 then .error .fractionalCount
  else if roomiest < numQubits then .error (.tooManyAmplitudes numQubits)
  else
  let size := Basis.count numQubits.toNat
  match place? index size with
  | none => .error (.vectorIndexOutOfRange index size)
  | some place =>
    .ok ⟨numQubits, Array.ofFn fun position : Fin size => if position = place then 1 else 0, none⟩

/-- The probability of a basis state; a negative index counts from the end. -/
def probability (snapshot : Snapshot R) (index : Int) : Except Fault R :=
  match place? index snapshot.amplitudes.size with
  | none => .error (.vectorIndexOutOfRange index snapshot.amplitudes.size)
  | some place => .ok (snapshot.amplitudes.getD place 0).probability

/-- For every qubit the probability that it reads one. -/
def qubitProbabilities (snapshot : Snapshot R) : List R :=
  let indexed := snapshot.amplitudes.toList.zipIdx
  (List.range snapshot.numQubits.toNat).map fun qubit =>
    Scalar.sum ((indexed.filter fun (_, index) => index.testBit qubit).map
      fun (amplitude, _) => amplitude.probability)

/-- Whether the probabilities sum to one up to the tolerance, which must not be reached. -/
def isNormalized (snapshot : Snapshot R) (tolerance : R) : Bool :=
  let total := Scalar.sum (snapshot.amplitudes.toList.map Amplitude.probability)
  Scalar.less (Scalar.magnitude (total - 1)) tolerance

end Snapshot

/-- Whether two states are equal up to a phase.  States of different sizes cannot be compared. -/
def matchUpToPhase {R : Type} [Scalar R] (left right : Array (Amplitude R)) (tolerance : R) :
    Except Fault Bool :=
  if left.size = right.size then .ok (equalUpToPhase left right tolerance)
  else .error (.statesDiffer [left.size] [right.size])

end QuantumKata
