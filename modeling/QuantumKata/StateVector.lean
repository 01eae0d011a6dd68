import QuantumKata.Basis
import QuantumKata.Matrix

/-!
# State vectors

The state of a register of `n` qubits is a vector of `2 ^ n` amplitudes, one for each basis index;
qubit `q` is bit `q` of the index.

A gate mixes the amplitudes of basis states that differ in its targets only, and of those it mixes
the ones in which all control qubits read one.  It is applied group by group: the old amplitudes of
a group are read, multiplied by the matrix, and written back into their places.

Said for each index by itself: where all control qubits read one, the new amplitude is the row of
the gate's matrix for the bits of the targets, times the old amplitudes of the basis states that
differ in those bits only; elsewhere it is the old amplitude itself, on which no arithmetic is
performed.

Measuring picks a basis index by its probability, keeps the amplitudes of all indices that agree
with it on the measured qubits, and scales them back to norm one.
-/

namespace QuantumKata

/-- The amplitudes of a register. -/
structure StateVector (R : Type) where
  numQubits : Nat
  amplitudes : Vector (Amplitude R) (Basis.count numQubits)

namespace StateVector

variable {R : Type} [Scalar R]

/-- The state with the given amplitudes. -/
def ofAmplitudes (numQubits : Nat) (amplitude : Nat → Amplitude R) : StateVector R :=
  ⟨numQubits, Vector.ofFn fun index => amplitude index⟩

/-- The basis state with the given index. -/
def basis (numQubits index : Nat) : StateVector R :=
  ofAmplitudes numQubits fun position => if position = index then 1 else 0

/-- The state in which every qubit reads zero. -/
def zero (numQubits : Nat) : StateVector R := basis numQubits 0

/-- The state with the listed amplitudes, whose number has to be a power of two. -/
def ofArray? (listed : Array (Amplitude R)) : Option (StateVector R) :=
  if fits : listed.size = Basis.count listed.size.log2 then
    some ⟨listed.size.log2, ⟨listed, fits⟩⟩
  else none

/-- The amplitude of a basis index; zero outside the register. -/
def amplitude (state : StateVector R) (index : Nat) : Amplitude R :=
  if inRegister : index < Basis.count state.numQubits then state.amplitudes[index] else 0

/-- The number of basis states. -/
def dimension (state : StateVector R) : Nat := Basis.count state.numQubits

/-- Replace every amplitude. -/
def mapWithIndex (state : StateVector R) (next : Nat → Amplitude R → Amplitude R) :
    StateVector R :=
  ⟨state.numQubits, Vector.ofFn fun index => next index state.amplitudes[index]⟩

/-! ## Gates -/

/-- One entry of the product of a matrix with the amplitudes of the basis states that differ from
`index` in the targets only. -/
def transformed (matrix : SquareMatrix R) (targets : List Nat) (state : StateVector R)
    (index : Nat) : Amplitude R :=
  let row := Basis.gather targets index
  Amplitude.sum ((List.range matrix.size).map fun column =>
    matrix.entry row column * state.amplitude (Basis.scatter targets column index))

/-- The amplitudes of a group of basis states after a matrix, each with the index that it belongs
to. -/
def mixed (matrix : SquareMatrix R) (state : StateVector R) (group : List Nat) :
    List (Nat × Amplitude R) :=
  let old := group.map state.amplitude
  group.mapIdx fun row index =>
    (index, Amplitude.sum (old.mapIdx fun column amplitude => matrix.entry row column * amplitude))

/-- Write amplitudes into the places of their indices. -/
def write (state : StateVector R) (entries : List (Nat × Amplitude R)) : StateVector R :=
  ⟨state.numQubits,
    entries.foldl (fun amplitudes (index, new) => amplitudes.setIfInBounds index new)
      state.amplitudes⟩

/-- Apply a matrix to the targets where all controls read one, group by group. -/
def applyToGroups (state : StateVector R) (matrix : SquareMatrix R) (targets controls : List Nat) :
    StateVector R :=
  state.write ((Basis.groups state.numQubits targets controls).flatMap (mixed matrix state))

/-- Apply a matrix to the targets where all controls read one, index by index. -/
def applyMatrix (state : StateVector R) (matrix : SquareMatrix R) (targets controls : List Nat) :
    StateVector R :=
  state.mapWithIndex fun index old =>
    if Basis.allOne controls index then transformed matrix targets state index else old

/-- Multiply the state by a number of magnitude one where all controls read one. -/
def applyPhase (state : StateVector R) (angle : R) (controls : List Nat) : StateVector R :=
  let factor := Amplitude.unit angle
  state.mapWithIndex fun index old =>
    if Basis.allOne controls index then old * factor else old

/-! ## Probabilities -/

/-- The probabilities of the basis states in order. -/
def probabilities (state : StateVector R) : List R :=
  state.amplitudes.toList.map Amplitude.probability

/-- The probability of the basis states that satisfy a condition. -/
def probabilityWhere (state : StateVector R) (condition : Nat → Bool) : R :=
  Scalar.sum ((state.probabilities.zipIdx.filter fun (_, index) => condition index).map Prod.fst)

/-- The probability that a qubit reads one. -/
def probabilityOfOne (state : StateVector R) (qubit : Nat) : R :=
  state.probabilityWhere fun index => index.testBit qubit

/-- For every qubit the probability that it reads one. -/
def qubitProbabilities (state : StateVector R) : List R :=
  (List.range state.numQubits).map state.probabilityOfOne

/-- The sum of the squared magnitudes. -/
def squaredNorm (state : StateVector R) : R :=
  Scalar.sum (state.amplitudes.toList.map Amplitude.squaredNorm)

/-- Whether the squared magnitudes sum to one up to the tolerance. -/
def isNormalized (state : StateVector R) (tolerance : R) : Bool :=
  Scalar.atMost (Scalar.magnitude (state.squaredNorm - 1)) tolerance

/-- Whether the given qubits read zero, except for a probability of at most the tolerance. -/
def isZeroOn (state : StateVector R) (qubits : List Nat) (tolerance : R) : Bool :=
  Scalar.atMost (state.probabilityWhere (Basis.anyOne qubits)) tolerance

/-! ## Measurement -/

/-- The running sums of a list of numbers. -/
def runningSums (numbers : List R) : List R :=
  (numbers.foldl (fun (sums, total) number => ((total + number) :: sums, total + number))
    (([] : List R), (0 : R))).1.reverse

/-- The index that a draw between zero and one chooses from a list of probabilities: the first one
whose running sum, as a part of the whole, exceeds the draw. -/
def chooseIndex (probabilities : List R) (draw : R) : Nat :=
  let sums := runningSums probabilities
  let total := sums.getLastD 1
  (sums.findIdx? fun sum => Scalar.less draw (sum / total)).getD probabilities.length

/-- The probabilities as parts of their sum. -/
def choiceWeights (state : StateVector R) : List R :=
  let total := Scalar.sum state.probabilities
  state.probabilities.map (· / total)

/-- Keep the amplitudes that agree with `outcome` on the given qubits, and scale them to norm
one. -/
def collapse (state : StateVector R) (qubits : List Nat) (outcome : Nat) : StateVector R :=
  let kept := state.mapWithIndex fun index old =>
    if Basis.agree qubits index outcome then old else 0
  let factor := 1 / Scalar.sqrt kept.squaredNorm
  kept.mapWithIndex fun _ old => old.scale factor

/-- Measure qubits with a given draw; nothing when the probabilities are undefined. -/
def measure? (state : StateVector R) (qubits : List Nat) (draw : R) :
    Option (List Bool × StateVector R) :=
  let weights := state.choiceWeights
  if weights.any Scalar.isUndefined then none
  else
    let outcome := chooseIndex weights draw
    some (qubits.map outcome.testBit, state.collapse qubits outcome)

end StateVector

/-! ## Comparing states -/

/-- The inner product, conjugated on the left. -/
def innerProduct {R : Type} [Scalar R] (left right : Array (Amplitude R)) : Amplitude R :=
  Amplitude.sum (List.zipWith (fun a b => a.conj * b) left.toList right.toList)

/-- The squared magnitude of the inner product of two states. -/
def fidelity {R : Type} [Scalar R] (left right : Array (Amplitude R)) : R :=
  let overlap := (innerProduct left right).magnitude
  overlap * overlap

/-- Whether two states of the same size differ only by a factor of magnitude one, that is, whether
the magnitude of their inner product reaches the product of their norms. -/
def equalUpToPhase {R : Type} [Scalar R] (left right : Array (Amplitude R)) (tolerance : R) :
    Bool :=
  let overlap := (innerProduct left right).magnitude
  let norms := Scalar.sqrt ((innerProduct left left).re * (innerProduct right right).re)
  Scalar.atMost (norms - overlap) tolerance

end QuantumKata
