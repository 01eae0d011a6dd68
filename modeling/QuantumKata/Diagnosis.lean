import QuantumKata.Bench
import QuantumKata.Operation.Library

/-!
# Diagnoses

After a check has found a difference, a diagnosis shows it: candidate and reference are run
separately on fresh registers and their outputs are compared, on the prepared input and, when no
preparer is in play, on the basis inputs in order until one of them tells the two apart.  Whatever
fails on the way becomes a note, so that a diagnosis cannot alter a grade.

When the outputs agree on every basis input, up to a phase on each, the two operations differ by
those phases alone.
-/

namespace QuantumKata

/-- The outputs of reference and candidate for one input. -/
structure StateComparison (R : Type) where
  input : Snapshot R
  expected : Snapshot R
  actual : Snapshot R
  tolerance : R

namespace StateComparison

variable {R : Type} [Scalar R]

/-- How close the outputs are. -/
def fidelity (comparison : StateComparison R) : R :=
  QuantumKata.fidelity comparison.expected.amplitudes comparison.actual.amplitudes

/-- Whether the outputs are equal up to a phase. -/
def isMatch (comparison : StateComparison R) : Bool :=
  equalUpToPhase comparison.expected.amplitudes comparison.actual.amplitudes comparison.tolerance

/-- For every qubit the probabilities of reading one, expected and actual. -/
def qubitRows (comparison : StateComparison R) : List (Nat × R × R) :=
  (List.zip comparison.expected.qubitProbabilities
    comparison.actual.qubitProbabilities).zipIdx.map fun (row, qubit) => (qubit, row)

/-- The basis states where one of the outputs has an amplitude above the threshold. -/
def amplitudeRows (comparison : StateComparison R) (threshold : R) :
    List (String × Amplitude R × Amplitude R) :=
  (List.zip comparison.expected.amplitudes.toList comparison.actual.amplitudes.toList).zipIdx
    |>.filterMap fun ((expected, actual), index) =>
      if Scalar.less threshold expected.magnitude || Scalar.less threshold actual.magnitude then
        some (Snapshot.plainLabel comparison.expected.numQubits index, expected, actual)
      else none

/-- The threshold below which amplitudes are not shown. -/
def shownThreshold : R := Scalar.decimal 1 6

end StateComparison

/-- A basis input on which candidate and reference disagree. -/
structure Counterexample (R : Type) where
  input : Snapshot R
  expected : Snapshot R
  actual : Snapshot R
  description : String

/-- What was gathered to explain a difference. -/
structure Diagnosis (R : Type) where
  comparison : Option (StateComparison R) := none
  counterexample : Option (Counterexample R) := none
  notes : List String := []

namespace Diagnosis

/-- Whether nothing was gathered. -/
def isEmpty {R : Type} (diagnosis : Diagnosis R) : Bool :=
  diagnosis.comparison.isNone && diagnosis.counterexample.isNone && diagnosis.notes.isEmpty

/-- The note that is made when no basis input tells the operations apart. -/
def relativePhaseNote : String :=
  "Outputs agree on every basis input; the difference is a relative phase " ++
    "between inputs, visible on superpositions."

end Diagnosis

/-- Up to how many qubits basis inputs are searched.  A limit that is not a number leaves every size
neither above nor within it, and what is not comparable with numbers makes the question a fault. -/
inductive SearchLimit where
  | upTo (largest : Int)
  | unlimited
  | undefined
  | incomparable (typeName : String)
  deriving Repr, DecidableEq

namespace SearchLimit

/-- The fault of comparing a size with something that has no order. -/
def disorder (relation typeName : String) : Fault :=
  .wrongType ("'" ++ relation ++ "' not supported between instances of 'int' and '" ++ typeName ++
    "'")

/-- Whether a size is above the limit. -/
def isExceededBy (numQubits : Int) : SearchLimit → Except Fault Bool
  | upTo largest => .ok (decide (largest < numQubits))
  | unlimited | undefined => .ok false
  | incomparable typeName => .error (disorder ">" typeName)

/-- Whether a size is within the limit. -/
def reaches (numQubits : Int) : SearchLimit → Except Fault Bool
  | upTo largest => .ok (decide (numQubits ≤ largest))
  | unlimited => .ok true
  | undefined => .ok false
  | incomparable typeName => .error (disorder "<=" typeName)

/-- The limit for which no other is given. -/
def standard : SearchLimit := .upTo 6

end SearchLimit

/-- What diagnoses are made with. -/
structure DiagnosticRunner (R : Type) where
  profile : TargetProfile
  tolerance : R
  searchLimit : SearchLimit

namespace DiagnosticRunner

variable {R : Type} [Scalar R]

/-- The qubits that read one in the basis state with the given index, which may be negative: then
all high bits are one. -/
def onesOf (numQubits : Nat) (index : Int) : List Int :=
  ((List.range numQubits).filter fun (qubit : Nat) => (index >>> qubit) % 2 = 1).map Int.ofNat

/-- Flip qubits. -/
def flip : List Int → EngineAction R Unit
  | [] => pure ()
  | qubit :: rest => do
    Engine.apply (LibraryConstant.operation (.fixed .x)) [qubit]
    flip rest

/-- Run an operation on a fresh register, the qubits of a basis index flipped and the preparer
applied before; the result is the state before and after. -/
def runOn (operation : Operation R) (numQubits : Int) (preparer : Option (Operation R))
    (basisIndex : Int) (profile : TargetProfile) : BenchAction R (Snapshot R × Snapshot R) :=
  let qubits := (List.range numQubits.toNat).map Int.ofNat
  Bench.withRegister numQubits do
    flip (onesOf numQubits.toNat basisIndex)
    if let some prepare := preparer then Engine.apply prepare qubits
    let before ← Action.inspect fun engine => engine.memory.snapshot
    let input ← Action.ofExcept before
    Engine.restrictedTo profile (Engine.apply operation qubits)
    let after ← Action.inspect fun engine => engine.memory.snapshot
    let output ← Action.ofExcept after
    return (input, output)

/-- Compare the outputs of reference and candidate on the prepared input. -/
def compare (runner : DiagnosticRunner R) (candidate reference : Operation R) (numQubits : Int)
    (preparer : Option (Operation R)) : BenchAction R (StateComparison R) := do
  let (input, expected) ← runOn reference numQubits preparer 0 .unrestricted
  let (_, actual) ← runOn candidate numQubits preparer 0 runner.profile
  return ⟨input, expected, actual, runner.tolerance⟩

/-- Search the basis inputs from `index` on, as many as the fuel allows. -/
def searchFrom (runner : DiagnosticRunner R) (candidate reference : Operation R) (numQubits : Int) :
    (fuel index : Nat) → BenchAction R (Option (Counterexample R))
  | 0, _ => pure none
  | fuel + 1, index => do
    let (input, expected) ← runOn reference numQubits none index .unrestricted
    let (_, actual) ← runOn candidate numQubits none index runner.profile
    if equalUpToPhase expected.amplitudes actual.amplitudes runner.tolerance then
      searchFrom runner candidate reference numQubits fuel (index + 1)
    else
      return some ⟨input, expected, actual,
        "basis input " ++ Snapshot.plainLabel input.numQubits index⟩

/-- The first basis input that tells candidate and reference apart. -/
def findCounterexample (runner : DiagnosticRunner R) (candidate reference : Operation R)
    (numQubits : Int) : BenchAction R (Option (Counterexample R)) := do
  if ← Action.ofExcept (runner.searchLimit.isExceededBy numQubits) then return none
  else if numQubits < 0 then Action.fail .fractionalCount
  else searchFrom runner candidate reference numQubits (Basis.count numQubits.toNat) 0

/-- Gather a diagnosis.  Faults become notes. -/
def diagnose (runner : DiagnosticRunner R) (candidate reference : Operation R) (numQubits : Int)
    (preparer : Option (Operation R)) : BenchAction R (Diagnosis R) := do
  let compared ← Action.attempt (runner.compare candidate reference numQubits preparer)
  let first : Diagnosis R := match compared with
    | .ok comparison => { comparison := some comparison }
    | .error fault => { notes := ["State comparison unavailable: " ++ fault.text] }
  if preparer.isSome then return first
  else
    let found ← Action.attempt (runner.findCounterexample candidate reference numQubits)
    let second : Diagnosis R := match found with
      | .ok counterexample => { first with counterexample := counterexample }
      | .error fault =>
        { first with
          notes := first.notes ++ ["Counterexample search unavailable: " ++ fault.text] }
    let within ← Action.ofExcept (runner.searchLimit.reaches numQubits)
    if within && second.notes.isEmpty && second.counterexample.isNone then
      return { second with notes := [Diagnosis.relativePhaseNote] }
    else return second

end DiagnosticRunner

/-! ## Text -/

/-- An amplitude with four places after the point. -/
def Amplitude.shown (number : Amplitude Float) : String :=
  Decimal.fixedSigned "+" 4 number.re ++ Decimal.fixedSigned "+" 4 number.im ++ "i"

/-- A comparison as lines of text. -/
def StateComparison.lines (comparison : StateComparison Float) : List String :=
  ("State fidelity: " ++ Decimal.fixed 4 comparison.fidelity) ::
    (comparison.amplitudeRows StateComparison.shownThreshold).map fun (label, expected, actual) =>
      "  " ++ label ++ ": expected " ++ expected.shown ++ ", actual " ++ actual.shown

end QuantumKata
