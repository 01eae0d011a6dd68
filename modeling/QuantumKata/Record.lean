import QuantumKata.Diagnosis
import QuantumKata.Verdict

/-!
# Records

Snapshots, verdicts and diagnoses are handed on as plain data: mappings from the names of their
parts to the parts.
-/

namespace QuantumKata

/-- Texts as a datum. -/
def Datum.texts (texts : List String) : Datum := .list (texts.map .text)

/-- A part that may be missing: nothing stands for it then. -/
def Datum.optional {α : Type} (encode : α → Datum) : Option α → Datum
  | some value => encode value
  | none => .null

/-- A snapshot as a record. -/
def Snapshot.toRecord (snapshot : Snapshot Float) : Datum :=
  .record [("num_qubits", .integer snapshot.numQubits),
    ("amplitudes_real", .list (snapshot.amplitudes.toList.map fun number => .real number.re)),
    ("amplitudes_imag", .list (snapshot.amplitudes.toList.map fun number => .real number.im)),
    ("basis_labels", .optional .texts snapshot.labels)]

/-- A verdict as a record. -/
def Verdict.toRecord (verdict : Verdict Float) : Datum :=
  .record [("status", .text verdict.status.word), ("mode", .text verdict.mode.word),
    ("message", .text verdict.message), ("global_phase", .optional .real verdict.globalPhase),
    ("error", .optional .text verdict.error)]

/-- The parts of a comparison. -/
def StateComparison.recordFields (comparison : StateComparison Float) : List (String × Datum) :=
  [("input_state", comparison.input.toRecord), ("expected", comparison.expected.toRecord),
    ("actual", comparison.actual.toRecord), ("fidelity", .real comparison.fidelity),
    ("matches", .truth comparison.isMatch)]

/-- A comparison as a record. -/
def StateComparison.toRecord (comparison : StateComparison Float) : Datum :=
  .record comparison.recordFields

/-- A counterexample as a record. -/
def Counterexample.toRecord (found : Counterexample Float) : Datum :=
  .record [("input_state", found.input.toRecord), ("expected_state", found.expected.toRecord),
    ("actual_state", found.actual.toRecord), ("description", .text found.description)]

/-- A diagnosis as a record. -/
def Diagnosis.toRecord (diagnosis : Diagnosis Float) : Datum :=
  .record [("comparison", .optional StateComparison.toRecord diagnosis.comparison),
    ("counterexample", .optional Counterexample.toRecord diagnosis.counterexample),
    ("notes", .texts diagnosis.notes)]

end QuantumKata
