import QuantumKata.Diagnosis
import QuantumKata.Exercise.Basic
import QuantumKata.Record

/-!
# Results

A result says how a candidate fared against an exercise, and shows the difference if one was
diagnosed.
-/

namespace QuantumKata

/-- The result of grading a candidate. -/
structure GradeResult (R : Type) where
  exercise : String
  candidate : String
  verdict : Verdict R
  diagnosis : Option (Diagnosis R) := none

namespace GradeResult

/-- The outcome. -/
def status {R : Type} (result : GradeResult R) : VerdictStatus := result.verdict.status

/-- Whether the candidate was graded correct. -/
def passed {R : Type} (result : GradeResult R) : Bool := result.verdict.isCorrect

/-- A result as a record. -/
def toRecord (result : GradeResult Float) : Datum :=
  .record [("exercise", .text result.exercise), ("candidate", .text result.candidate),
    ("verdict", result.verdict.toRecord),
    ("diagnostic", .optional Diagnosis.toRecord result.diagnosis)]

end GradeResult

end QuantumKata
