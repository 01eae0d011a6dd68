import QuantumKata.Fault
import QuantumKata.Text.Blank
import QuantumKata.Text.Case

/-!
# Verdicts

A check ends in a verdict.  Its *mode* says which guarantee was sought: equality as operators on
every input, or equality on the prepared input state only, both up to a global phase.
-/

namespace QuantumKata

/-- The outcomes of grading. -/
inductive VerdictStatus where
  | correct
  | incorrect
  | executionError
  | aborted
  deriving DecidableEq, Repr

namespace VerdictStatus

/-- All outcomes. -/
def all : List VerdictStatus := [correct, incorrect, executionError, aborted]

/-- The word for an outcome. -/
def word : VerdictStatus → String
  | correct => "CORRECT"
  | incorrect => "INCORRECT"
  | executionError => "EXECUTION_ERROR"
  | aborted => "ABORTED"

end VerdictStatus

/-- The guarantees that a check can seek. -/
inductive EquivalenceMode where
  | operator
  | state
  deriving DecidableEq, Repr

namespace EquivalenceMode

/-- The word for a mode. -/
def word : EquivalenceMode → String
  | operator => "operator"
  | state => "state"

/-- Read a mode; blanks at the ends and letter case do not matter. -/
def parse (text : String) : Except Fault EquivalenceMode :=
  let key := Text.lower (Text.strip text)
  if key = operator.word then .ok operator
  else if key = state.word then .ok state
  else .error (.unknownMode text)

end EquivalenceMode

/-- The result of a check. -/
structure Verdict (R : Type) where
  status : VerdictStatus
  mode : EquivalenceMode
  message : String
  globalPhase : Option R := none
  error : Option String := none

namespace Verdict

variable {R : Type}

/-- Whether the candidate matched the reference. -/
def isCorrect (verdict : Verdict R) : Bool := verdict.status == .correct

/-- Whether an operation failed while it was applied. -/
def isExecutionError (verdict : Verdict R) : Bool := verdict.status == .executionError

end Verdict

end QuantumKata
