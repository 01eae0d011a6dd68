import QuantumKata.Action
import QuantumKata.Console.Table
import QuantumKata.Grading.Result

/-!
# Reporters

A reporter is told when a run starts, what its result is and that it has finished.  What a reporter
keeps between these calls is its state; the reporters defined here keep which exercise they are
reporting on, the text they have written and the results they have collected.  A reporter that is
still busy cannot start again.
-/

namespace QuantumKata

/-- What is told of a run, as actions on a state. -/
structure Reporter (R σ : Type) where
  start : Exercise R → Action σ Unit
  report : GradeResult R → Exercise R → Action σ Unit
  finish : Action σ Unit

/-- What a reporter keeps.  Every written text stands on lines of its own. -/
structure ReporterState (R : Type) where
  active : Option String := none
  written : List String := []
  results : List (GradeResult R) := []

namespace ReporterState

variable {R : Type}

instance : Inhabited (ReporterState R) := ⟨{}⟩

/-- Write a text and end the line. -/
def write (text : String) : Action (ReporterState R) Unit :=
  Action.update fun state => { state with written := state.written ++ [text] }

/-- Write texts, each on a line of its own. -/
def writeAll (texts : List String) : Action (ReporterState R) Unit :=
  Action.update fun state => { state with written := state.written ++ texts }

/-- Everything that has been written. -/
def text (state : ReporterState R) : String :=
  String.join (state.written.map fun text => text ++ "\n")

/-- Keep a result. -/
def collect (result : GradeResult R) : Action (ReporterState R) Unit :=
  Action.update fun state => { state with results := state.results ++ [result] }

/-- Become busy with an exercise. -/
def claim (exercise : Exercise R) : Action (ReporterState R) Unit := fun state =>
  match state.active with
  | some active => (.error (.reporterBusy active exercise.name), state)
  | none => (.ok (), { state with active := some exercise.name })

/-- Become idle. -/
def release : Action (ReporterState R) Unit :=
  Action.update fun state => { state with active := none }

end ReporterState

namespace Reporter

variable {R : Type}

/-- A reporter that leaves everything out. -/
def silent : Reporter R (ReporterState R) where
  start := ReporterState.claim
  report _ _ := pure ()
  finish := ReporterState.release

/-- A reporter that collects the results. -/
def collecting : Reporter R (ReporterState R) where
  start := ReporterState.claim
  report result _ := ReporterState.collect result
  finish := ReporterState.release

/-- A reporter that fails to report. -/
def failing (fault : Fault) : Reporter R (ReporterState R) where
  start := ReporterState.claim
  report _ _ := Action.fail fault
  finish := ReporterState.release

/-! ## Plain text -/

/-- What is written about a diagnosis. -/
def diagnosisTexts (diagnosis : Diagnosis Float) : List String :=
  (diagnosis.counterexample.map fun found =>
    "Outputs differ for " ++ found.description ++ ".").toList
    ++ (diagnosis.comparison.map fun comparison => "\n".intercalate comparison.lines).toList ++
    diagnosis.notes

/-- What is written about a result. -/
def resultTexts (showDiagnoses : Bool) (result : GradeResult Float) (exercise : Exercise Float) :
    List String :=
  match result.status with
  | .correct => ["Correct."]
  | .incorrect =>
    let hint := if exercise.hint.isEmpty then [] else ["Hint: " ++ exercise.hint]
    let diagnosis := match result.diagnosis with
      | some diagnosis => if showDiagnoses then diagnosisTexts diagnosis else []
      | none => []
    "Incorrect." :: hint ++ diagnosis
  | .executionError => ["Execution error: " ++ result.verdict.message]
  | .aborted => ["Test aborted: " ++ result.verdict.message]

/-- A reporter that writes plain text. -/
def plain (showDiagnoses : Bool) : Reporter Float (ReporterState Float) where
  start := ReporterState.claim
  report result exercise := ReporterState.writeAll (resultTexts showDiagnoses result exercise)
  finish := ReporterState.release

/-! ## Console -/

/-- Show marked-up text on the console. -/
def print (text : String) : Action (ReporterState R) Unit := do
  let lines ← Action.ofExcept (Console.render text)
  ReporterState.writeAll lines

/-- The style and the headline of an outcome. -/
def headline : VerdictStatus → String × String
  | .correct => ("bold green", "✓ Correct.")
  | .incorrect => ("bold red", "✗ Incorrect.")
  | .executionError => ("bold yellow", "! Execution error")
  | .aborted => ("bold magenta", "! Test aborted")

/-- A text between the tags of a style. -/
def styled (style text : String) : String := "[" ++ style ++ "]" ++ text ++ "[/" ++ style ++ "]"

/-- The table of a comparison. -/
def comparisonTable (comparison : StateComparison Float) : Console.Table where
  title := "Per-qubit P(|1⟩), fidelity " ++ Decimal.fixed 4 comparison.fidelity
  headers := ["Qubit", "Expected", "Actual"]
  rows := comparison.qubitRows.map fun (qubit, expected, actual) =>
    [Decimal.digits qubit, Decimal.fixed 4 expected, Decimal.fixed 4 actual]

/-- Show a diagnosis on the console. -/
def printDiagnosis (diagnosis : Diagnosis Float) : Action (ReporterState Float) Unit := do
  if let some found := diagnosis.counterexample then
    print ("  Outputs differ for " ++ found.description)
  if let some comparison := diagnosis.comparison then
    let lines ← Action.ofExcept (comparisonTable comparison).render
    ReporterState.writeAll lines
  for note in diagnosis.notes do
    print ("  " ++ styled "dim" note)

/-- Show a result on the console. -/
def printResult (showDiagnoses : Bool) (result : GradeResult Float) (exercise : Exercise Float) :
    Action (ReporterState Float) Unit := do
  let (style, words) := headline result.status
  print (styled style words)
  if result.status ≠ .correct ∧ result.verdict.message ≠ "" then
    print ("  " ++ result.verdict.message)
  if result.status = .incorrect ∧ exercise.hint ≠ "" then
    print ("  [italic]Hint:[/italic] " ++ exercise.hint)
  if showDiagnoses then
    if let some diagnosis := result.diagnosis then printDiagnosis diagnosis

/-- A reporter for the console. -/
def console (showDiagnoses : Bool) : Reporter Float (ReporterState Float) where
  start exercise := do
    ReporterState.claim exercise
    print (styled "bold blue" exercise.name ++ " (" ++ Decimal.integer exercise.numQubits ++
      " qubit(s), " ++ exercise.mode.word ++ " mode)")
  report := printResult showDiagnoses
  finish := ReporterState.release

end Reporter

end QuantumKata
