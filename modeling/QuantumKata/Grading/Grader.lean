import QuantumKata.Configuration
import QuantumKata.Equivalence
import QuantumKata.Grading.Reporter
import QuantumKata.Registry

/-!
# Grading

A grader resolves the candidate, checks it against the reference of an exercise and, when they
differ, diagnoses the difference.  A fault that is not the candidate's own aborts the run; in any
case there is a result, which the reporter is told.  The reporter is told that the run has finished
whatever it does with the result.

A grader that was made with an empty registry keeps to that one: what is registered later is not
seen.
-/

namespace QuantumKata

/-- What is to be graded: what the registry holds under the candidate name of the exercise or under
another name, or something at hand. -/
inductive Candidate (R : Type) where
  | byDefault
  | named (name : String)
  | given (item : Export R)

namespace Candidate

variable {R : Type}

/-- The candidate that an export stands for: a text is a name, and nothing is no choice at all. -/
def ofExport : Export R → Candidate R
  | .value .null => byDefault
  | .value (.text name) => named name
  | other => given other

variable [Scalar R]

/-- The name by which a candidate is spoken of. -/
def label (exercise : Exercise R) : Candidate R → String
  | byDefault => exercise.candidateName
  | named name => name
  | given (.operation operation) => operation.name
  | given (.value _) => exercise.candidateName

end Candidate

/-- What grading is done with. -/
structure Grader (R : Type) where
  tolerance : R
  profile : TargetProfile
  sizeLimit : SizeLimit
  searchLimit : SearchLimit
  wantsDiagnoses : Bool
  seesRegistry : Bool
  /-- What the names in the bodies of candidates and references stand for. -/
  definitions : Definitions R := {}
  /-- Whether there is a generator of measurement outcomes, or why there is none. -/
  generator : Except Fault Unit := .ok ()

namespace Grader

/-- The grader of a configuration, with the registry and the definitions at hand. -/
def ofConfiguration (configuration : Configuration) (registry : Registry Float)
    (definitions : Definitions Float) : Except Fault (Grader Float) := do
  let profile ← configuration.profile
  return {
    tolerance := configuration.tolerance
    profile
    sizeLimit := configuration.sizeLimit
    searchLimit := configuration.searchLimit
    wantsDiagnoses := configuration.wantsDiagnoses
    seesRegistry := registry.size ≠ 0
    definitions
    generator := configuration.generator }

variable {R : Type} [Scalar R]

/-- The bench on which a grader begins its work. -/
def bench (grader : Grader R) : Bench R := .ofLimit grader.sizeLimit grader.definitions

/-- The registry that a grader sees. -/
def visible (grader : Grader R) (registry : Registry R) : Registry R :=
  if grader.seesRegistry then registry else {}

/-- The checker for an exercise. -/
def checkerFor (grader : Grader R) (exercise : Exercise R) : EquivalenceChecker R :=
  ⟨grader.tolerance, exercise.mode, grader.profile, grader.generator⟩

/-- The runner of diagnoses. -/
def diagnostics (grader : Grader R) : DiagnosticRunner R :=
  ⟨grader.profile, grader.tolerance, grader.searchLimit⟩

/-- A result for a submission that could not be checked. -/
def refusal (exercise : Exercise R) (label message error : String) : GradeResult R where
  exercise := exercise.name
  candidate := label
  verdict := { status := .executionError, mode := exercise.mode, message, error := some error }

/-- The result of a run that was aborted. -/
def abortion (exercise : Exercise R) (label : String) (fault : Fault) : GradeResult R where
  exercise := exercise.name
  candidate := label
  verdict :=
    { status := .aborted, mode := exercise.mode, message := fault.text,
      error := some fault.kind.title }

/-- What a candidate stands for in a registry. -/
def find (registry : Registry R) (exercise : Exercise R) (candidate : Candidate R) :
    Except Fault (Export R) :=
  match candidate with
  | .given item => .ok item
  | other => registry.resolve (other.label exercise)

/-- The operation to be checked, or the result for a candidate without one. -/
def choose (registry : Registry R) (exercise : Exercise R) (candidate : Candidate R) :
    Except (GradeResult R) (Operation R) :=
  let label := candidate.label exercise
  match find registry exercise candidate with
  | .error fault => .error (refusal exercise label fault.text "missing operation")
  | .ok (.value datum) =>
    .error (refusal exercise label
      ("'" ++ label ++ "' is a " ++ datum.typeName ++ ", not an operation") "not an operation")
  | .ok (.operation operation) =>
    if operation.numQubits = exercise.numQubits then .ok operation
    else .error (refusal exercise label
      ("Operation '" ++ label ++ "' acts on " ++ Decimal.integer operation.numQubits ++
        " qubit(s), exercise '" ++ exercise.name ++ "' expects " ++
        Decimal.integer exercise.numQubits) "signature mismatch")

/-- Check an operation and diagnose the difference if there is one. -/
def checkOperation (grader : Grader R) (exercise : Exercise R) (label : String)
    (operation : Operation R) : BenchAction R (GradeResult R) := do
  let verdict ← (grader.checkerFor exercise).check operation exercise.reference exercise.numQubits
    exercise.preparer
  let result : GradeResult R := { exercise := exercise.name, candidate := label, verdict }
  if verdict.status = .incorrect ∧ grader.wantsDiagnoses = true then
    let diagnosis ← grader.diagnostics.diagnose operation exercise.reference exercise.numQubits
      exercise.preparer
    return { result with diagnosis := some diagnosis }
  else return result

/-- Grade a candidate; a fault is one that aborts the run. -/
def assess (grader : Grader R) (registry : Registry R) (exercise : Exercise R)
    (candidate : Candidate R) : BenchAction R (GradeResult R) :=
  match choose (grader.visible registry) exercise candidate with
  | .error result => pure result
  | .ok operation => grader.checkOperation exercise (candidate.label exercise) operation

/-- The result of grading a candidate: a fault becomes an aborted run. -/
def result (grader : Grader R) (registry : Registry R) (exercise : Exercise R)
    (candidate : Candidate R) : BenchAction R (GradeResult R) := do
  let outcome ← Action.attempt (grader.assess registry exercise candidate)
  match outcome with
  | .ok result => return result
  | .error fault => return abortion exercise (candidate.label exercise) fault

/-- Grade a candidate and tell the reporter. -/
def grade {σ : Type} (grader : Grader R) (registry : Registry R) (reporter : Reporter R σ)
    (exercise : Exercise R) (candidate : Candidate R) : Action (Bench R × σ) (GradeResult R) := do
  Action.onSecond (reporter.start exercise)
  Action.ensuring (do
    let result ← Action.onFirst (grader.result registry exercise candidate)
    Action.onSecond (reporter.report result exercise)
    return result) (Action.onSecond reporter.finish)

end Grader

/-! ## Entry points -/

/-- A test that grades a candidate when it is run. -/
structure EntryPoint where
  name : String
  description : String
  run : Action (Bench Float × ReporterState Float) Bool

/-- The test of a candidate, for a test runner that knows nothing about exercises: it writes plain
text and answers whether the candidate passed. -/
def Grader.entryPoint (grader : Grader Float) (registry : Registry Float)
    (exercise : Exercise Float) (candidate : Candidate Float) : EntryPoint where
  name := "check_" ++ exercise.name
  description :=
    if exercise.description.isEmpty then "Grade exercise '" ++ exercise.name ++ "'."
    else exercise.description
  run := do
    let result ← grader.grade registry (Reporter.plain true) exercise candidate
    return result.passed

end QuantumKata
