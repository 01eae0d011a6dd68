import QuantumKata.Grading.Grader
import QuantumKata.Listing

/-!
# Suites

A suite grades many exercises with one grader.  Every run has a reporter of its own.  A run that
takes longer than allowed counts as an execution error, and a run whose reporter fails counts as
aborted, so that every exercise has a result.  Results are collected under the names of the
exercises: of several exercises with one name the last result stands for all of them.
-/

namespace QuantumKata

/-- The time allowed for a run, with the text that shows it. -/
structure TimeLimit (R : Type) where
  seconds : R
  label : String

/-- A time limit in seconds, shown with one place. -/
def TimeLimit.ofSeconds (seconds : Float) : TimeLimit Float := ⟨seconds, Decimal.fixed 1 seconds⟩

/-- The results of a suite. -/
structure SuiteResults (R : Type) where
  results : List (GradeResult R)

namespace SuiteResults

variable {R : Type}

/-- The number of results. -/
def total (suite : SuiteResults R) : Nat := suite.results.length

/-- The number of results that are correct. -/
def passed (suite : SuiteResults R) : Nat := suite.results.countP GradeResult.passed

/-- The number of results with an outcome. -/
def count (suite : SuiteResults R) (status : VerdictStatus) : Nat :=
  suite.results.countP fun result => result.status == status

/-- The result of an exercise. -/
def find? (suite : SuiteResults R) (exercise : String) : Option (GradeResult R) :=
  suite.results.find? fun result => result.exercise == exercise

/-- The part of the results that is correct. -/
def passRate (suite : SuiteResults Float) : Float :=
  if suite.total = 0 then 0 else Float.ofNat suite.passed / Float.ofNat suite.total

/-- The totals of a suite as fields of a record. -/
def totals (suite : SuiteResults Float) : List (String × Datum) :=
  [("total", .integer suite.total), ("passed", .integer suite.passed),
    ("pass_rate", .real suite.passRate),
    ("counts", .record (VerdictStatus.all.map fun status =>
      (status.word, .integer (suite.count status))))]

/-- The results of a suite as a record. -/
def toRecord (suite : SuiteResults Float) : Datum :=
  .record (suite.totals ++ [("results", .list (suite.results.map GradeResult.toRecord))])

/-- The totals in words. -/
def summary (suite : SuiteResults Float) : String :=
  Decimal.digits suite.passed ++ "/" ++ Decimal.digits suite.total ++ " (" ++
    Decimal.percentage suite.passRate ++ ")"

end SuiteResults

/-- A way to get a reporter for a run, which may fail. -/
abbrev ReporterSource (R : Type) : Type := Except Fault (Reporter R (ReporterState R))

/-- What runs of a suite leave behind: the results by exercise and what the reporters kept. -/
structure SuiteProgress (R : Type) where
  collected : Listing (GradeResult R) := {}
  reports : List (ReporterState R) := []

/-- How a suite ends: the results in the order of the exercises, what the reporters kept, and the
bench. -/
structure SuiteOutcome (R : Type) where
  results : SuiteResults R
  reports : List (ReporterState R)
  bench : Bench R

/-- What a suite is run with.  Without workers of its own it has those of the configuration, of
which there is at least one. -/
structure SuiteRunner (R : Type) where
  grader : Grader R
  workers : Option Int
  limit : TimeLimit R

namespace SuiteRunner

variable {R : Type}

/-- The result of a run that took too long. -/
def overdue (limit : TimeLimit R) (exercise : Exercise R) : GradeResult R where
  exercise := exercise.name
  candidate := exercise.candidateName
  verdict :=
    { status := .executionError, mode := exercise.mode,
      message := "Timed out after " ++ limit.label ++ "s", error := some "timeout" }

/-- The result of a run whose reporter failed. -/
def crash (exercise : Exercise R) (fault : Fault) : GradeResult R where
  exercise := exercise.name
  candidate := exercise.candidateName
  verdict :=
    { status := .aborted, mode := exercise.mode, message := fault.text,
      error := some fault.kind.title }

variable [Scalar R]

/-- The candidate for an exercise: the one submitted for it, else the one in the registry. -/
def candidateFor (submissions : Listing (Export R)) (exercise : Exercise R) : Candidate R :=
  match submissions.find? exercise.name with
  | some submitted => .ofExport submitted
  | none => .byDefault

/-- Make one run: its result and what its reporter kept.  Of a run that took too long only the start
is reported. -/
def runOne (runner : SuiteRunner R) (registry : Registry R) (submissions : Listing (Export R))
    (source : ReporterSource R) (exercise : Exercise R) (bench : Bench R) :
    (GradeResult R × Option (ReporterState R)) × Bench R :=
  match source with
  | .error fault => ((crash exercise fault, none), bench)
  | .ok reporter =>
    let (outcome, after, state) :=
      runner.grader.grade registry reporter exercise (candidateFor submissions exercise)
        ({ bench with elapsed := 0 }, {})
    if Scalar.less runner.limit.seconds after.elapsed then
      ((overdue runner.limit exercise, some (reporter.start exercise {}).2), after)
    else
      match outcome with
      | .ok result => ((result, some state), after)
      | .error fault => ((crash exercise fault, some state), after)

/-- Make runs one after the other. -/
def runEach (runner : SuiteRunner R) (registry : Registry R) (submissions : Listing (Export R))
    (source : ReporterSource R) (progress : SuiteProgress R) :
    List (Exercise R) → Bench R → SuiteProgress R × Bench R
  | [], bench => (progress, bench)
  | exercise :: rest, bench =>
    let ((result, report), after) := runner.runOne registry submissions source exercise bench
    let next : SuiteProgress R :=
      ⟨progress.collected.put exercise.name result, progress.reports ++ report.toList⟩
    runEach runner registry submissions source next rest after

/-- Grade exercises. -/
def run (runner : SuiteRunner R) (registry : Registry R) (submissions : Listing (Export R))
    (source : ReporterSource R) (exercises : List (Exercise R)) : Except Fault (SuiteOutcome R) :=
  if runner.workers.any fun workers => decide (workers < 0) then .error .noWorkers
  else
    let (progress, bench) :=
      runEach runner registry submissions source {} exercises runner.grader.bench
    .ok {
      results := ⟨exercises.filterMap fun exercise => progress.collected.find? exercise.name⟩
      reports := progress.reports
      bench }

end SuiteRunner

end QuantumKata
