import QuantumKata.Proofs.Containment
import QuantumKata.Proofs.Diagnosing
import QuantumKata.Proofs.EquivalenceCheck

/-!
# A run of the grader

Whatever is submitted, a run of the grader comes to a result.  A submission without an operation of
the right size is refused before anything is run; a fault that comes out of the check aborts the
run; otherwise the result carries the verdict of the check, with a diagnosis beside it where one is
wanted.  The reporter is told of the start, of the result and of the end, each once and in this
order, and the registers that were live before are live afterwards.

A diagnosis turns the faults of its two parts into notes.  But afterwards it asks whether the search
for a counterexample has reached all sizes, and where the limit of the search cannot be compared with
a number that question is a fault of its own.  It is the only fault of a diagnosis, and it alone
takes the place of a verdict.
-/

namespace QuantumKata

/-! ## Actions on two states -/

namespace Action

variable {σ τ α : Type} {value : α}

theorem onFirst_of_ok {action : Action σ α} {first after : σ} (second : τ)
    (done : action first = (.ok value, after)) :
    onFirst action (first, second) = (.ok value, (after, second)) := by
  rw [onFirst, done]

theorem onSecond_of_ok {action : Action τ α} {second after : τ} (first : σ)
    (done : action second = (.ok value, after)) :
    onSecond action (first, second) = (.ok value, (first, after)) := by
  rw [onSecond, done]

theorem onFirst_then_onSecond {first : Action σ Unit} {state after : σ} (own : τ)
    (second : Action τ α) (done : first state = (.ok (), after)) :
    (do onFirst first; onSecond second : Action (σ × τ) α) (state, own) =
      ((second own).1, (after, (second own).2)) :=
  bind_of_ok (onFirst_of_ok own done)

theorem ensuring_of_ok {action : Action σ α} {afterwards : Action σ Unit} {state between last : σ}
    (done : action state = (.ok value, between)) (cleared : afterwards between = (.ok (), last)) :
    ensuring action afterwards state = (.ok value, last) := by
  rw [ensuring, done]
  dsimp only
  rw [cleared]

end Action

/-! ## Reporters -/

/-- What a reporter is told. -/
inductive Told (R : Type) where
  | started (exercise : Exercise R)
  | reported (result : GradeResult R) (exercise : Exercise R)
  | finished

namespace Reporter

variable {R σ τ : Type}

/-- A reporter that only writes down what it is told. -/
def noter : Reporter R (List (Told R)) where
  start exercise := Action.update (· ++ [.started exercise])
  report result exercise := Action.update (· ++ [.reported result exercise])
  finish := Action.update (· ++ [.finished])

/-- A reporter that does what another one does and then more, with a state of its own. -/
def beside (reporter : Reporter R σ) (more : Reporter R τ) : Reporter R (σ × τ) where
  start exercise := do
    Action.onFirst (reporter.start exercise)
    Action.onSecond (more.start exercise)
  report result exercise := do
    Action.onFirst (reporter.report result exercise)
    Action.onSecond (more.report result exercise)
  finish := do
    Action.onFirst reporter.finish
    Action.onSecond more.finish

/-- A reporter that does not fail while it is idle, and is idle again when it has finished. -/
structure IsSound (reporter : Reporter R σ) (active : σ → Option String) : Prop where
  start : ∀ exercise state, active state = none → (reporter.start exercise state).1 = .ok ()
  report : ∀ result exercise state, (reporter.report result exercise state).1 = .ok ()
  finish : ∀ state, (reporter.finish state).1 = .ok () ∧ active (reporter.finish state).2 = none

theorem claim_of_idle (exercise : Exercise R) {state : ReporterState R}
    (idle : state.active = none) : (ReporterState.claim exercise state).1 = .ok () := by
  rw [ReporterState.claim, idle]

theorem isSound_silent : (silent : Reporter R (ReporterState R)).IsSound ReporterState.active :=
  ⟨fun exercise _ => claim_of_idle exercise, fun _ _ _ => rfl, fun _ => ⟨rfl, rfl⟩⟩

theorem isSound_collecting :
    (collecting : Reporter R (ReporterState R)).IsSound ReporterState.active :=
  ⟨fun exercise _ => claim_of_idle exercise, fun _ _ _ => rfl, fun _ => ⟨rfl, rfl⟩⟩

theorem isSound_plain (showDiagnoses : Bool) :
    (plain showDiagnoses).IsSound ReporterState.active :=
  ⟨fun exercise _ => claim_of_idle exercise, fun _ _ _ => rfl, fun _ => ⟨rfl, rfl⟩⟩

section

variable {reporter : Reporter R σ} {more : Reporter R τ} {state after : σ} {own : τ}

theorem start_beside {exercise : Exercise R}
    (done : reporter.start exercise state = (.ok (), after)) :
    (reporter.beside more).start exercise (state, own) =
      ((more.start exercise own).1, (after, (more.start exercise own).2)) :=
  Action.onFirst_then_onSecond own _ done

theorem report_beside {result : GradeResult R} {exercise : Exercise R}
    (done : reporter.report result exercise state = (.ok (), after)) :
    (reporter.beside more).report result exercise (state, own) =
      ((more.report result exercise own).1, (after, (more.report result exercise own).2)) :=
  Action.onFirst_then_onSecond own _ done

theorem finish_beside (done : reporter.finish state = (.ok (), after)) :
    (reporter.beside more).finish (state, own) =
      ((more.finish own).1, (after, (more.finish own).2)) :=
  Action.onFirst_then_onSecond own _ done

end

namespace IsSound

variable {reporter : Reporter R σ} {active : σ → Option String} (sound : reporter.IsSound active)

include sound

theorem start_eq (exercise : Exercise R) {state : σ} (idle : active state = none) :
    reporter.start exercise state = (.ok (), (reporter.start exercise state).2) :=
  Prod.ext (sound.start exercise state idle) rfl

theorem report_eq (result : GradeResult R) (exercise : Exercise R) (state : σ) :
    reporter.report result exercise state =
      (.ok (), (reporter.report result exercise state).2) :=
  Prod.ext (sound.report result exercise state) rfl

theorem finish_eq (state : σ) :
    reporter.finish state = (.ok (), (reporter.finish state).2) :=
  Prod.ext (sound.finish state).1 rfl

/-- A sound reporter stays sound whatever methods it gets in addition, if they do not fail. -/
theorem beside {more : Reporter R τ}
    (starts : ∀ exercise state, (more.start exercise state).1 = .ok ())
    (reports : ∀ result exercise state, (more.report result exercise state).1 = .ok ())
    (finishes : ∀ state, (more.finish state).1 = .ok ()) :
    (reporter.beside more).IsSound fun state => active state.1 := by
  constructor
  case start =>
    rintro exercise ⟨state, own⟩ idle
    rw [start_beside (sound.start_eq exercise idle)]
    exact starts exercise own
  case report =>
    rintro result exercise ⟨state, own⟩
    rw [report_beside (sound.report_eq result exercise state)]
    exact reports result exercise own
  case finish =>
    rintro ⟨state, own⟩
    rw [finish_beside (sound.finish_eq state)]
    exact ⟨finishes own, (sound.finish state).2⟩

end IsSound

end Reporter

/-! ## The result -/

namespace Grader

open EquivalenceChecker

variable {R σ : Type} [Scalar R] {grader : Grader R} {registry : Registry R}
  {exercise : Exercise R} {candidate : Candidate R} {operation : Operation R} {bench : Bench R}

/-- The check that a run of the grader makes of an operation. -/
def checkFor (grader : Grader R) (exercise : Exercise R) (operation : Operation R) :
    BenchAction R (Verdict R) :=
  (grader.checkerFor exercise).check operation exercise.reference exercise.numQubits
    exercise.preparer

theorem givesBack_assess (grader : Grader R) (registry : Registry R) (exercise : Exercise R)
    (candidate : Candidate R) :
    Bench.GivesBack (grader.assess registry exercise candidate) :=
  (isErrand_assess grader registry exercise candidate).givesBack

/-- A difference in an exercise can be diagnosed: where a diagnosis would ask for the limit of its
search, sizes can be compared with the limit. -/
def CanDiagnose (grader : Grader R) (exercise : Exercise R) : Prop :=
  grader.wantsDiagnoses = true → exercise.preparer = none →
    ∀ typeName, grader.searchLimit ≠ .incomparable typeName

/-- The result of a run of the grader. -/
def graded (grader : Grader R) (registry : Registry R) (exercise : Exercise R)
    (candidate : Candidate R) (bench : Bench R) : GradeResult R :=
  match (grader.assess registry exercise candidate bench).1 with
  | .ok result => result
  | .error fault => abortion exercise (candidate.label exercise) fault

theorem result_eq (grader : Grader R) (registry : Registry R) (exercise : Exercise R)
    (candidate : Candidate R) (bench : Bench R) :
    grader.result registry exercise candidate bench =
      (.ok (grader.graded registry exercise candidate bench),
        (grader.assess registry exercise candidate bench).2) := by
  simp only [result, Action.bind_apply, Action.attempt, graded]
  cases (grader.assess registry exercise candidate bench).1 <;> rfl

/-- An idle reporter that is sound is taken from its start through the report of the result to its
end. -/
theorem grade_eq {reporter : Reporter R σ} {active : σ → Option String}
    (sound : reporter.IsSound active) {state : σ} (idle : active state = none) :
    grader.grade registry reporter exercise candidate (bench, state) =
      (.ok (grader.graded registry exercise candidate bench),
        ((grader.assess registry exercise candidate bench).2,
          (reporter.finish (reporter.report (grader.graded registry exercise candidate bench)
            exercise (reporter.start exercise state).2).2).2)) := by
  have graded := result_eq grader registry exercise candidate bench
  rw [grade, Action.bind_of_ok (Action.onSecond_of_ok bench (sound.start_eq exercise idle))]
  refine Action.ensuring_of_ok ?_ (Action.onSecond_of_ok _ (sound.finish_eq _))
  rw [Action.bind_of_ok (Action.onFirst_of_ok _ graded),
    Action.bind_of_ok (Action.onSecond_of_ok _ (sound.report_eq _ exercise _))]
  rfl

/-! ## The operation that is checked -/

theorem choose_eq_ok_iff :
    choose registry exercise candidate = .ok operation ↔
      find registry exercise candidate = .ok (.operation operation) ∧
        operation.numQubits = exercise.numQubits := by
  rw [choose]
  rcases find registry exercise candidate with fault | found | datum
  · exact ⟨nofun, nofun⟩
  · dsimp only
    by_cases arity : found.numQubits = exercise.numQubits
    · rw [if_pos arity]
      constructor
      · rintro ⟨⟩
        exact ⟨rfl, arity⟩
      · rintro ⟨⟨⟩, -⟩
        rfl
    · rw [if_neg arity]
      constructor
      · rintro ⟨⟩
      · rintro ⟨⟨⟩, same⟩
        exact absurd same arity
  · exact ⟨nofun, nofun⟩

/-- A submission without an operation of the right size is refused. -/
theorem exists_refusal {refused : GradeResult R}
    (chosen : choose registry exercise candidate = .error refused) :
    ∃ message error, refused = refusal exercise (candidate.label exercise) message error := by
  rcases found : find registry exercise candidate with fault | other | datum <;>
    rw [choose, found] at chosen <;> dsimp only at chosen
  · cases chosen
    exact ⟨_, _, rfl⟩
  · split at chosen
    · cases chosen
    · cases chosen
      exact ⟨_, _, rfl⟩
  · cases chosen
    exact ⟨_, _, rfl⟩

theorem status_of_refused {refused : GradeResult R}
    (chosen : choose registry exercise candidate = .error refused) :
    refused.status = .executionError := by
  rcases exists_refusal chosen with ⟨message, error, rfl⟩
  rfl

/-! ## What becomes of a check -/

theorem assess_of_refused {refused : GradeResult R}
    (chosen : choose (grader.visible registry) exercise candidate = .error refused) :
    grader.assess registry exercise candidate bench = (.ok refused, bench) := by
  rw [assess, chosen]
  rfl

section

variable (chosen : choose (grader.visible registry) exercise candidate = .ok operation)

include chosen

/-- A fault of the check aborts the run. -/
theorem graded_of_error {fault : Fault}
    (failed : (grader.checkFor exercise operation bench).1 = .error fault) :
    grader.graded registry exercise candidate bench =
      abortion exercise (candidate.label exercise) fault := by
  rcases ended : grader.checkFor exercise operation bench with ⟨outcome, later⟩
  rw [ended] at failed
  cases failed
  rw [checkFor] at ended
  rw [graded, assess, chosen]
  simp only [checkOperation, Action.bind_of_error ended]

theorem graded_eq_of_ok {verdict : Verdict R} {later : Bench R}
    (checked : grader.checkFor exercise operation bench = (.ok verdict, later)) :
    grader.graded registry exercise candidate bench =
      if verdict.status = .incorrect ∧ grader.wantsDiagnoses = true then
        match (grader.diagnostics.diagnose operation exercise.reference exercise.numQubits
          exercise.preparer later).1 with
        | .ok diagnosis => ⟨exercise.name, candidate.label exercise, verdict, some diagnosis⟩
        | .error fault => abortion exercise (candidate.label exercise) fault
      else ⟨exercise.name, candidate.label exercise, verdict, none⟩ := by
  rw [checkFor] at checked
  rw [graded, assess, chosen]
  simp only [checkOperation, Action.bind_of_ok checked]
  by_cases diagnosed : verdict.status = .incorrect ∧ grader.wantsDiagnoses = true
  · rw [if_pos diagnosed, if_pos diagnosed]
    rcases ended : grader.diagnostics.diagnose operation exercise.reference exercise.numQubits
      exercise.preparer later with ⟨fault | diagnosis, last⟩
    · rw [Action.bind_of_error ended]
    · rw [Action.bind_of_ok ended]
      rfl
  · rw [if_neg diagnosed, if_neg diagnosed]
    rfl

/-- A diagnosis does not change a verdict except by a fault. -/
theorem verdict_graded_or_aborted {verdict : Verdict R}
    (checked : (grader.checkFor exercise operation bench).1 = .ok verdict) :
    (grader.graded registry exercise candidate bench).verdict = verdict ∨
      (grader.graded registry exercise candidate bench).status = .aborted := by
  rw [graded_eq_of_ok chosen (Prod.ext checked rfl)]
  split
  · split
    · exact .inl rfl
    · exact .inr rfl
  · exact .inl rfl

/-- A verdict of the check is the verdict of the run, unless a difference cannot be diagnosed. -/
theorem verdict_graded {verdict : Verdict R}
    (checked : (grader.checkFor exercise operation bench).1 = .ok verdict)
    (diagnosable : verdict.status = .incorrect → grader.CanDiagnose exercise) :
    (grader.graded registry exercise candidate bench).verdict = verdict := by
  rw [graded_eq_of_ok chosen (Prod.ext checked rfl)]
  split
  case isTrue diagnosed =>
    have answered : exercise.preparer = none →
        ∃ within, grader.diagnostics.searchLimit.reaches exercise.numQubits = .ok within := by
      intro noPreparer
      exact SearchLimit.exists_reaches_eq_ok
        (diagnosable diagnosed.1 diagnosed.2 noPreparer) exercise.numQubits
    rcases grader.diagnostics.outcome_diagnose operation exercise.reference exercise.numQubits
      exercise.preparer answered (grader.checkFor exercise operation bench).2 with
      ⟨diagnosis, gathered⟩
    rw [gathered]
  case isFalse => rfl

end

/-- The outcome of a check is behind each run that ends correct or incorrect. -/
theorem exists_of_status
    (isGraded : (grader.graded registry exercise candidate bench).status = .correct ∨
      (grader.graded registry exercise candidate bench).status = .incorrect) :
    ∃ operation verdict,
      choose (grader.visible registry) exercise candidate = .ok operation ∧
      (grader.checkFor exercise operation bench).1 = .ok verdict ∧
      verdict.status = (grader.graded registry exercise candidate bench).status := by
  cases chosen : choose (grader.visible registry) exercise candidate with
  | error refused =>
    rw [graded, assess_of_refused chosen] at isGraded
    rcases isGraded with correct | incorrect
    · cases (status_of_refused chosen).symm.trans correct
    · cases (status_of_refused chosen).symm.trans incorrect
  | ok operation =>
    cases checked : (grader.checkFor exercise operation bench).1 with
    | error fault =>
      rw [graded_of_error chosen checked] at isGraded
      rcases isGraded with correct | incorrect
      · cases correct
      · cases incorrect
    | ok verdict =>
      refine ⟨operation, verdict, rfl, checked, ?_⟩
      rcases verdict_graded_or_aborted chosen checked with same | aborted
      · rw [GradeResult.status, same]
      · rw [aborted] at isGraded
        rcases isGraded with correct | incorrect
        · cases correct
        · cases incorrect

/-! ## Runs of the grader -/

/-- A run of the grader always comes to a result, whatever is submitted and whatever the bodies that
it checks raise.  A reporter that is sound is told of it from the start to the end and is idle again,
and the registers that were live before are live afterwards.  What has no operation of the right size
is refused without a check, a fault of the check aborts the run under the name of its class, and
where sizes can be compared with the limit of the search for counterexamples the outcome is correct
or incorrect exactly if the check says so. -/
theorem grade_completes {reporter : Reporter R σ} {active : σ → Option String}
    (sound : reporter.IsSound active) (grader : Grader R) (registry : Registry R)
    (exercise : Exercise R) (candidate : Candidate R) {bench : Bench R}
    (fresh : bench.arena.IsFresh) {state : σ} (idle : active state = none) :
    ∃ result later after,
      grader.grade registry reporter exercise candidate (bench, state) =
        (.ok result, (later, after)) ∧
      grader.grade registry (reporter.beside .noter) exercise candidate (bench, (state, [])) =
        (.ok result, (later,
          (after, [.started exercise, .reported result exercise, .finished]))) ∧
      active after = none ∧
      later.arena.live = bench.arena.live ∧
      (∀ operation, choose (grader.visible registry) exercise candidate = .ok operation ↔
        find (grader.visible registry) exercise candidate = .ok (.operation operation) ∧
          operation.numQubits = exercise.numQubits) ∧
      (∀ refused, choose (grader.visible registry) exercise candidate = .error refused →
        result = refused ∧ result.status = .executionError ∧ later = bench) ∧
      (∀ operation, choose (grader.visible registry) exercise candidate = .ok operation →
        (∀ fault, (grader.checkFor exercise operation bench).1 = .error fault →
          result.status = .aborted ∧ result.verdict.error = some fault.kind.title ∧
            result.verdict.message = fault.text) ∧
        ∀ verdict, (grader.checkFor exercise operation bench).1 = .ok verdict →
          (verdict.status = .incorrect → grader.CanDiagnose exercise) →
          result.verdict = verdict) ∧
      ∀ status, status = .correct ∨ status = .incorrect →
        (status = .incorrect → grader.CanDiagnose exercise) →
        (result.status = status ↔ ∃ operation verdict,
          choose (grader.visible registry) exercise candidate = .ok operation ∧
          (grader.checkFor exercise operation bench).1 = .ok verdict ∧
          verdict.status = status) := by
  have soundBeside : (reporter.beside .noter).IsSound fun state => active state.1 :=
    sound.beside (fun _ _ => rfl) (fun _ _ _ => rfl) fun _ => rfl
  refine ⟨grader.graded registry exercise candidate bench, _, _, grade_eq sound idle, ?_,
    (sound.finish _).2, (givesBack_assess grader registry exercise candidate bench fresh).1,
    fun operation => choose_eq_ok_iff, ?_, ?_, ?_⟩
  · rw [grade_eq soundBeside idle, Reporter.start_beside (sound.start_eq exercise idle),
      Reporter.report_beside (sound.report_eq _ exercise _),
      Reporter.finish_beside (sound.finish_eq _)]
    rfl
  · intro refused chosen
    have assessed : grader.assess registry exercise candidate bench = (.ok refused, bench) :=
      assess_of_refused chosen
    rw [graded, assessed]
    exact ⟨rfl, status_of_refused chosen, rfl⟩
  · intro operation chosen
    refine ⟨?_, fun verdict => verdict_graded chosen⟩
    intro fault failed
    rw [graded_of_error chosen failed]
    exact ⟨rfl, rfl, rfl⟩
  · intro status isGraded diagnosable
    constructor
    · rintro rfl
      exact exists_of_status isGraded
    · rintro ⟨operation, verdict, chosen, checked, rfl⟩
      rw [GradeResult.status, verdict_graded chosen checked diagnosable]

/-- A grader with a limit on the search for counterexamples. -/
noncomputable def searching (limit : SearchLimit) : Grader ℝ where
  tolerance := EquivalenceChecker.stateChecker.tolerance
  profile := .unrestricted
  sizeLimit := .standard
  searchLimit := limit
  wantsDiagnoses := true
  seesRegistry := false

/-- The exercise to flip a qubit. -/
def flipExercise : Exercise ℝ where
  name := "flip_qubit"
  numQubits := 1
  reference := Engine.flip ℝ
  preparer := none
  mode := .operator
  description := ""
  hint := ""
  candidateName := "flip_qubit"
  tags := []

/-- A body that uses a released register aborts the run, and one that is not registered is
refused. -/
theorem grade_completes_of_raiser :
    let grader := searching .standard
    let exercise : Exercise ℝ := { flipExercise with mode := .state }
    let raising : Operation ℝ := raiser .all .stateReleased
    let grade := fun (candidate : Candidate ℝ) =>
      grader.grade {} Reporter.collecting exercise candidate (grader.bench, {})
    (∃ result later after,
      grade (.given (.operation raising)) = (.ok result, (later, after)) ∧ after.active = none ∧
      later.arena.live = [] ∧ result.status = .aborted ∧
      result.verdict.error = some FaultKind.releasedRegister.title) ∧
    ∃ result later after,
      grade .byDefault = (.ok result, (later, after)) ∧ result.status = .executionError := by
  intro grader exercise raising grade
  have fresh : grader.bench.arena.IsFresh := Arena.isFresh_empty _
  have idle : ReporterState.active ({} : ReporterState ℝ) = none := rfl
  constructor
  · rcases grade_completes Reporter.isSound_collecting grader {} exercise
      (.given (.operation raising)) fresh idle with
      ⟨result, later, after, graded, -, idleAgain, live, -, -, checked, -⟩
    have failed : (grader.checkFor exercise raising grader.bench).1 =
        .error (.attributed "candidate" "body" .stateReleased) := rfl
    have aborted := (checked raising rfl).1 _ failed
    exact ⟨result, later, after, graded, idleAgain, live, aborted.1, aborted.2.1⟩
  · rcases grade_completes Reporter.isSound_collecting grader {} exercise .byDefault fresh
      idle with ⟨result, later, after, graded, -, -, -, -, refused, -⟩
    exact ⟨result, later, after, graded, (refused _ rfl).2.1⟩

end Grader

/-! ## A limit that is not a number -/

/-- Whether a configuration is accepted does not depend on its limit on the search for
counterexamples. -/
theorem Configuration.check_set_counterexampleMaxQubits (configuration : Configuration)
    (value : Datum) :
    (configuration.set .counterexampleMaxQubits value).check =
      configuration.check.map fun accepted => accepted.set .counterexampleMaxQubits value := by
  let changed := configuration.set .counterexampleMaxQubits value
  have tolerance : changed.checkTolerance = configuration.checkTolerance := rfl
  have qubits : changed.checkCount .maxQubits = configuration.checkCount .maxQubits := rfl
  have timeout : changed.checkTimeout = configuration.checkTimeout := rfl
  have workers : changed.checkCount .maxWorkers = configuration.checkCount .maxWorkers := rfl
  have level : changed.checkLogLevel = configuration.checkLogLevel := rfl
  change changed.check = _
  rw [check, check, tolerance, qubits, timeout, workers, level]
  cases configuration.checkTolerance with
  | error fault => rfl
  | ok _ =>
    cases configuration.checkCount .maxQubits with
    | error fault => rfl
    | ok _ =>
      cases configuration.checkTimeout with
      | error fault => rfl
      | ok _ =>
        cases configuration.checkCount .maxWorkers with
        | error fault => rfl
        | ok _ => cases configuration.checkLogLevel <;> rfl

namespace EquivalenceChecker

/-- A check rejects the operation without any steps as a flip. -/
theorem check_idle_flip {checker : EquivalenceChecker ℝ} (positive : 0 < checker.tolerance)
    (quarter : checker.tolerance ≤ 1 / 4) (mode : checker.mode = .operator)
    (unrestricted : checker.profile = .unrestricted) (generated : checker.generator = .ok ()) :
    ∃ verdict later,
      checker.check idle (Engine.flip ℝ) (1 : ℕ) none (.ofLimit .standard {}) =
        (.ok verdict, later) ∧
      verdict.status = .incorrect := by
  have roomy : (Bench.ofLimit .standard {} : Bench ℝ).arena.limit.isExceededBy
      (registerSize checker.mode (1 : ℕ)) = false := by
    rw [mode]
    rfl
  rcases check_decides positive quarter unrestricted generated idle_acts trivial rfl flip_isUndone
    trivial rfl preparerFits_none rfl roomy with ⟨equivalent, phase, later, checked, decides, -⟩
  have refused : ¬equivalent = true := by
    rw [decides, mode, agreement_idle_flip, norm_zero]
    linarith
  refine ⟨_, later, checked, ?_⟩
  rw [judge_status, if_neg refused]

end EquivalenceChecker

namespace Grader

open EquivalenceChecker

/-- The limit on the search for counterexamples is accepted whatever it is.  When it is nothing, a
check that finds the candidate different from the reference ends in an aborted run, because the
diagnosis compares the limit with the number of qubits once more. -/
theorem aborted_of_incomparable_limit :
    let grader := searching (.incomparable "NoneType")
    let candidate : Candidate ℝ := .given (.operation idle)
    (∀ configuration accepted, Configuration.check configuration = .ok accepted →
      ∃ changed, (configuration.set .counterexampleMaxQubits .null).check = .ok changed ∧
        changed.searchLimit = .incomparable "NoneType") ∧
    ∃ verdict result later after,
      (grader.checkFor flipExercise idle grader.bench).1 = .ok verdict ∧
      verdict.status = .incorrect ∧
      grader.grade {} Reporter.collecting flipExercise candidate (grader.bench, {}) =
        (.ok result, (later, after)) ∧
      result.status = .aborted ∧ result.verdict.error = some "TypeError" := by
  intro grader candidate
  constructor
  · intro configuration accepted isAccepted
    refine ⟨accepted.set .counterexampleMaxQubits .null, ?_, rfl⟩
    rw [Configuration.check_set_counterexampleMaxQubits, isAccepted]
    rfl
  have quarter : (grader.checkerFor flipExercise).tolerance ≤ 1 / 4 := le_refl _
  have positive : 0 < (grader.checkerFor flipExercise).tolerance := one_div_pos.2 four_pos
  rcases check_idle_flip positive quarter rfl rfl rfl with ⟨verdict, later, checked, incorrect⟩
  have chosen : choose (grader.visible {}) flipExercise candidate = .ok idle := rfl
  have outcome : (grader.checkFor flipExercise idle grader.bench).1 = .ok verdict :=
    congrArg Prod.fst checked
  have aborted : grader.graded {} flipExercise candidate grader.bench = abortion flipExercise
      (candidate.label flipExercise) (SearchLimit.disorder "<=" "NoneType") := by
    have failed : (grader.diagnostics.diagnose idle flipExercise.reference flipExercise.numQubits
        flipExercise.preparer (grader.checkFor flipExercise idle grader.bench).2).1 =
        .error (SearchLimit.disorder "<=" "NoneType") :=
      grader.diagnostics.outcome_diagnose_of_error _ _ _ rfl _
    rw [graded_eq_of_ok chosen (Prod.ext outcome rfl), if_pos ⟨incorrect, rfl⟩, failed]
  exact ⟨verdict, _, _, _, outcome, incorrect, grade_eq Reporter.isSound_collecting rfl,
    by rw [aborted]; rfl, by rw [aborted]; rfl⟩

end Grader

end QuantumKata
