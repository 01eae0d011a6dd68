import Mathlib.Data.List.Basic
import QuantumKata.Grading.Suite
import QuantumKata.Proofs.Grading
import QuantumKata.Proofs.Interleaving

/-!
# Runs of a suite

A suite grades its exercises on one arena.  Whether it does so one after the other or with runs that
overtake each other, every exercise has the result that it has when it is graded alone on a fresh
arena: a run is an errand at the arena, and the results are collected under different names.
-/

namespace QuantumKata

/-! ## Totals -/

namespace SuiteResults

variable {R : Type}

/-- Every result has one of the outcomes. -/
theorem sum_count (suite : SuiteResults R) :
    (VerdictStatus.all.map suite.count).sum = suite.total := by
  rcases suite with ⟨results⟩
  induction results with
  | nil => rfl
  | cons result rest ih =>
    simp only [VerdictStatus.all, List.map_cons, List.map_nil, List.sum_cons, List.sum_nil, count,
      total, List.countP_cons, List.length_cons] at ih ⊢
    rw [← ih]
    cases result.status <;> simp <;> omega

end SuiteResults

/-! ## Runs one after the other -/

namespace SuiteRunner

variable {R : Type} [Scalar R] {runner : SuiteRunner R} {registry : Registry R}
  {submissions : Listing (Export R)} {exercise : Exercise R} {exercises : List (Exercise R)}
  {bench : Bench R}

/-- The result of an exercise that is graded alone on a fresh arena. -/
def alone (runner : SuiteRunner R) (registry : Registry R) (submissions : Listing (Export R))
    (exercise : Exercise R) : GradeResult R :=
  runner.grader.graded registry exercise (candidateFor submissions exercise) runner.grader.bench

/-- Grading the exercise alone does not take longer than the runner allows. -/
def InTime (runner : SuiteRunner R) (registry : Registry R) (submissions : Listing (Export R))
    (exercise : Exercise R) : Prop :=
  Scalar.less runner.limit.seconds (runner.grader.assess registry exercise
    (candidateFor submissions exercise) runner.grader.bench).2.elapsed = false

/-- At a bench with the limit and the definitions of the grader a result is what it is alone. -/
theorem graded_eq_alone (limit : bench.arena.limit = runner.grader.sizeLimit)
    (known : bench.definitions = runner.grader.definitions) :
    runner.grader.graded registry exercise (candidateFor submissions exercise) bench =
      runner.alone registry submissions exercise := by
  let work := runner.grader.assess registry exercise (candidateFor submissions exercise)
  have same : (work bench).1 = (work runner.grader.bench).1 :=
    ((Grader.isErrand_assess _ _ _ _).congr limit known).1
  rw [alone, Grader.graded, Grader.graded, same]

/-- What is submitted as an operation is graded whatever the registry holds. -/
theorem alone_of_submitted {operation : Operation R}
    (submitted : submissions.find? exercise.name = some (.operation operation))
    (other : Registry R) :
    runner.alone registry submissions exercise = runner.alone other submissions exercise := by
  have candidate : candidateFor submissions exercise = .given (.operation operation) := by
    rw [candidateFor, submitted]
    rfl
  rw [alone, alone, candidate]
  rfl

theorem alone_of_unsubmitted (unsubmitted : submissions.find? exercise.name = none) :
    runner.alone registry submissions exercise =
      runner.grader.graded registry exercise .byDefault runner.grader.bench := by
  rw [alone, candidateFor, unsubmitted]

section

variable {reporter : Reporter R (ReporterState R)} {active : ReporterState R → Option String}
  (sound : reporter.IsSound active) (idle : active {} = none)

include sound idle

/-- A run that is in time has the result that it has alone, and gives its registers back. -/
theorem runOne_eq (inTime : runner.InTime registry submissions exercise)
    (limit : bench.arena.limit = runner.grader.sizeLimit)
    (known : bench.definitions = runner.grader.definitions) (fresh : bench.arena.IsFresh) :
    ∃ report after,
      runner.runOne registry submissions (.ok reporter) exercise bench =
        ((runner.alone registry submissions exercise, report), after) ∧
      after.arena.limit = runner.grader.sizeLimit ∧
      after.definitions = runner.grader.definitions ∧ after.arena.IsFresh ∧
      after.arena.live = bench.arena.live := by
  let work := runner.grader.assess registry exercise (candidateFor submissions exercise)
  let ready : Bench R := { bench with elapsed := 0 }
  have isErrand : Bench.IsErrand work := Grader.isErrand_assess _ _ _ _
  have kept := isErrand.keeps ready
  have returned := isErrand.givesBack ready fresh
  have time : (work ready).2.elapsed = (work runner.grader.bench).2.elapsed :=
    (isErrand.congr limit known).2 rfl
  have result : runner.grader.graded registry exercise (candidateFor submissions exercise) ready =
      runner.alone registry submissions exercise := graded_eq_alone limit known
  rw [InTime, ← time] at inTime
  refine ⟨some (reporter.finish (reporter.report (runner.alone registry submissions exercise)
      exercise (reporter.start exercise {}).2).2).2,
    (work ready).2, ?_, (congrArg Prod.fst kept).trans limit, (congrArg Prod.snd kept).trans known,
    returned.2, returned.1⟩
  rw [← result]
  rw [runOne]
  simp only [Grader.grade_eq sound idle]
  rw [if_neg (Bool.eq_false_iff.1 inTime)]

/-- After runs one after the other, every exercise has the result that it has alone, and what was
collected under other names is still there. -/
theorem runEach_collects (distinct : (exercises.map Exercise.name).Nodup)
    (inTime : ∀ exercise ∈ exercises, runner.InTime registry submissions exercise) :
    ∀ (progress : SuiteProgress R) (bench : Bench R),
      bench.arena.limit = runner.grader.sizeLimit →
      bench.definitions = runner.grader.definitions → bench.arena.IsFresh →
      ∃ ended after,
        runner.runEach registry submissions (.ok reporter) progress exercises bench =
          (ended, after) ∧
        (∀ exercise ∈ exercises, ended.collected.find? exercise.name =
          some (runner.alone registry submissions exercise)) ∧
        (∀ name, name ∉ exercises.map Exercise.name →
          ended.collected.find? name = progress.collected.find? name) ∧
        after.arena.live = bench.arena.live := by
  induction exercises with
  | nil =>
    intro progress bench _ _ _
    exact ⟨progress, bench, rfl, by simp, fun _ _ => rfl, rfl⟩
  | cons exercise rest ih =>
    intro progress bench limit known fresh
    -- What is collected here stays there: no later exercise has the name.
    rcases List.nodup_cons.1 distinct with ⟨new, distinctRest⟩
    rcases List.forall_mem_cons.1 inTime with ⟨inTimeHere, inTimeRest⟩
    rcases runOne_eq sound idle inTimeHere limit known fresh with
      ⟨report, between, ran, limitBetween, knownBetween, freshBetween, liveBetween⟩
    rcases ih distinctRest inTimeRest
      ⟨progress.collected.put exercise.name (runner.alone registry submissions exercise),
        progress.reports ++ report.toList⟩ between limitBetween knownBetween freshBetween with
      ⟨ended, after, ranRest, collects, others, live⟩
    refine ⟨ended, after, ?_, ?_, ?_, live.trans liveBetween⟩
    · rw [runEach, ran]
      exact ranRest
    · refine List.forall_mem_cons.2 ⟨?_, collects⟩
      rw [others _ new]
      exact Listing.find?_put_self _ _ _
    · intro name absent
      rw [List.map_cons, List.mem_cons, not_or] at absent
      rw [others name absent.2]
      exact Listing.find?_put_of_ne _ absent.1 _

end

/-! ## Runs that overtake each other -/

/-- The runs of a suite as jobs.  The outcome of a run is its result, and a fault would be taken for
a crash. -/
def jobs (exercises : List (Exercise R))
    (errand : Fin exercises.length → Errand R (GradeResult R)) :
    Jobs (Fin exercises.length) R (GradeResult R) where
  errand
  name job := (exercises.get job).name
  settle job
    | .ok result => result
    | .error fault => crash (exercises.get job) fault

/-- The errands of the runs of a suite. -/
def AreErrands (runner : SuiteRunner R) (registry : Registry R)
    (submissions : Listing (Export R)) (exercises : List (Exercise R))
    (errand : Fin exercises.length → Errand R (GradeResult R)) : Prop :=
  ∀ job, Bench.Does runner.grader.definitions (runner.grader.result registry (exercises.get job)
    (candidateFor submissions (exercises.get job))) (errand job)

theorem exists_errands (runner : SuiteRunner R) (registry : Registry R)
    (submissions : Listing (Export R)) (exercises : List (Exercise R)) :
    ∃ errand, runner.AreErrands registry submissions exercises errand := by
  choose errand does using fun job : Fin exercises.length =>
    Grader.isErrand_result runner.grader registry (exercises.get job)
      (candidateFor submissions (exercises.get job)) runner.grader.definitions
  exact ⟨errand, does⟩

omit [Scalar R] in
theorem name_injective (distinct : (exercises.map Exercise.name).Nodup)
    (errand : Fin exercises.length → Errand R (GradeResult R)) :
    Function.Injective (jobs exercises errand).name := by
  intro first second same
  have sameExercise : exercises.get first = exercises.get second :=
    List.inj_on_of_nodup_map distinct (List.get_mem _ _) (List.get_mem _ _) same
  exact List.Nodup.injective_get (distinct.of_map _) sameExercise

/-- When all runs have been collected, whatever the order in which things have happened, the results
are those that the exercises have alone. -/
theorem collects_of_reaches (distinct : (exercises.map Exercise.name).Nodup)
    {errand : Fin exercises.length → Errand R (GradeResult R)}
    (errands : runner.AreErrands registry submissions exercises errand) {start : Arena}
    (limit : start.limit = runner.grader.sizeLimit) (fresh : start.IsFresh)
    {pool : Pool (Fin exercises.length) R (GradeResult R)}
    (reaches : Pool.Reaches (jobs exercises errand) ((jobs exercises errand).start start) pool) :
    (∃ ending, Pool.Reaches (jobs exercises errand) pool ending ∧ ending.IsOver) ∧
      (pool.IsOver → pool.arena.live = start.live ∧
        ∀ exercise ∈ exercises, pool.results.find? exercise.name =
          some (runner.alone registry submissions exercise)) := by
  have each : ∀ job (bench : Bench R), bench.arena.limit = start.limit →
      (((jobs exercises errand).errand job).play bench).1 =
        .ok (runner.alone registry submissions (exercises.get job)) := by
    intro job bench same
    have ownLimit : bench.arena.limit = runner.grader.bench.arena.limit := same.trans limit
    change ((errand job).play bench).1 = _
    rw [((errand job).play_congr ownLimit).1, ← errands job _ rfl, Grader.result_eq]
    rfl
  rcases reaches.independent fresh (name_injective distinct errand) each with ⟨goesOn, ends⟩
  refine ⟨goesOn, fun isOver => ⟨(ends isOver).1, ?_⟩⟩
  intro exercise member
  rcases List.mem_iff_get.1 member with ⟨job, rfl⟩
  exact (ends isOver).2 job

/-! ## Independence -/

open EquivalenceChecker

/-- Some time limit is long enough for every exercise. -/
theorem exists_inTime (grader : Grader ℝ) (registry : Registry ℝ)
    (submissions : Listing (Export ℝ)) (exercises : List (Exercise ℝ)) :
    ∃ limit, ∀ exercise ∈ exercises,
      InTime ⟨grader, none, limit⟩ registry submissions exercise := by
  let elapsed := fun exercise : Exercise ℝ =>
    (grader.assess registry exercise (candidateFor submissions exercise) grader.bench).2.elapsed
  rcases (List.finite_toSet (exercises.map elapsed)).bddAbove with ⟨seconds, bound⟩
  refine ⟨⟨seconds, ""⟩, fun exercise member => ?_⟩
  have bounded : elapsed exercise ≤ seconds := bound (List.mem_map_of_mem member)
  exact decide_eq_false (not_lt_of_ge bounded)

/-- A flip is graded correct. -/
theorem status_flip {candidate : Candidate ℝ} {registry : Registry ℝ}
    (given : candidate = .given (.operation (Engine.flip ℝ))) :
    let grader := Grader.searching .standard
    (grader.graded registry Grader.flipExercise candidate grader.bench).status = .correct := by
  intro grader
  have quarter : (grader.checkerFor Grader.flipExercise).tolerance ≤ 1 / 4 := le_refl _
  have positive : 0 < (grader.checkerFor Grader.flipExercise).tolerance := one_div_pos.2 four_pos
  have unitary := flip_realizes.matrix_unitary
  have known : grader.bench.definitions = {} := rfl
  rcases check_decides positive quarter rfl rfl flip_acts trivial rfl flip_isUndone trivial rfl
    preparerFits_none known rfl with
    ⟨equivalent, phase, later, checked, decides, -⟩
  have accepted : equivalent = true := by
    rw [decides, agreement_self unitary preparation_operator.normal, norm_one]
    linarith
  have checked : (grader.checkFor Grader.flipExercise (Engine.flip ℝ) grader.bench).1 =
      .ok (judge .operator (Engine.flip ℝ).name (Engine.flip ℝ).name
        (.decided equivalent phase)) := congrArg Prod.fst checked
  have chosen : Grader.choose (grader.visible registry) Grader.flipExercise candidate =
      .ok (Engine.flip ℝ) := by
    rw [given]
    rfl
  have correct : (judge (R := ℝ) .operator (Engine.flip ℝ).name (Engine.flip ℝ).name
      (.decided equivalent phase)).status = .correct := by
    rw [judge_status, if_pos accepted]
  have graded := Grader.verdict_graded chosen checked fun incorrect =>
    nomatch correct.symm.trans incorrect
  exact (congrArg Verdict.status graded).trans correct

end SuiteRunner

end QuantumKata
