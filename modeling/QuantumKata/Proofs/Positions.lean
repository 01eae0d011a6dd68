import QuantumKata.Proofs.Collecting
import QuantumKata.Proofs.SuiteRuns

/-!
# Results in the order of the exercises

A suite gives a list of results in the order of its exercises, and looks each of them up under the
name of the exercise.  So an exercise gets its own result as long as no other exercise of its name
comes to something else.  Where one does, the result that was written last stands for both: that of
the exercise further back if the runs are made one after the other, and that of the run which the
host was done with last if they overtake each other.

This holds whatever the reporters do, and whether or not runs take longer than allowed.
-/

namespace QuantumKata

/-! ## Work on the second of two states -/

namespace Action

variable {σ τ α : Type}

theorem onSecond_then_pure (inner : Action τ Unit) (first : σ) (second : τ) (value : α) :
    (do onSecond inner; return value : Action (σ × τ) α) (first, second) =
      onSecond (do inner; return value : Action τ α) (first, second) := by
  rw [bind_apply, onSecond, onSecond, bind_apply]
  rcases inner second with ⟨fault | ⟨⟩, after⟩ <;> rfl

theorem ensuring_onSecond {action : Action (σ × τ) α} {inner : Action τ α} {state : σ × τ}
    {first : σ} {second : τ} (afterwards : Action τ Unit)
    (ends : action state = onSecond inner (first, second)) :
    ensuring action (onSecond afterwards) state =
      onSecond (ensuring inner afterwards) (first, second) := by
  rw [ensuring, ends]
  simp only [onSecond, ensuring]
  rcases afterwards (inner second).2 with ⟨fault | ⟨⟩, last⟩ <;> rfl

end Action

namespace SuiteRunner

variable {R : Type} [Scalar R] {runner : SuiteRunner R} {registry : Registry R}
  {submissions : Listing (Export R)} {source : ReporterSource R} {exercise : Exercise R}
  {exercises : List (Exercise R)} {bench : Bench R}

/-! ## What a run comes to -/

/-- The work of a run: a reporter is got, and the candidate is graded and reported. -/
def work (runner : SuiteRunner R) (registry : Registry R) (submissions : Listing (Export R))
    (source : ReporterSource R) (exercise : Exercise R) : BenchAction R (GradeResult R) :=
  match source with
  | .error fault => Action.ofExcept (.error fault)
  | .ok reporter => fun bench =>
    let (outcome, after, _) :=
      runner.grader.grade registry reporter exercise (candidateFor submissions exercise) (bench, {})
    (outcome, after)

/-- The result that the outcome of a run becomes: a fault is taken for a crash. -/
def settled (exercise : Exercise R) : Except Fault (GradeResult R) → GradeResult R
  | .ok result => result
  | .error fault => crash exercise fault

/-- What a run comes to by itself in the time allowed. -/
def own (runner : SuiteRunner R) (registry : Registry R) (submissions : Listing (Export R))
    (source : ReporterSource R) (exercise : Exercise R) : GradeResult R :=
  (runner.runOne registry submissions source exercise runner.grader.bench).1.1

section

variable {reporter : Reporter R (ReporterState R)} {state : ReporterState R}

/-- A run whose reporter does not start ends there. -/
theorem work_of_not_started {fault : Fault}
    (fails : reporter.start exercise {} = (.error fault, state)) :
    runner.work registry submissions (.ok reporter) exercise =
      Action.ofExcept (.error fault) := by
  funext bench
  have begins : Action.onSecond (reporter.start exercise) (bench, {}) =
      (.error fault, (bench, state)) := by
    rw [Action.onSecond, fails]
  simp only [work, Grader.grade, Action.bind_of_error begins]
  rfl

/-- Otherwise the candidate is graded, and what the reporter makes of the result needs no bench. -/
theorem work_of_started (starts : reporter.start exercise {} = (.ok (), state)) :
    runner.work registry submissions (.ok reporter) exercise =
      (do
        let result ← runner.grader.result registry exercise (candidateFor submissions exercise)
        Action.ofExcept (Action.ensuring (do
          reporter.report result exercise
          return result) reporter.finish state).1) := by
  funext bench
  have begins := Action.onSecond_of_ok bench starts
  have graded := Grader.result_eq runner.grader registry exercise
    (candidateFor submissions exercise) bench
  simp only [work, Grader.grade, Action.bind_of_ok begins, Action.bind_of_ok graded]
  rw [Action.ensuring_onSecond reporter.finish ((Action.bind_of_ok
    (Action.onFirst_of_ok state graded)).trans (Action.onSecond_then_pure _ _ state _))]
  rfl

end

/-- Nothing but grading asks the arena for anything. -/
theorem isErrand_work : Bench.IsErrand (runner.work registry submissions source exercise) := by
  cases source with
  | error fault => exact Bench.isErrand_ofExcept _
  | ok reporter =>
    rcases starts : reporter.start exercise {} with ⟨fault | ⟨⟩, state⟩
    · rw [work_of_not_started starts]
      exact Bench.isErrand_ofExcept _
    · rw [work_of_started starts]
      exact (Grader.isErrand_result _ _ _ _).bind fun _ => Bench.isErrand_ofExcept _

/-- A run that has a reporter is settled by what its work comes to, unless it takes too long. -/
theorem runOne_of_reporter (runner : SuiteRunner R) (registry : Registry R)
    (submissions : Listing (Export R)) (reporter : Reporter R (ReporterState R))
    (exercise : Exercise R) (bench : Bench R) :
    let ended := runner.work registry submissions (.ok reporter) exercise { bench with elapsed := 0 }
    ∃ report, runner.runOne registry submissions (.ok reporter) exercise bench =
      ((if Scalar.less runner.limit.seconds ended.2.elapsed then overdue runner.limit exercise
        else settled exercise ended.1, report), ended.2) := by
  intro ended
  rcases graded : runner.grader.grade registry reporter exercise
    (candidateFor submissions exercise) ({ bench with elapsed := 0 }, {}) with
    ⟨outcome, after, state⟩
  have endedIs : ended = (outcome, after) := by
    simp only [ended, work, graded]
  rw [endedIs, runOne]
  simp only [graded]
  by_cases late : Scalar.less runner.limit.seconds after.elapsed = true
  · rw [if_pos late, if_pos late]
    exact ⟨_, rfl⟩
  · rw [if_neg late, if_neg late]
    cases outcome <;> exact ⟨_, rfl⟩

/-- At every bench of the grader a run comes to its own result. -/
theorem runOne_eq_own (runner : SuiteRunner R) (registry : Registry R)
    (submissions : Listing (Export R)) (source : ReporterSource R) (exercise : Exercise R)
    {bench : Bench R} (limit : bench.arena.limit = runner.grader.sizeLimit)
    (known : bench.definitions = runner.grader.definitions) :
    ∃ report after,
      runner.runOne registry submissions source exercise bench =
        ((runner.own registry submissions source exercise, report), after) ∧
      after.arena.limit = runner.grader.sizeLimit ∧
      after.definitions = runner.grader.definitions := by
  cases source with
  | error fault => exact ⟨none, bench, rfl, limit, known⟩
  | ok reporter =>
    have isErrand : Bench.IsErrand (runner.work registry submissions (.ok reporter) exercise) :=
      isErrand_work
    obtain ⟨report, ran⟩ := runOne_of_reporter runner registry submissions reporter exercise bench
    obtain ⟨ownReport, ownRan⟩ :=
      runOne_of_reporter runner registry submissions reporter exercise runner.grader.bench
    have kept := isErrand.keeps { bench with elapsed := 0 }
    obtain ⟨outcomes, times⟩ := @Bench.IsErrand.congr _ _ _ _ isErrand { bench with elapsed := 0 }
      { runner.grader.bench with elapsed := 0 } limit known
    refine ⟨report, _, ?_, (congrArg Prod.fst kept).trans limit,
      (congrArg Prod.snd kept).trans known⟩
    rw [ran, own, ownRan, outcomes, times rfl]

/-- A run that is in time and has a sound reporter comes to what its exercise has alone. -/
theorem own_eq_alone {reporter : Reporter R (ReporterState R)}
    {active : ReporterState R → Option String} (sound : reporter.IsSound active)
    (idle : active {} = none) (inTime : runner.InTime registry submissions exercise) :
    runner.own registry submissions (.ok reporter) exercise =
      runner.alone registry submissions exercise := by
  have fresh : runner.grader.bench.arena.IsFresh := Arena.isFresh_empty _
  obtain ⟨report, after, ran, -⟩ := runOne_eq sound idle inTime rfl rfl fresh
  rw [own, ran]

/-- A run has not taken too long, or it counts as overdue. -/
theorem own_eq_settled_or (runner : SuiteRunner R) (registry : Registry R)
    (submissions : Listing (Export R)) (source : ReporterSource R) (exercise : Exercise R) :
    runner.own registry submissions source exercise =
        settled exercise (runner.work registry submissions source exercise runner.grader.bench).1 ∨
      runner.own registry submissions source exercise = overdue runner.limit exercise := by
  cases source with
  | error fault => exact .inl rfl
  | ok reporter =>
    obtain ⟨report, ran⟩ :=
      runOne_of_reporter runner registry submissions reporter exercise runner.grader.bench
    rw [own, ran]
    dsimp only
    split
    · exact .inr rfl
    · exact .inl rfl

/-! ## Runs one after the other -/

/-- The last exercise of a name. -/
def lastNamed (exercises : List (Exercise R)) (name : String) : Option (Exercise R) :=
  exercises.reverse.find? fun exercise => exercise.name == name

omit [Scalar R] in
theorem lastNamed_cons (exercise : Exercise R) (rest : List (Exercise R)) (name : String) :
    lastNamed (exercise :: rest) name =
      (lastNamed rest name).or (if exercise.name = name then some exercise else none) := by
  rw [lastNamed, List.reverse_cons, List.find?_append, List.find?_singleton]
  simp only [beq_iff_eq, lastNamed]

/-- After runs one after the other, the own result of the last exercise of each name stands under
the name. -/
theorem collected_runEach (runner : SuiteRunner R) (registry : Registry R)
    (submissions : Listing (Export R)) (source : ReporterSource R) (exercises : List (Exercise R)) :
    ∀ (progress : SuiteProgress R) (bench : Bench R),
      bench.arena.limit = runner.grader.sizeLimit →
      bench.definitions = runner.grader.definitions → ∀ name,
      (runner.runEach registry submissions source progress exercises bench).1.collected.find? name =
        ((lastNamed exercises name).map (runner.own registry submissions source)).or
          (progress.collected.find? name) := by
  induction exercises with
  | nil => exact fun _ _ _ _ _ => rfl
  | cons exercise rest ih =>
    intro progress bench limit known name
    obtain ⟨report, between, ran, limitBetween, knownBetween⟩ :=
      runOne_eq_own runner registry submissions source exercise limit known
    rw [runEach, ran, lastNamed_cons]
    dsimp only
    rw [ih _ between limitBetween knownBetween]
    -- Either the name is written later on, or here, or not at all.
    cases lastNamed rest name with
    | some later => rfl
    | none =>
      by_cases same : exercise.name = name
      · rw [if_pos same, ← same, Listing.find?_put_self]
        rfl
      · rw [if_neg same, Listing.find?_put_of_ne _ (Ne.symm same)]
        rfl

/-! ## Results in order -/

omit [Scalar R] in
theorem exists_lastNamed (exercises : List (Exercise R)) (job : Fin exercises.length) :
    ∃ other : Fin exercises.length, (exercises.get other).name = (exercises.get job).name ∧
      lastNamed exercises (exercises.get job).name = some (exercises.get other) := by
  have some : (lastNamed exercises (exercises.get job).name).isSome = true :=
    List.find?_isSome.2 ⟨_, List.mem_reverse.2 (exercises.get_mem job), beq_self_eq_true _⟩
  obtain ⟨last, found⟩ := Option.isSome_iff_exists.1 some
  obtain ⟨other, rfl⟩ := List.mem_iff_get.1 (List.mem_reverse.1 (List.mem_of_find?_eq_some found))
  exact ⟨other, beq_iff_eq.1 (List.find?_some found :), found⟩

/-- The results in the order of the exercises, each from under the name of its exercise. -/
def gathered (exercises : List (Exercise R)) (collected : Listing (GradeResult R)) :
    List (GradeResult R) :=
  exercises.filterMap fun exercise => collected.find? exercise.name

omit [Scalar R] in
theorem gathered_eq_ofFn_iff {collected : Listing (GradeResult R)}
    {value : Fin exercises.length → GradeResult R} :
    gathered exercises collected = List.ofFn value ↔
      ∀ job, collected.find? (exercises.get job).name = some (value job) := by
  have listed : gathered exercises collected =
      (List.finRange exercises.length).filterMap fun job =>
        collected.find? (exercises.get job).name := by
    conv_lhs => rw [gathered, ← List.map_get_finRange exercises, List.filterMap_map]
    rfl
  rw [listed, List.ofFn_eq_map, List.filterMap_eq_map_iff_forall_eq_some]
  exact ⟨fun all job => all job (List.mem_finRange job), fun all job _ => all job⟩

omit [Scalar R] in
/-- Results are gathered in their places exactly if exercises of one name have come to the same. -/
theorem gathered_eq_own_iff {collected : Listing (GradeResult R)}
    {value : Fin exercises.length → GradeResult R}
    (stands : ∀ job, ∃ other, (exercises.get other).name = (exercises.get job).name ∧
      collected.find? (exercises.get job).name = some (value other)) :
    gathered exercises collected = List.ofFn value ↔
      ∀ first second, (exercises.get first).name = (exercises.get second).name →
        value first = value second := by
  rw [gathered_eq_ofFn_iff]
  exact Listing.find?_eq_own_iff stands

/-- Made one after the other, runs leave for each exercise the own result of the last exercise of
its name. -/
theorem run_by_name (runner : SuiteRunner R) (registry : Registry R)
    (submissions : Listing (Export R)) (source : ReporterSource R) (exercises : List (Exercise R))
    (staffed : ∀ workers, runner.workers = some workers → 0 ≤ workers) :
    let own := fun job => runner.own registry submissions source (exercises.get job)
    ∃ (ended : SuiteOutcome R) (latest : Fin exercises.length → Fin exercises.length),
      runner.run registry submissions source exercises = .ok ended ∧
      (∀ job, lastNamed exercises (exercises.get job).name = some (exercises.get (latest job))) ∧
      ended.results.results = List.ofFn (fun job => own (latest job)) ∧
      (ended.results.results = List.ofFn own ↔
        ∀ first second, (exercises.get first).name = (exercises.get second).name →
          own first = own second) := by
  intro own
  have willing : ¬(runner.workers.any fun workers => decide (workers < 0)) = true := by
    rw [Option.any_eq_true]
    rintro ⟨workers, has, negative⟩
    exact absurd (of_decide_eq_true negative) (not_lt_of_ge (staffed workers has))
  rcases ran : runEach runner registry submissions source {} exercises runner.grader.bench with
    ⟨progress, bench⟩
  have collected : ∀ name, progress.collected.find? name =
      (lastNamed exercises name).map (runner.own registry submissions source) := by
    intro name
    have found := collected_runEach runner registry submissions source exercises {}
      runner.grader.bench rfl rfl name
    rw [ran] at found
    exact found.trans Option.or_none
  choose latest same last using exists_lastNamed exercises
  have stands : ∀ job, progress.collected.find? (exercises.get job).name =
      some (own (latest job)) := by
    intro job
    rw [collected, last]
    rfl
  refine ⟨⟨⟨gathered exercises progress.collected⟩, progress.reports, bench⟩, latest, ?_, last,
    gathered_eq_ofFn_iff.2 stands, gathered_eq_own_iff fun job => ⟨_, same job, stands job⟩⟩
  rw [run, if_neg willing, ran]
  rfl

/-- The work of the runs of a suite as errands. -/
def AreWork (runner : SuiteRunner R) (registry : Registry R) (submissions : Listing (Export R))
    (source : ReporterSource R) (exercises : List (Exercise R))
    (errand : Fin exercises.length → Errand R (GradeResult R)) : Prop :=
  ∀ job, Bench.Does runner.grader.definitions
    (runner.work registry submissions source (exercises.get job)) (errand job)

theorem exists_areWork (runner : SuiteRunner R) (registry : Registry R)
    (submissions : Listing (Export R)) (source : ReporterSource R) (exercises : List (Exercise R)) :
    ∃ errand, runner.AreWork registry submissions source exercises errand := by
  choose errand does using fun job : Fin exercises.length =>
    (isErrand_work : Bench.IsErrand
      (runner.work registry submissions source (exercises.get job))) runner.grader.definitions
  exact ⟨errand, does⟩

/-- Where runs overtake each other and may be given up, they leave for each exercise what the run of
its name has come to that the host was done with last. -/
theorem gathered_of_reaches {errand : Fin exercises.length → Errand R (GradeResult R)}
    (areWork : runner.AreWork registry submissions source exercises errand) {start : Arena}
    (limit : start.limit = runner.grader.sizeLimit) (fresh : start.IsFresh)
    {lapse : Fin exercises.length → GradeResult R} {host : Host (Fin exercises.length) R _}
    (reaches : Host.Reaches (jobs exercises errand) lapse ((jobs exercises errand).host start)
      host) :
    (∃ ending, Host.Reaches (jobs exercises errand) lapse host ending ∧ ending.IsOver) ∧
      (host.IsOver → ∃ conclusion latest,
        host.Concludes (jobs exercises errand) lapse (fun job => (runner.work registry submissions
          source (exercises.get job) runner.grader.bench).1) conclusion latest ∧
        gathered exercises host.pool.results = List.ofFn (fun job => conclusion (latest job)) ∧
        (gathered exercises host.pool.results = List.ofFn conclusion ↔
          ∀ first second, (exercises.get first).name = (exercises.get second).name →
            conclusion first = conclusion second)) := by
  have alone : ∀ job (bench : Bench R), bench.arena.limit = start.limit →
      (((jobs exercises errand).errand job).play bench).1 =
        (runner.work registry submissions source (exercises.get job) runner.grader.bench).1 := by
    intro job bench same
    have ownLimit : bench.arena.limit = runner.grader.bench.arena.limit := same.trans limit
    rw [areWork job _ rfl]
    exact ((errand job).play_congr ownLimit).1
  obtain ⟨goesOn, ends⟩ := reaches.concludes fresh alone
  refine ⟨goesOn, fun isOver => ?_⟩
  obtain ⟨conclusion, latest, concludes⟩ := ends isOver
  refine ⟨conclusion, latest, concludes, gathered_eq_ofFn_iff.2 concludes.stands,
    gathered_eq_own_iff fun job => ?_⟩
  exact ⟨latest job, concludes.name_latest job, concludes.stands job⟩

/-- The flip, submitted under its name. -/
def flipSubmitted : Listing (Export ℝ) := ⟨[("flip_qubit", .operation (Engine.flip ℝ))]⟩

theorem status_own_flip {limit : TimeLimit ℝ}
    (inTime : InTime ⟨Grader.searching .standard, none, limit⟩ {} flipSubmitted
      Grader.flipExercise) :
    (own ⟨Grader.searching .standard, none, limit⟩ {} flipSubmitted (.ok Reporter.collecting)
      Grader.flipExercise).status = .correct := by
  rw [own_eq_alone Reporter.isSound_collecting rfl inTime]
  exact status_flip rfl

/-! ## Results by name -/

/-- The results of a suite stand in the order of its exercises, but are looked up under the names.
Made one after the other, each of them is the own result of the last exercise of its name.  Where
runs overtake each other and may be given up at any time, each of them is what the run of its name
has come to that the host was done with last, and every run has come to what it comes to by itself
or been given up.  Either way every exercise has a result, and all results are in their places if
and only if exercises of one name have come to the same. -/
theorem results_by_name (runner : SuiteRunner R) (registry : Registry R)
    (submissions : Listing (Export R)) (source : ReporterSource R) (exercises : List (Exercise R))
    (staffed : ∀ workers, runner.workers = some workers → 0 ≤ workers) :
    let own := fun job => runner.own registry submissions source (exercises.get job)
    let outcome := fun job =>
      (runner.work registry submissions source (exercises.get job) runner.grader.bench).1
    let lapse := fun job => overdue runner.limit (exercises.get job)
    (∃ (ended : SuiteOutcome R) (latest : Fin exercises.length → Fin exercises.length),
      runner.run registry submissions source exercises = .ok ended ∧
      (∀ job, lastNamed exercises (exercises.get job).name = some (exercises.get (latest job))) ∧
      ended.results.results = List.ofFn (fun job => own (latest job)) ∧
      (ended.results.results = List.ofFn own ↔
        ∀ first second, (exercises.get first).name = (exercises.get second).name →
          own first = own second)) ∧
    (∀ job, own job = settled (exercises.get job) (outcome job) ∨ own job = lapse job) ∧
    (∃ errand, runner.AreWork registry submissions source exercises errand) ∧
    ∀ errand, runner.AreWork registry submissions source exercises errand →
      ∀ start : Arena, start.limit = runner.grader.sizeLimit → start.IsFresh →
      ∀ host, Host.Reaches (jobs exercises errand) lapse ((jobs exercises errand).host start) host →
        (∃ ending, Host.Reaches (jobs exercises errand) lapse host ending ∧ ending.IsOver) ∧
        (host.IsOver → ∃ conclusion latest,
          host.Concludes (jobs exercises errand) lapse outcome conclusion latest ∧
          gathered exercises host.pool.results =
            List.ofFn (fun job => conclusion (latest job)) ∧
          (gathered exercises host.pool.results = List.ofFn conclusion ↔
            ∀ first second, (exercises.get first).name = (exercises.get second).name →
              conclusion first = conclusion second)) := by
  intro own outcome lapse
  refine ⟨run_by_name runner registry submissions source exercises staffed,
    fun job => own_eq_settled_or runner registry submissions source _,
    exists_areWork runner registry submissions source exercises, ?_⟩
  intro errand areWork start limit fresh host reaches
  exact gathered_of_reaches areWork limit fresh reaches

/-- An exercise may be given twice: between two flips an exercise without a submission is refused,
and the flips are correct. -/
theorem results_by_name_of_repetition :
    let grader := Grader.searching .standard
    let missing : Exercise ℝ := { Grader.flipExercise with name := "missing" }
    let exercises := [Grader.flipExercise, missing, Grader.flipExercise]
    ∃ limit ended,
      run ⟨grader, none, limit⟩ {} flipSubmitted (.ok Reporter.collecting) exercises = .ok ended ∧
      ended.results.results.map GradeResult.status = [.correct, .executionError, .correct] := by
  intro grader missing exercises
  obtain ⟨limit, inTime⟩ := exists_inTime grader {} flipSubmitted exercises
  have staffed : ∀ workers : Int, none = some workers → 0 ≤ workers := nofun
  obtain ⟨⟨ended, -, ran, -, -, inPlaces⟩, -⟩ := results_by_name ⟨grader, none, limit⟩ {}
    flipSubmitted (.ok Reporter.collecting) exercises staffed
  have agree : ∀ first second : Fin exercises.length,
      (exercises.get first).name = (exercises.get second).name →
        exercises.get first = exercises.get second := by
    intro first second same
    match first, second with
    | 0, 0 | 0, 2 | 1, 1 | 2, 0 | 2, 2 => rfl
    | 0, 1 | 1, 0 | 1, 2 | 2, 1 => exact absurd same (by decide)
  have flipped := status_own_flip (inTime Grader.flipExercise (by simp [exercises]))
  have refused : (own ⟨grader, none, limit⟩ {} flipSubmitted (.ok Reporter.collecting)
      missing).status = .executionError := by
    rw [own_eq_alone Reporter.isSound_collecting rfl (inTime _ (by simp [exercises])), alone,
      Grader.graded, Grader.assess_of_refused rfl]
    rfl
  refine ⟨limit, ended, ran, ?_⟩
  have results := inPlaces.2 fun first second same =>
    congrArg (own ⟨grader, none, limit⟩ {} flipSubmitted (.ok Reporter.collecting))
      (agree first second same)
  rw [results]
  simp only [exercises, List.ofFn_succ, List.ofFn_zero, List.map_cons, List.map_nil]
  exact congrArg₂ _ flipped (congrArg₂ _ refused (congrArg₂ _ flipped rfl))

/-! ## Two exercises of one name -/

/-- An exercise on two qubits that has the name of the flip. -/
def swapExercise : Exercise ℝ :=
  { Grader.flipExercise with numQubits := 2, reference := .gate (.fixed .swap) "SWAP" }

/-- A flip is no solution of the exercise on two qubits, and yet passes for one where the exercise
whose name it has is graded too. -/
theorem result_replaced_by_namesake :
    let grader := Grader.searching .standard
    let exercises := [swapExercise, Grader.flipExercise]
    ∃ limit ended,
      run ⟨grader, none, limit⟩ {} flipSubmitted (.ok Reporter.collecting) exercises = .ok ended ∧
      (alone ⟨grader, none, limit⟩ {} flipSubmitted swapExercise).status = .executionError ∧
      (own ⟨grader, none, limit⟩ {} flipSubmitted (.ok Reporter.collecting) swapExercise).status =
        .executionError ∧
      ended.results.results.map GradeResult.status = [.correct, .correct] := by
  intro grader exercises
  obtain ⟨limit, inTime⟩ := exists_inTime grader {} flipSubmitted exercises
  have staffed : ∀ workers : Int, none = some workers → 0 ≤ workers := nofun
  obtain ⟨ended, latest, ran, last, results, -⟩ := run_by_name ⟨grader, none, limit⟩ {}
    flipSubmitted (.ok Reporter.collecting) exercises staffed
  have sameName : ∀ job, (exercises.get job).name = "flip_qubit" := by
    intro job
    match job with
    | 0 | 1 => rfl
  have lastIs : lastNamed exercises "flip_qubit" = some Grader.flipExercise := by
    simp [lastNamed, exercises, Grader.flipExercise]
  have latestIs : ∀ job, exercises.get (latest job) = Grader.flipExercise := by
    intro job
    have found := last job
    rw [sameName, lastIs] at found
    exact (Option.some.inj found).symm
  have flipped := status_own_flip (inTime Grader.flipExercise (by simp [exercises]))
  have refused : (alone ⟨grader, none, limit⟩ {} flipSubmitted swapExercise).status =
      .executionError := by
    rw [alone, Grader.graded, Grader.assess_of_refused rfl]
    rfl
  refine ⟨limit, ended, ran, refused, ?_, ?_⟩
  · rw [own_eq_alone Reporter.isSound_collecting rfl (inTime _ (by simp [exercises]))]
    exact refused
  · rw [results]
    simp only [latestIs, List.ofFn_const, List.map_replicate]
    rw [flipped]
    rfl

end SuiteRunner

end QuantumKata
