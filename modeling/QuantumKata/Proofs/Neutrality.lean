import QuantumKata.Proofs.Grading

/-!
# Diagnoses and grades

Whether differences are diagnosed, and how far counterexamples are searched for, has no influence on
the verdict of a run.  The check comes first, and a diagnosis only adds to its result.  This
compares two runs, which need not be made at the same bench: what is known of a check is known of it
at every bench with the same limit and the same definitions.

The exception is a limit of the search that cannot be compared with numbers.  It is accepted like
any other, and a diagnosis then fails with a fault that takes the place of the verdict.
-/

namespace QuantumKata

/-- Configurations that may differ in whether differences are diagnosed and how far counterexamples
are searched for, and in nothing else. -/
def Configuration.AgreesBesidesDiagnoses (first second : Configuration) : Prop :=
  ∀ setting, setting ≠ .diagnostics → setting ≠ .counterexampleMaxQubits →
    first.value setting = second.value setting

namespace Grader

open EquivalenceChecker

/-- Graders that may differ in whether they diagnose differences and how far they search for
counterexamples, and in nothing else. -/
def AgreesBesidesDiagnoses {R : Type} (first second : Grader R) : Prop :=
  second = { first with
    searchLimit := second.searchLimit
    wantsDiagnoses := second.wantsDiagnoses }

theorem agreesBesidesDiagnoses_of_configurations {first second : Configuration}
    (agree : first.AgreesBesidesDiagnoses second) {registry : Registry Float}
    {definitions : Definitions Float} {grader : Grader Float}
    (made : ofConfiguration first registry definitions = .ok grader) :
    ∃ other, ofConfiguration second registry definitions = .ok other ∧
      grader.AgreesBesidesDiagnoses other := by
  have agreesOn : ∀ setting, setting ≠ .diagnostics → setting ≠ .counterexampleMaxQubits →
      second.value setting = first.value setting :=
    fun setting besides alsoBesides => (agree setting besides alsoBesides).symm
  have profile : second.profile = first.profile := by
    simp only [Configuration.profile, agreesOn .targetProfile nofun nofun,
      agreesOn .enableAdaptiveProfile nofun nofun]
  have tolerance : second.tolerance = first.tolerance := by
    simp only [Configuration.tolerance, agreesOn .tolerance nofun nofun]
  have sizeLimit : second.sizeLimit = first.sizeLimit := by
    simp only [Configuration.sizeLimit, agreesOn .maxQubits nofun nofun]
  have generator : second.generator = first.generator := by
    simp only [Configuration.generator, agreesOn .seed nofun nofun]
  rw [ofConfiguration] at made ⊢
  rcases Fault.bind_eq_ok_iff.1 made with ⟨target, found, filledIn⟩
  cases filledIn
  rw [profile, tolerance, sizeLimit, generator, found]
  exact ⟨_, rfl, rfl⟩

variable {R σ τ : Type} [Scalar R] {grader other : Grader R} {registry : Registry R}
  {exercise : Exercise R} {candidate : Candidate R} {bench place : Bench R}

/-- A result has a diagnosis exactly if it is of a difference that is to be diagnosed. -/
theorem isSome_diagnosis_graded :
    (grader.graded registry exercise candidate bench).diagnosis.isSome = true ↔
      (grader.graded registry exercise candidate bench).status = .incorrect ∧
        grader.wantsDiagnoses = true := by
  cases chosen : choose (grader.visible registry) exercise candidate with
  | error refused =>
    rw [graded, assess_of_refused chosen]
    rcases exists_refusal chosen with ⟨message, error, rfl⟩
    constructor
    · rintro ⟨⟩
    · rintro ⟨⟨⟩, -⟩
  | ok operation =>
    rcases checked : grader.checkFor exercise operation bench with ⟨fault | verdict, later⟩
    · rw [graded_of_error chosen (congrArg Prod.fst checked)]
      constructor
      · rintro ⟨⟩
      · rintro ⟨⟨⟩, -⟩
    · rw [graded_eq_of_ok chosen checked]
      split
      case isTrue diagnosed =>
        split
        · exact ⟨fun _ => diagnosed, fun _ => rfl⟩
        · constructor
          · rintro ⟨⟩
          · rintro ⟨⟨⟩, -⟩
      case isFalse undiagnosed =>
        constructor
        · rintro ⟨⟩
        · exact fun diagnosed => absurd diagnosed undiagnosed

/-- Two runs have the same verdict when their graders agree besides diagnoses and the benches have
the same limit and the same definitions. -/
theorem verdict_graded_eq (agree : grader.AgreesBesidesDiagnoses other)
    (limits : bench.arena.limit = place.arena.limit)
    (known : bench.definitions = place.definitions)
    (diagnosable : grader.CanDiagnose exercise) (alsoDiagnosable : other.CanDiagnose exercise) :
    (grader.graded registry exercise candidate bench).verdict =
      (other.graded registry exercise candidate place).verdict := by
  have visible : other.visible registry = grader.visible registry := by
    rw [agree]
    rfl
  have checkFor : other.checkFor exercise = grader.checkFor exercise := by
    rw [agree]
    rfl
  cases chosen : choose (grader.visible registry) exercise candidate with
  | error refused =>
    rw [graded, graded, assess_of_refused chosen, assess_of_refused (visible ▸ chosen)]
  | ok operation =>
    have alsoChosen : choose (other.visible registry) exercise candidate = .ok operation :=
      visible ▸ chosen
    have same : (grader.checkFor exercise operation bench).1 =
        (other.checkFor exercise operation place).1 := by
      rw [checkFor]
      exact ((isErrand_check _ _ _ _ _).congr limits known).1
    cases checked : (grader.checkFor exercise operation bench).1 with
    | error fault =>
      rw [graded_of_error chosen checked, graded_of_error alsoChosen (same ▸ checked)]
    | ok verdict =>
      rw [verdict_graded chosen checked fun _ => diagnosable,
        verdict_graded alsoChosen (same ▸ checked) fun _ => alsoDiagnosable]

/-- Diagnoses have no influence on grades.  Configurations that agree besides diagnoses make graders
that agree besides diagnoses.  Runs of such graders always come to results, which have a diagnosis
exactly if they are of a difference that is to be diagnosed, and give their registers back; and
where the difference can be diagnosed with either of them, the verdicts are equal.  A diagnosis by
itself gives its registers back as well, and it does not fail where the limit of its search can be
compared with the size. -/
theorem grade_unaffected_by_diagnoses {reporter : Reporter R σ} {active : σ → Option String}
    (sound : reporter.IsSound active) {listener : Reporter R τ} {engaged : τ → Option String}
    (alsoSound : listener.IsSound engaged) (grader other : Grader R) :
    (∀ (first second : Configuration) (registry : Registry Float) (definitions : Definitions Float)
        (made : Grader Float), first.AgreesBesidesDiagnoses second →
      ofConfiguration first registry definitions = .ok made →
      ∃ changed, ofConfiguration second registry definitions = .ok changed ∧
        made.AgreesBesidesDiagnoses changed) ∧
    (grader.AgreesBesidesDiagnoses other →
      ∀ (registry : Registry R) (exercise : Exercise R) (candidate : Candidate R)
        (bench place : Bench R) (state : σ) (condition : τ),
      bench.arena.IsFresh → place.arena.IsFresh →
      bench.arena.limit = place.arena.limit → bench.definitions = place.definitions →
      active state = none → engaged condition = none →
      ∃ result changed later last after ended,
        grader.grade registry reporter exercise candidate (bench, state) =
          (.ok result, (later, after)) ∧
        other.grade registry listener exercise candidate (place, condition) =
          (.ok changed, (last, ended)) ∧
        (result.diagnosis.isSome = true ↔
          result.status = .incorrect ∧ grader.wantsDiagnoses = true) ∧
        (changed.diagnosis.isSome = true ↔
          changed.status = .incorrect ∧ other.wantsDiagnoses = true) ∧
        later.arena.live = bench.arena.live ∧ last.arena.live = place.arena.live ∧
        (grader.CanDiagnose exercise → other.CanDiagnose exercise →
          result.verdict = changed.verdict)) ∧
    ∀ (runner : DiagnosticRunner R) (candidate reference : Operation R) (numQubits : Int)
      (preparer : Option (Operation R)) (bench : Bench R), bench.arena.IsFresh →
      (runner.diagnose candidate reference numQubits preparer bench).2.arena.live =
        bench.arena.live ∧
      ((preparer = none → ∃ within, runner.searchLimit.reaches numQubits = .ok within) →
        ∃ diagnosis, (runner.diagnose candidate reference numQubits preparer bench).1 =
          .ok diagnosis) := by
  refine ⟨fun first second registry definitions made agree =>
    agreesBesidesDiagnoses_of_configurations agree, ?_, ?_⟩
  · intro agree registry exercise candidate bench place state condition fresh alsoFresh limits known
      idle alsoIdle
    exact ⟨_, _, _, _, _, _, grade_eq sound idle, grade_eq alsoSound alsoIdle,
      isSome_diagnosis_graded, isSome_diagnosis_graded,
      (givesBack_assess grader registry exercise candidate bench fresh).1,
      (givesBack_assess other registry exercise candidate place alsoFresh).1,
      verdict_graded_eq agree limits known⟩
  · intro runner candidate reference numQubits preparer bench fresh
    have gives := (DiagnosticRunner.isErrand_diagnose runner candidate reference numQubits
      preparer).givesBack
    exact ⟨(gives bench fresh).1, fun answered =>
      runner.outcome_diagnose candidate reference numQubits preparer answered bench⟩

/-- A grader that searches for counterexamples as far as the limit says, or does not diagnose at
all. -/
noncomputable def perhapsSearching (limit : SearchLimit) (wantsDiagnoses : Bool) : Grader ℝ :=
  { searching limit with wantsDiagnoses }

theorem checkFor_idle (limit : SearchLimit) (wantsDiagnoses : Bool) :
    ∃ verdict, ((perhapsSearching limit wantsDiagnoses).checkFor flipExercise idle
      (perhapsSearching limit wantsDiagnoses).bench).1 = .ok verdict ∧
        verdict.status = .incorrect := by
  let checker := (perhapsSearching limit wantsDiagnoses).checkerFor flipExercise
  have positive : 0 < checker.tolerance := one_div_pos.2 four_pos
  have quarter : checker.tolerance ≤ 1 / 4 := le_refl _
  rcases check_idle_flip positive quarter rfl rfl rfl with ⟨verdict, later, checked, incorrect⟩
  exact ⟨verdict, congrArg Prod.fst checked, incorrect⟩

theorem status_graded_idle {limit : SearchLimit} {wantsDiagnoses : Bool}
    (diagnosable : (perhapsSearching limit wantsDiagnoses).CanDiagnose flipExercise) :
    ((perhapsSearching limit wantsDiagnoses).graded {} flipExercise (.given (.operation idle))
      (perhapsSearching limit wantsDiagnoses).bench).status = .incorrect := by
  rcases checkFor_idle limit wantsDiagnoses with ⟨verdict, checked, incorrect⟩
  have chosen : choose ((perhapsSearching limit wantsDiagnoses).visible {}) flipExercise
      (.given (.operation idle)) = .ok idle := rfl
  rw [GradeResult.status, verdict_graded chosen checked fun _ => diagnosable]
  exact incorrect

/-- Whether the wrong candidate is diagnosed or not, its verdict is the same. -/
theorem grade_unaffected_by_diagnoses_of_idle :
    let grader := perhapsSearching .standard true
    let other := perhapsSearching .standard false
    let candidate : Candidate ℝ := .given (.operation idle)
    ∃ result changed later last after ended,
      grader.grade {} Reporter.collecting flipExercise candidate (grader.bench, {}) =
        (.ok result, (later, after)) ∧
      other.grade {} Reporter.silent flipExercise candidate (other.bench, {}) =
        (.ok changed, (last, ended)) ∧
      result.status = .incorrect ∧ result.verdict = changed.verdict ∧
      result.diagnosis.isSome = true ∧ changed.diagnosis.isSome = false ∧
      later.arena.live = [] ∧ last.arena.live = [] ∧
      ∃ diagnosis, (grader.diagnostics.diagnose idle (Engine.flip ℝ) 1 none grader.bench).1 =
        .ok diagnosis := by
  intro grader other candidate
  have fresh : grader.bench.arena.IsFresh := Arena.isFresh_empty _
  have diagnosable : grader.CanDiagnose flipExercise := fun _ _ _ => nofun
  have alsoDiagnosable : other.CanDiagnose flipExercise := nofun
  rcases grade_unaffected_by_diagnoses Reporter.isSound_collecting Reporter.isSound_silent grader
    other with ⟨-, runs, diagnoses⟩
  rcases runs rfl {} flipExercise candidate grader.bench other.bench {} {} fresh fresh rfl rfl rfl
    rfl with ⟨result, changed, later, last, after, ended, grades, alsoGrades, diagnosed,
      alsoDiagnosed, live, alsoLive, same⟩
  have incorrect : result.status = .incorrect := by
    rw [grade_eq Reporter.isSound_collecting rfl] at grades
    cases grades
    exact status_graded_idle diagnosable
  have undiagnosed : changed.diagnosis.isSome = false :=
    eq_false_of_ne_true fun isSome => nomatch (alsoDiagnosed.1 isSome).2
  exact ⟨result, changed, later, last, after, ended, grades, alsoGrades, incorrect,
    same diagnosable alsoDiagnosable, diagnosed.2 ⟨incorrect, rfl⟩, undiagnosed, live, alsoLive,
    (diagnoses _ _ _ _ _ _ fresh).2 fun _ => ⟨_, rfl⟩⟩

/-- A limit of the search that cannot be compared with numbers is accepted, but where a difference
is to be diagnosed it aborts a run that without diagnoses ends with an incorrect candidate, because
the diagnosis fails. -/
theorem altered_by_incomparable_limit :
    let grader := perhapsSearching (.incomparable "str") true
    let other := perhapsSearching (.incomparable "str") false
    let candidate : Candidate ℝ := .given (.operation idle)
    (∀ configuration accepted, Configuration.check configuration = .ok accepted →
      ∃ changed, (configuration.set .counterexampleMaxQubits (.text "6")).check = .ok changed ∧
        changed.searchLimit = .incomparable "str") ∧
    grader.AgreesBesidesDiagnoses other ∧
    (∃ result changed later last after ended,
      grader.grade {} Reporter.silent flipExercise candidate (grader.bench, {}) =
        (.ok result, (later, after)) ∧
      other.grade {} Reporter.silent flipExercise candidate (other.bench, {}) =
        (.ok changed, (last, ended)) ∧
      result.status = .aborted ∧ changed.status = .incorrect) ∧
    ∀ bench, (grader.diagnostics.diagnose idle (Engine.flip ℝ) 1 none bench).1 =
      .error (SearchLimit.disorder "<=" "str") := by
  intro grader other candidate
  have fails : ∀ bench, (grader.diagnostics.diagnose idle (Engine.flip ℝ) 1 none bench).1 =
      .error (SearchLimit.disorder "<=" "str") :=
    grader.diagnostics.outcome_diagnose_of_error _ _ _ rfl
  have aborted : (grader.graded {} flipExercise candidate grader.bench).status = .aborted := by
    rcases checkFor_idle (.incomparable "str") true with ⟨verdict, checked, incorrect⟩
    have chosen : choose (grader.visible {}) flipExercise candidate = .ok idle := rfl
    have failed : (grader.diagnostics.diagnose idle flipExercise.reference flipExercise.numQubits
        flipExercise.preparer (grader.checkFor flipExercise idle grader.bench).2).1 =
        .error (SearchLimit.disorder "<=" "str") := fails _
    rw [graded_eq_of_ok chosen (Prod.ext checked rfl), if_pos ⟨incorrect, rfl⟩, failed]
    rfl
  refine ⟨?_, rfl, ⟨_, _, _, _, _, _, grade_eq Reporter.isSound_silent rfl,
    grade_eq Reporter.isSound_silent rfl, aborted, status_graded_idle nofun⟩, fails⟩
  intro configuration accepted isAccepted
  refine ⟨accepted.set .counterexampleMaxQubits (.text "6"), ?_, rfl⟩
  rw [Configuration.check_set_counterexampleMaxQubits, isAccepted]
  rfl

end Grader

end QuantumKata
