import QuantumKata.CommandLine.Program
import QuantumKata.Proofs.Markup
import QuantumKata.Proofs.Positions

/-!
# Reports

Not every result can be reported: a message may hold markup that the console cannot show.  A correct
result always can.  It comes without a message and without a diagnosis, and all that is shown of it
are texts of the program itself and the name of its exercise, which is a built-in one.
-/

namespace QuantumKata

namespace Action

variable {σ α β : Type}

/-- What is done afterwards does not change the outcome unless it fails. -/
theorem outcome_ensuring {action : Action σ α} {afterwards : Action σ Unit}
    (clears : ∀ state, (afterwards state).1 = .ok ()) (state : σ) :
    (ensuring action afterwards state).1 = (action state).1 := by
  rcases ended : action state with ⟨outcome, between⟩
  rcases cleared : afterwards between with ⟨cleaned, last⟩
  have done := clears between
  rw [cleared] at done
  cases done
  rw [ensuring, ended]
  simp only [cleared]

end Action

/-! ## Results -/

namespace Grader

variable {R σ : Type} [Scalar R] {grader : Grader R} {registry : Registry R}
  {exercise : Exercise R} {candidate : Candidate R} {bench : Bench R}

/-- A result bears the name of its exercise, and one that is correct comes without a diagnosis. -/
theorem shape_graded (grader : Grader R) (registry : Registry R) (exercise : Exercise R)
    (candidate : Candidate R) (bench : Bench R) :
    (grader.graded registry exercise candidate bench).exercise = exercise.name ∧
      ((grader.graded registry exercise candidate bench).passed = true →
        (grader.graded registry exercise candidate bench).diagnosis = none) := by
  cases chosen : choose (grader.visible registry) exercise candidate with
  | error refused =>
    rcases exists_refusal chosen with ⟨message, error, rfl⟩
    rw [graded, assess_of_refused chosen]
    exact ⟨rfl, fun _ => rfl⟩
  | ok operation =>
    rcases checked : grader.checkFor exercise operation bench with ⟨fault | verdict, later⟩
    · rw [graded_of_error chosen (congrArg Prod.fst checked)]
      exact ⟨rfl, fun _ => rfl⟩
    · rw [graded_eq_of_ok chosen checked]
      split
      case isTrue diagnosed =>
        split
        · refine ⟨rfl, fun passed => ?_⟩
          have correct : verdict.status = .correct := beq_iff_eq.1 passed
          cases correct.symm.trans diagnosed.1
        · exact ⟨rfl, fun _ => rfl⟩
      case isFalse => exact ⟨rfl, fun _ => rfl⟩

/-- What comes of a run whose reporter starts: the result, unless it cannot be reported. -/
theorem outcome_grade {reporter : Reporter R σ} {state started : σ}
    (starts : reporter.start exercise state = (.ok (), started))
    (finishes : ∀ state, (reporter.finish state).1 = .ok ()) :
    (grader.grade registry reporter exercise candidate (bench, state)).1 =
      (reporter.report (grader.graded registry exercise candidate bench) exercise started).1.map
        fun _ => grader.graded registry exercise candidate bench := by
  have begins := Action.onSecond_of_ok bench starts
  have result := result_eq grader registry exercise candidate bench
  have ends : ∀ both : Bench R × σ, (Action.onSecond reporter.finish both).1 = .ok () :=
    fun both => finishes both.2
  rw [grade, Action.bind_of_ok begins, Action.outcome_ensuring ends,
    Action.bind_of_ok (Action.onFirst_of_ok started result), Action.onSecond_then_pure]
  rcases reported : reporter.report (grader.graded registry exercise candidate bench) exercise
    started with ⟨fault | ⟨⟩, after⟩
  · rw [Action.onSecond, Action.bind_of_error reported]
    rfl
  · rw [Action.onSecond, Action.bind_of_ok reported]
    rfl

end Grader

namespace SuiteRunner

variable {R : Type} [Scalar R]

/-- What a run comes to bears the name of its exercise. -/
theorem exercise_own_silent (runner : SuiteRunner R) (registry : Registry R)
    (submissions : Listing (Export R)) (exercise : Exercise R) :
    (runner.own registry submissions (.ok Reporter.silent) exercise).exercise = exercise.name := by
  have worked : (runner.work registry submissions (.ok Reporter.silent) exercise
      runner.grader.bench).1 = .ok (runner.grader.graded registry exercise
        (candidateFor submissions exercise) runner.grader.bench) := by
    have idle : ReporterState.active ({} : ReporterState R) = none := rfl
    rw [work]
    simp only [Grader.grade_eq Reporter.isSound_silent idle]
  rcases own_eq_settled_or runner registry submissions (.ok Reporter.silent) exercise with
    settled | overdue
  · rw [settled, worked]
    exact (Grader.shape_graded _ _ _ _ _).1
  · rw [overdue]
    rfl

/-- The results of a suite bear the names of its exercises. -/
theorem exists_exercise_of_run {runner : SuiteRunner R} {registry : Registry R}
    {submissions : Listing (Export R)} {exercises : List (Exercise R)} {ended : SuiteOutcome R}
    (ran : runner.run registry submissions (.ok Reporter.silent) exercises = .ok ended)
    {result : GradeResult R} (member : result ∈ ended.results.results) :
    ∃ exercise ∈ exercises, result.exercise = exercise.name := by
  have staffed : ∀ workers, runner.workers = some workers → 0 ≤ workers := by
    intro workers has
    by_contra negative
    have unwilling : (runner.workers.any fun workers => decide (workers < 0)) = true := by
      rw [has]
      exact decide_eq_true (not_le.1 negative)
    rw [run, if_pos unwilling] at ran
    cases ran
  rcases run_by_name runner registry submissions (.ok Reporter.silent) exercises staffed with
    ⟨again, latest, ranAgain, -, results, -⟩
  cases ran.symm.trans ranAgain
  rw [results] at member
  rcases List.mem_ofFn.1 member with ⟨job, rfl⟩
  exact ⟨_, exercises.get_mem _, exercise_own_silent runner registry submissions _⟩

end SuiteRunner

/-! ## Reports on the console -/

namespace Reporter

open Console

theorem print_of_isVisible {text : String} (isVisible : IsVisible text)
    (state : ReporterState Float) : ∃ after, print text state = (.ok (), after) := by
  rcases isVisible.exists_render with ⟨lines, rendered⟩
  exact ⟨_, by rw [print, rendered]; rfl⟩

theorem isVisible_styled {style text : String} (isStyle : IsStyleName style)
    (plain : '[' ∉ text.toList ∧ '\\' ∉ text.toList) : IsVisible (styled style text) := by
  have nothing : '[' ∉ "".toList := by decide
  have alone := isStyle.isVisible plain nothing
  rwa [String.append_empty] at alone

/-- A correct result can be reported. -/
theorem report_of_passed {result : GradeResult Float} (passed : result.passed = true)
    (undiagnosed : result.diagnosis = none) (exercise : Exercise Float)
    (state : ReporterState Float) :
    ((console true).report result exercise state).1 = .ok () := by
  have correct : result.status = .correct := beq_iff_eq.1 passed
  have isVisible : IsVisible (styled "bold green" "✓ Correct.") :=
    isVisible_styled (isStyleName_reported "bold green" (by simp)) (by decide +kernel)
  rcases print_of_isVisible isVisible state with ⟨after, printed⟩
  change (printResult true result exercise state).1 = .ok ()
  simp only [printResult, correct, headline, Action.bind_of_ok printed, undiagnosed]
  rfl

/-- What is shown of a built-in exercise holds no markup. -/
theorem plain_of_builtIn : ∀ exercise ∈ (Exercise.builtIns : List (Exercise Float)),
    '\\' ∉ exercise.name.toList ∧ ∀ text ∈ [exercise.name, Decimal.integer exercise.numQubits,
      exercise.mode.word, exercise.description], '[' ∉ text.toList := by
  decide +kernel

/-- The start of a built-in exercise can be reported. -/
theorem start_of_builtIn {exercise : Exercise Float} (isBuiltIn : exercise ∈ Exercise.builtIns) :
    ∃ started, (console true).start exercise {} = (.ok (), started) := by
  rcases plain_of_builtIn exercise isBuiltIn with ⟨noSlash, plain⟩
  have plainBehind : '[' ∉ (" (" ++ Decimal.integer exercise.numQubits ++ " qubit(s), " ++
      exercise.mode.word ++ " mode)").toList := by
    have plainSize := plain (Decimal.integer exercise.numQubits) (by simp)
    have plainMode := plain exercise.mode.word (by simp)
    simp [plainSize, plainMode]
  have isVisible := (isStyleName_reported "bold blue" (by simp)).isVisible
    ⟨plain exercise.name (by simp), noSlash⟩ plainBehind
  simp only [← String.append_assoc] at isVisible
  rcases print_of_isVisible isVisible { active := some exercise.name } with ⟨started, printed⟩
  have claimed : ReporterState.claim exercise {} =
      (.ok (), ({ active := some exercise.name } : ReporterState Float)) := rfl
  refine ⟨started, ?_⟩
  simp only [console, Action.bind_of_ok claimed]
  exact printed

end Reporter

namespace CommandLine

open Console

/-! ## Tables of the program -/

theorem chosenExercises_subset (tag : Option String) :
    chosenExercises tag ⊆ (Exercise.builtIns : List (Exercise Float)) := by
  have listed : (Exercise.builtInCatalog (R := Float)).toList = Exercise.builtIns := rfl
  cases tag with
  | none => exact fun _ member => member
  | some tag =>
    by_cases any : tag.isEmpty = true
    · rw [chosenExercises, if_pos any]
      exact fun _ member => member
    · rw [chosenExercises, if_neg any, Catalog.withTag, listed]
      exact fun _ member => List.mem_of_mem_filter member

/-- The table of correct results can be shown. -/
theorem exists_render_resultsTable {results : SuiteResults Float}
    (all : ∀ result ∈ results.results, result.passed = true)
    (named : ∀ result ∈ results.results, ∃ exercise ∈ (Exercise.builtIns : List (Exercise Float)),
      result.exercise = exercise.name) :
    ∃ lines, (resultsTable results).render = .ok lines := by
  have headings : ∀ text ∈ ["Results", "Exercise", "Status", "Message", ""], '[' ∉ text.toList := by
    decide
  refine Table.exists_render (isVisible_of_plain (headings _ (by simp [resultsTable])))
    (fun header member => isVisible_of_plain (headings _ ?_))
    fun row rowMember cell cellMember => ?_
  · exact List.mem_cons_of_mem _ (List.mem_append_left [""] member)
  rcases List.mem_map.1 rowMember with ⟨result, member, rfl⟩
  have passed := all result member
  have correct : result.status = .correct := beq_iff_eq.1 passed
  rcases named result member with ⟨exercise, isBuiltIn, sameName⟩
  rw [passed, correct, sameName] at cellMember
  simp only [List.mem_cons, List.not_mem_nil, or_false] at cellMember
  rcases cellMember with rfl | rfl | rfl
  · exact isVisible_of_plain ((Reporter.plain_of_builtIn exercise isBuiltIn).2 _ (by simp))
  · exact Reporter.isVisible_styled (isStyleName_reported "green" (by simp)) (by decide)
  · exact isVisible_of_plain (headings "" (by simp))

theorem exists_render_exercisesTable {exercises : List (Exercise Float)}
    (builtIn : exercises ⊆ Exercise.builtIns) :
    ∃ lines, (exercisesTable exercises).render = .ok lines := by
  have headings : ∀ text ∈ ["Exercises", "Name", "Qubits", "Mode", "Description"],
      '[' ∉ text.toList := by
    decide
  refine Table.exists_render_of_plain headings fun row rowMember cell cellMember => ?_
  rcases List.mem_map.1 rowMember with ⟨exercise, member, rfl⟩
  exact (Reporter.plain_of_builtIn exercise (builtIn member)).2 cell cellMember

theorem notMem_intercalate {char : Char} {separator : String} {words : List String}
    (apart : char ∉ separator.toList) (each : ∀ word ∈ words, char ∉ word.toList) :
    char ∉ (separator.intercalate words).toList := by
  match words with
  | [] =>
    rw [String.intercalate_nil]
    exact List.not_mem_nil
  | [word] =>
    rw [String.intercalate_singleton]
    exact each word List.mem_cons_self
  | word :: next :: rest =>
    rcases List.forall_mem_cons.1 each with ⟨first, others⟩
    rw [String.intercalate_cons_cons, String.toList_append, String.toList_append]
    simp only [List.mem_append, not_or]
    exact ⟨⟨first, apart⟩, notMem_intercalate apart others⟩

theorem exists_render_profilesTable (configuration : Configuration) :
    ∃ lines, (profilesTable configuration).render = .ok lines := by
  have headings : ∀ text ∈ ["Target profiles", "Setting", "Name", "Instructions"],
      '[' ∉ text.toList := by
    decide
  have settings : ∀ profile ∈ TargetProfile.all, ∀ mark ∈ [" (active)", ""],
      '[' ∉ (profile.setting ++ mark).toList := by
    decide +kernel
  have marks : ∀ isActive : Bool,
      (if isActive = true then " (active)" else "") ∈ [" (active)", ""] := by
    decide
  have names : ∀ profile ∈ TargetProfile.all, '[' ∉ profile.friendlyName.toList := by
    decide
  have instructions : ∀ kind : InstructionKind, '[' ∉ kind.word.toList := by
    intro kind
    cases kind <;> decide
  refine Table.exists_render_of_plain headings fun row rowMember cell cellMember => ?_
  rcases List.mem_map.1 rowMember with ⟨profile, member, rfl⟩
  have isProfile := List.mem_of_mem_filter member
  simp only [List.mem_cons, List.not_mem_nil, or_false] at cellMember
  rcases cellMember with rfl | rfl | rfl
  · exact settings profile isProfile _ (marks _)
  · exact names profile isProfile
  · refine notMem_intercalate (by decide) fun word wordMember => ?_
    rcases List.mem_map.1 (List.mem_mergeSort.1 wordMember) with ⟨kind, -, rfl⟩
    exact instructions kind

end CommandLine

end QuantumKata
