import Mathlib.Data.List.Forall2
import QuantumKata.Proofs.BatchFiles
import QuantumKata.Proofs.LineBreaks
import QuantumKata.Proofs.Reports

/-!
# Runs of a batch

A batch goes through its submissions in order.  One that cannot be loaded is noted with the text of
its fault, any other one is graded, and its results are saved if a place is given for them.  By
induction on the submissions there is a line and an entry of the summary for each of them.
-/

namespace QuantumKata.CommandLine

open Text

/-! ## What becomes of a submission -/

/-- The suite of a submission. -/
def suiteRun (order : BatchOrder) (configuration : Configuration) (submission : Submission) :
    Except Fault (SuiteOutcome Float) := do
  let grader ← Grader.ofConfiguration configuration submission.registry submission.definitions
  let runner : SuiteRunner Float := ⟨grader, order.workers, .ofSeconds configuration.timeout⟩
  runner.run submission.registry {} (.ok Reporter.silent) (chosenExercises order.tag)

/-- The configuration has a profile, and the number of workers is not negative. -/
def CanGrade (order : BatchOrder) (configuration : Configuration) : Prop :=
  (∃ profile, configuration.profile = .ok profile) ∧
    ∀ workers, order.workers = some workers → 0 ≤ workers

/-- A submission can be loaded. -/
def Loads (store : Store) (path : Path) : Prop :=
  ∃ submission, Submission.load store path.text = .ok submission

/-- The entry of a submission: the text of the fault if it cannot be loaded, and otherwise the
results of its suite. -/
inductive Accounted (order : BatchOrder) (configuration : Configuration) (store : Store)
    (path : Path) : BatchEntry → Prop where
  | unloadable {fault : Fault} (refused : Submission.load store path.text = .error fault) :
      Accounted order configuration store path (.unloadable fault.text)
  | graded {submission : Submission} {outcome : SuiteOutcome Float}
      (loaded : Submission.load store path.text = .ok submission)
      (ran : suiteRun order configuration submission = .ok outcome) :
      Accounted order configuration store path (.graded outcome.results)

/-- The line of a submission. -/
def lineOf (path : Path) : BatchEntry → String
  | .unloadable reason => padRight 24 path.stem ++ " failed to load: " ++ reason
  | .graded results => padRight 24 path.stem ++ " " ++ results.summary

variable {order : BatchOrder} {configuration : Configuration} {store : Store} {path : Path}
  {paths : List Path} {entry : BatchEntry} {workspace : Workspace}

theorem exists_suiteRun_iff (submission : Submission) :
    (∃ outcome, suiteRun order configuration submission = .ok outcome) ↔
      CanGrade order configuration := by
  rw [CanGrade, suiteRun, Grader.ofConfiguration]
  cases configuration.profile with
  | error fault => exact ⟨nofun, nofun⟩
  | ok profile =>
    have staffed : (∀ workers, order.workers = some workers → 0 ≤ workers) ↔
        ¬ (order.workers.any fun workers => decide (workers < 0)) = true := by
      cases order.workers <;> simp
    rw [staffed]
    change (∃ outcome, SuiteRunner.run _ _ _ _ _ = .ok outcome) ↔ _
    rw [SuiteRunner.run]
    dsimp only
    split
    case isTrue negative => simp [negative]
    case isFalse willing =>
      exact ⟨fun _ => ⟨⟨profile, rfl⟩, willing⟩, fun _ => ⟨_, rfl⟩⟩

/-- There is one entry for a submission. -/
theorem Accounted.unique {other : BatchEntry}
    (first : Accounted order configuration store path entry)
    (second : Accounted order configuration store path other) : entry = other := by
  cases first with
  | unloadable refused =>
    cases second with
    | unloadable refusedToo =>
      cases refused.symm.trans refusedToo
      rfl
    | graded loaded => cases refused.symm.trans loaded
  | graded loaded ran =>
    cases second with
    | unloadable refused => cases refused.symm.trans loaded
    | graded loadedToo ranToo =>
      cases loaded.symm.trans loadedToo
      cases ran.symm.trans ranToo
      rfl

theorem oneLine_summary (results : SuiteResults Float) : OneLine results.summary := by
  have percentage : OneLine (Decimal.percentage results.passRate) :=
    oneLine_append.2 ⟨Decimal.oneLine_fixedSigned (by decide) _ _, by decide⟩
  simp only [SuiteResults.summary, oneLine_append]
  exact ⟨⟨⟨⟨⟨Decimal.oneLine_digits _, by decide⟩, Decimal.oneLine_digits _⟩, by decide⟩,
    percentage⟩, by decide⟩

theorem oneLine_padRight (length : Nat) (text : String) :
    OneLine (padRight length text) ↔ OneLine text := by
  rw [padRight, oneLine_append, and_iff_left]
  exact oneLine_ofList fun member => absurd (List.eq_of_mem_replicate member) (by decide)

/-- The line of a submission is one line if its stem is, and the text of the fault. -/
theorem oneLine_lineOf (accounted : Accounted order configuration store path entry) :
    OneLine (lineOf path entry) ↔ OneLine path.stem ∧
      ∀ fault, Submission.load store path.text = .error fault → OneLine fault.text := by
  cases accounted with
  | unloadable refused =>
    rw [lineOf, oneLine_append, oneLine_append, oneLine_padRight, refused]
    simp only [Except.error.injEq, forall_eq']
    rw [and_iff_left (show OneLine " failed to load: " by decide)]
  | graded loaded ran =>
    rw [lineOf, oneLine_append, oneLine_append, oneLine_padRight, loaded]
    simp only [reduceCtorEq, false_implies, implies_true, and_true]
    rw [and_iff_left (oneLine_summary _), and_iff_left (show OneLine " " by decide)]

/-! ## One submission -/

/-- Save the results of a submission, if there is a place for them. -/
def saveResults (order : BatchOrder) (path : Path) (results : SuiteResults Float) :
    ProgramAction Unit :=
  match order.output with
  | none => pure ()
  | some output => changeStore fun store =>
      store.writeMakingDirectory ((Path.ofText output).child (path.stem ++ ".json"))
        (.record results.toRecord)

/-- The workspace when the line of a submission has been written. -/
def withLine (workspace : Workspace) (path : Path) (entry : BatchEntry) : Workspace :=
  { workspace with output := workspace.output ++ [.text (lineOf path entry)] }

theorem gradeSubmission_of_refused {fault : Fault} (exercises : List (Exercise Float))
    (refused : Submission.load workspace.store path.text = .error fault) :
    gradeSubmission order configuration exercises path workspace =
      (.ok (path.stem, .unloadable fault.text),
        withLine workspace path (.unloadable fault.text)) := by
  rw [gradeSubmission, Action.inspect_bind, refused]
  rfl

theorem gradeSubmission_of_loaded {submission : Submission}
    (loaded : Submission.load workspace.store path.text = .ok submission) :
    gradeSubmission order configuration (chosenExercises order.tag) path workspace =
      (do
        let outcome ← Action.ofExcept (suiteRun order configuration submission)
        writeTexts [lineOf path (.graded outcome.results)]
        saveResults order path outcome.results
        return (path.stem, .graded outcome.results) : ProgramAction _) workspace := by
  rw [gradeSubmission, Action.inspect_bind, loaded, suiteRun]
  dsimp only
  cases Grader.ofConfiguration configuration submission.registry submission.definitions with
  | error fault => rfl
  | ok grader =>
    rw [Action.ok_bind]
    refine congrFun (congrArg (Action.ofExcept _ >>= ·) (funext fun outcome => ?_)) workspace
    rw [saveResults]
    cases order.output <;> rfl

theorem gradeSubmission_of_ran {submission : Submission} {outcome : SuiteOutcome Float}
    (loaded : Submission.load workspace.store path.text = .ok submission)
    (ran : suiteRun order configuration submission = .ok outcome) :
    gradeSubmission order configuration (chosenExercises order.tag) path workspace =
      (do
        saveResults order path outcome.results
        return (path.stem, .graded outcome.results) : ProgramAction _)
        (withLine workspace path (.graded outcome.results)) := by
  rw [gradeSubmission_of_loaded loaded, ran]
  rfl

/-- What the submissions so far have left in the store, given whether one of them has been loaded:
only then the place for the results has been made. -/
structure Stage (order : BatchOrder) (store now : Store) (loaded : Prop) : Prop where
  nowhere : order.output = none → now = store
  untouched : ¬ loaded → now = store
  saved : loaded → ∀ output, order.output = some output →
    ∃ made, store.makeDirectory (.ofText output) = .ok made ∧ Store.Settles made now

/-- The place for results, if there is one, can be made, and it has room for those of a
submission. -/
def HasPlace (order : BatchOrder) (store : Store) (path : Path) : Prop :=
  ∀ output, order.output = some output → ∃ made,
    store.makeDirectory (.ofText output) = .ok made ∧
      made.Hosts (.ofText output) (path.stem ++ ".json")

/-- Nothing keeps a submission from being graded: if it can be loaded, its suite can be run, and
there is a place for its results. -/
def IsGradable (order : BatchOrder) (configuration : Configuration) (store : Store) (path : Path) :
    Prop :=
  Loads store path → CanGrade order configuration ∧ HasPlace order store path

variable {now : Store} {loaded : Prop} {directory : String}

theorem Stage.underway (stage : Stage order store now loaded) {output : String}
    (placed : order.output = some output) : store.IsUnderway (.ofText output) now := by
  by_cases any : loaded
  · exact .inr (stage.saved any output placed)
  · exact .inl (stage.untouched any)

theorem Stage.grows (stage : Stage order store now loaded) : Store.Grows store now := by
  cases placed : order.output with
  | none =>
    rw [stage.nowhere placed]
    exact .refl store
  | some output => exact (stage.underway placed).grows

theorem Stage.of_iff {other : Prop} (stage : Stage order store now loaded)
    (same : loaded ↔ other) : Stage order store now other :=
  propext same ▸ stage

theorem changeStore_of_ok {change : Store → Except Fault Store}
    (changes : change workspace.store = .ok now) :
    changeStore change workspace = (.ok (), { workspace with store := now }) := by
  rw [changeStore, changes]

theorem changeStore_of_error {change : Store → Except Fault Store} {fault : Fault}
    (fails : change workspace.store = .error fault) :
    changeStore change workspace = (.error fault, workspace) := by
  rw [changeStore, fails]

/-- Results are saved if there is a place for them. -/
theorem saveResults_of_place (stage : Stage order store workspace.store loaded)
    (named : Store.IsRecordName (path.stem ++ ".json")) (place : HasPlace order store path)
    (results : SuiteResults Float) :
    ∃ now, saveResults order path results workspace = (.ok (), { workspace with store := now }) ∧
      Stage order store now True := by
  rw [saveResults]
  cases placed : order.output with
  | none =>
    refine ⟨workspace.store, rfl, stage.nowhere, ?_, ?_⟩
    · exact fun unloaded => absurd trivial unloaded
    · exact fun _ output asked => nomatch placed.symm.trans asked
  | some output =>
    have underway := stage.underway placed
    have proper := Path.isProper_ofText output
    obtain ⟨now, saves⟩ := (underway.exists_save_iff proper named).2 (place output placed)
    refine ⟨now, changeStore_of_ok saves, ?_, ?_, ?_⟩
    · exact fun none => nomatch placed.symm.trans none
    · exact fun unloaded => absurd trivial unloaded
    · rintro - other asked
      cases placed.symm.trans asked
      exact underway.settles proper named saves

theorem saveResults_of_no_place (stage : Stage order store workspace.store loaded)
    (named : Store.IsRecordName (path.stem ++ ".json")) (none : ¬ HasPlace order store path)
    (results : SuiteResults Float) :
    ∃ fault, saveResults order path results workspace = (.error fault, workspace) := by
  rw [HasPlace] at none
  push Not at none
  obtain ⟨output, placed, full⟩ := none
  rw [saveResults, placed]
  cases saved : workspace.store.writeMakingDirectory
      ((Path.ofText output).child (path.stem ++ ".json")) (.record results.toRecord) with
  | error fault => exact ⟨fault, changeStore_of_error saved⟩
  | ok now =>
    obtain ⟨made, makes, hosts⟩ :=
      ((stage.underway placed).exists_save_iff (Path.isProper_ofText output) named).1 ⟨now, saved⟩
    exact absurd hosts (full made makes)

section

variable (tidy : store.IsTidy) (stage : Stage order store workspace.store loaded)

include tidy stage

/-- A step of the batch: there is an entry and a line for the submission. -/
theorem gradeSubmission_of_gradable (member : path ∈ submissionsIn store (.ofText directory))
    (gradable : IsGradable order configuration store path) :
    ∃ entry after, gradeSubmission order configuration (chosenExercises order.tag) path workspace =
        (.ok (path.stem, entry), after) ∧
      Accounted order configuration store path entry ∧
      after.output = workspace.output ++ [.text (lineOf path entry)] ∧
      Stage order store after.store (loaded ∨ Loads store path) := by
  have same := load_of_grows tidy stage.grows member
  cases came : Submission.load store path.text with
  | error fault =>
    have fails : ¬ Loads store path := fun ⟨_, loads⟩ => nomatch came.symm.trans loads
    exact ⟨_, _, gradeSubmission_of_refused _ (same.trans came), .unloadable came, rfl,
      stage.of_iff (or_iff_left fails).symm⟩
  | ok submission =>
    have loads : Loads store path := ⟨submission, came⟩
    obtain ⟨canGrade, place⟩ := gradable loads
    obtain ⟨outcome, ran⟩ := (exists_suiteRun_iff submission).2 canGrade
    have unchanged : Stage order store
      (withLine workspace path (.graded outcome.results)).store loaded := stage
    obtain ⟨now, saves, further⟩ :=
      saveResults_of_place unchanged (isRecordName_stem member) place outcome.results
    refine ⟨_, { withLine workspace path (.graded outcome.results) with store := now }, ?_,
      .graded came ran, rfl, further.of_iff (iff_of_true trivial (.inr loads))⟩
    rw [gradeSubmission_of_ran (same.trans came) ran, Action.bind_of_ok saves]
    rfl

/-- Where something keeps a submission from being graded, the batch breaks off. -/
theorem gradeSubmission_of_not_gradable (member : path ∈ submissionsIn store (.ofText directory))
    (hindered : ¬ IsGradable order configuration store path) :
    ∃ fault after, gradeSubmission order configuration (chosenExercises order.tag) path workspace =
      (.error fault, after) := by
  rw [IsGradable] at hindered
  push Not at hindered
  obtain ⟨⟨submission, came⟩, hindered⟩ := hindered
  have same := (load_of_grows tidy stage.grows member).trans came
  cases ran : suiteRun order configuration submission with
  | error fault =>
    refine ⟨fault, workspace, ?_⟩
    rw [gradeSubmission_of_loaded same, ran, Action.error_bind]
  | ok outcome =>
    have unchanged : Stage order store
      (withLine workspace path (.graded outcome.results)).store loaded := stage
    have full := hindered ((exists_suiteRun_iff submission).1 ⟨outcome, ran⟩)
    obtain ⟨fault, fails⟩ :=
      saveResults_of_no_place unchanged (isRecordName_stem member) full outcome.results
    exact ⟨fault, _, by rw [gradeSubmission_of_ran same ran, Action.bind_of_error fails]⟩

end

/-! ## All submissions -/

/-- A run over submissions: there is an entry and a line for each of them. -/
theorem gradeSubmissions_of_gradable (tidy : store.IsTidy)
    (members : ∀ path ∈ paths, path ∈ submissionsIn store (.ofText directory))
    (gradable : ∀ path ∈ paths, IsGradable order configuration store path)
    (stage : Stage order store workspace.store loaded) :
    ∃ entries after, gradeSubmissions order configuration (chosenExercises order.tag) paths
          workspace = (.ok ((paths.map Path.stem).zip entries), after) ∧
      List.Forall₂ (Accounted order configuration store) paths entries ∧
      after.output = workspace.output ++ (List.zipWith lineOf paths entries).map .text ∧
      Stage order store after.store (loaded ∨ ∃ path ∈ paths, Loads store path) := by
  induction paths generalizing workspace loaded with
  | nil =>
    refine ⟨[], workspace, rfl, .nil, (List.append_nil _).symm, stage.of_iff ?_⟩
    simp
  | cons path rest ih =>
    obtain ⟨member, members⟩ := List.forall_mem_cons.1 members
    obtain ⟨gradableHere, gradable⟩ := List.forall_mem_cons.1 gradable
    obtain ⟨entry, between, graded, accounted, wrote, stageBetween⟩ :=
      gradeSubmission_of_gradable tidy stage member gradableHere
    obtain ⟨entries, after, gradedRest, accountedRest, wroteRest, stageAfter⟩ :=
      ih members gradable stageBetween
    refine ⟨entry :: entries, after, ?_, .cons accounted accountedRest, ?_, stageAfter.of_iff ?_⟩
    · rw [gradeSubmissions, Action.bind_of_ok graded, Action.bind_of_ok gradedRest]
      rfl
    · rw [wroteRest, wrote, List.append_assoc]
      rfl
    · rw [or_assoc, List.exists_mem_cons_iff]

theorem gradeSubmissions_of_not_gradable (tidy : store.IsTidy)
    (members : ∀ path ∈ paths, path ∈ submissionsIn store (.ofText directory))
    (hindered : ¬ ∀ path ∈ paths, IsGradable order configuration store path)
    (stage : Stage order store workspace.store loaded) :
    ∃ fault after, gradeSubmissions order configuration (chosenExercises order.tag) paths
      workspace = (.error fault, after) := by
  induction paths generalizing workspace loaded with
  | nil => exact absurd (List.forall_mem_nil _) hindered
  | cons path rest ih =>
    obtain ⟨member, members⟩ := List.forall_mem_cons.1 members
    rw [gradeSubmissions]
    by_cases gradableHere : IsGradable order configuration store path
    · obtain ⟨entry, between, graded, -, -, stageBetween⟩ :=
        gradeSubmission_of_gradable tidy stage member gradableHere
      have hinderedRest : ¬ ∀ path ∈ rest, IsGradable order configuration store path :=
        fun gradable => hindered (List.forall_mem_cons.2 ⟨gradableHere, gradable⟩)
      obtain ⟨fault, after, fails⟩ := ih members hinderedRest stageBetween
      exact ⟨fault, after, by rw [Action.bind_of_ok graded, Action.bind_of_error fails]⟩
    · obtain ⟨fault, after, fails⟩ :=
        gradeSubmission_of_not_gradable tidy stage member gradableHere
      exact ⟨fault, after, Action.bind_of_error fails⟩

end QuantumKata.CommandLine
