import QuantumKata.Proofs.Reports

/-!
# Exit codes

A command line comes to results, or to a hindrance where nothing can be graded.  The exit code is
told from that.  A hindrance is foreseen if the program can say what it is and ends with two; other
faults go through the program and end it with one, as results do that are not correct.

A text that the console cannot show is such a fault.  Of correct results everything can be shown but
the name of the place in which they are saved, and whether results are shown makes no difference to
the code as soon as one of them is not correct.
-/

namespace QuantumKata

namespace CommandLine

open Console

/-! ## What a command line grades -/

/-- What is at fault where nothing is graded: the command line, the configuration, what is needed
for grading, or the number of workers. -/
inductive Hindrance where
  | usage (problem : UsageError)
  | configuration (fault : Fault)
  | setup (fault : Fault)
  | workers (fault : Fault)

/-- Whether the program has provided for a hindrance. -/
def Hindrance.IsForeseen : Hindrance → Prop
  | usage _ => True
  | configuration fault => fault.kind = .configuration
  | setup fault =>
    Setup.isExpected fault = true ∧ IsVisible ("[bold red]Error:[/bold red] " ++ fault.text)
  | workers _ => False

/-- An expected fault is foreseen if its text holds no brackets. -/
theorem Hindrance.isForeseen_of_plain {fault : Fault} (expected : Setup.isExpected fault = true)
    (plain : '[' ∉ fault.text.toList) : (Hindrance.setup fault).IsForeseen := by
  have plainBehind : '[' ∉ (" " ++ fault.text).toList := by
    simpa using plain
  have isVisible : IsVisible (Reporter.styled "bold red" "Error:" ++ (" " ++ fault.text)) :=
    (isStyleName_reported "bold red" (by simp)).isVisible (by decide) plainBehind
  rw [← String.append_assoc] at isVisible
  exact ⟨expected, isVisible⟩

/-- The setup for a check. -/
def checkSetup (configuration : Configuration) (store : Store) (submission : String)
    (profile : Option String) (showDiagnoses : Option Bool) : Except Fault Setup := do
  let changed ← configuration.withOverrides (Setup.overrides profile showDiagnoses)
  Setup.load changed store (splitSubmission submission).1

/-- The runner for a suite. -/
def suiteRunner (configuration : Configuration) (setup : Setup) (workers : Option Int)
    (timeout : Option Float) : SuiteRunner Float :=
  ⟨setup.grader, workers, .ofSeconds (timeout.getD configuration.timeout)⟩

/-- What is graded on a command, or what is at fault. -/
def gradedOn (configuration : Configuration) (store : Store) :
    Command → Except Hindrance (List (GradeResult Float))
  | .check name submission profile showDiagnoses => do
    let exercise ← (Exercise.findBuiltIn name).mapError .setup
    let setup ← (checkSetup configuration store submission profile showDiagnoses).mapError .setup
    return [setup.grader.graded setup.registry exercise
      (candidateOf (splitSubmission submission).2) setup.grader.bench]
  | .runAll submission workers timeout tag _ => do
    let setup ← (Setup.load configuration store submission).mapError .setup
    let ended ← ((suiteRunner configuration setup workers timeout).run setup.registry {}
      (.ok Reporter.silent) (chosenExercises tag)).mapError .workers
    return ended.results.results
  | _ => .ok []

/-- Where a command is told to save the results; an empty place is none. -/
def outputOf : Command → Option String
  | .runAll _ _ _ _ output => output.filter fun path => !path.isEmpty
  | _ => none

/-- What the words ask for, with the configuration to work with; nothing if they ask for help. -/
def reading (store : Store) (words : List String) :
    Except Hindrance (Option (Configuration × Command)) :=
  match Invocation.read store words with
  | .error problem => .error (.usage problem)
  | .ok .help => .ok none
  | .ok (.command path name rest) => do
    let configuration ← (configurationAt store path).mapError .configuration
    let command ← (Command.read name rest).mapError .usage
    return some (configuration, command)

/-- What is graded on a command line, or what is at fault. -/
def graded (store : Store) (words : List String) : Except Hindrance (List (GradeResult Float)) := do
  match ← reading store words with
  | none => return []
  | some (configuration, command) => gradedOn configuration store command

/-- Where a command line tells the results to be saved. -/
def placeAsked (store : Store) (words : List String) : Option String :=
  match reading store words with
  | .ok (some (_, command)) => outputOf command
  | _ => none

/-- Results can be saved in the place that is asked for, if any, and the console can show where. -/
def CanSave (store : Store) (place : Option String) (results : List (GradeResult Float)) : Prop :=
  ∀ path, place = some path →
    (∃ after, store.writeMakingDirectory (.ofText path)
      (.record (SuiteResults.toRecord ⟨results⟩)) = .ok after) ∧
    IsVisible ("Results saved to " ++ path)

/-- Without a place nothing needs to be saved. -/
theorem canSave_none (store : Store) (results : List (GradeResult Float)) :
    CanSave store none results :=
  fun _ asked => nomatch asked

/-! ## The codes of commands -/

/-- How exit codes go with what is graded. -/
inductive Ends (saves : List (GradeResult Float) → Prop) :
    Except Hindrance (List (GradeResult Float)) → Nat → Prop where
  | refused {hindrance : Hindrance} (foreseen : hindrance.IsForeseen) :
      Ends saves (.error hindrance) 2
  | broken {hindrance : Hindrance} (unforeseen : ¬hindrance.IsForeseen) :
      Ends saves (.error hindrance) 1
  | passed {results : List (GradeResult Float)} (all : ∀ result ∈ results, result.passed = true)
      (saved : saves results) : Ends saves (.ok results) 0
  | failed {results : List (GradeResult Float)}
      (some : ¬∀ result ∈ results, result.passed = true) : Ends saves (.ok results) 1
  | lost {results : List (GradeResult Float)} (all : ∀ result ∈ results, result.passed = true)
      (unsaved : ¬saves results) : Ends saves (.ok results) 1

/-- Where nothing is graded, nothing is amiss. -/
theorem Ends.nothing (store : Store) : Ends (CanSave store none) (.ok []) 0 :=
  .passed (fun _ member => nomatch member) (canSave_none store [])

/-- The exit code that comes of what a command leaves. -/
def exitCode : Except Fault Nat → Nat
  | .ok code => code
  | .error _ => 1

theorem print_of_isVisible {text : String} (isVisible : IsVisible text) (workspace : Workspace) :
    ∃ after, print text workspace = (.ok (), after) := by
  rcases isVisible.exists_render with ⟨lines, rendered⟩
  exact ⟨_, by rw [print, rendered]; rfl⟩

theorem print_of_not_isVisible {text : String} (hidden : ¬IsVisible text) (workspace : Workspace) :
    ∃ fault after, print text workspace = (.error fault, after) := by
  cases rendered : render text with
  | error fault => exact ⟨fault, workspace, by rw [print, rendered]; rfl⟩
  | ok lines => exact absurd (.of_render rendered) hidden

/-- Where there is no setup, the kind of the fault and its text decide on the code. -/
theorem ends_of_refused {fault : Fault} (next : Setup → ProgramAction Nat)
    (saves : List (GradeResult Float) → Prop) (workspace : Workspace) :
    Ends saves (.error (.setup fault))
      (exitCode (Setup.proceed (.error fault) next workspace).1) := by
  rw [Setup.proceed]
  by_cases expected : Setup.isExpected fault = true
  · rw [if_pos expected]
    by_cases isVisible : IsVisible ("[bold red]Error:[/bold red] " ++ fault.text)
    · rcases print_of_isVisible isVisible workspace with ⟨after, printed⟩
      rw [Action.bind_of_ok printed]
      exact .refused ⟨expected, isVisible⟩
    · rcases print_of_not_isVisible isVisible workspace with ⟨problem, after, printed⟩
      rw [Action.bind_of_error printed]
      exact .broken fun foreseen => isVisible foreseen.2
  · rw [if_neg expected]
    exact .broken fun foreseen => expected foreseen.1

theorem mem_builtIns_of_findBuiltIn {name : String} {exercise : Exercise Float}
    (found : Exercise.findBuiltIn name = .ok exercise) : exercise ∈ Exercise.builtIns := by
  rw [Exercise.findBuiltIn, Catalog.get] at found
  cases looked : (Exercise.builtInCatalog (R := Float)).listing.find? name with
  | none =>
    rw [looked] at found
    cases found
  | some other =>
    rw [looked] at found
    cases found
    rcases List.lookup_eq_some_iff.1 looked with ⟨before, behind, apart, -⟩
    have listed : (name, exercise) ∈ (Exercise.builtInCatalog (R := Float)).listing.entries :=
      apart ▸ List.mem_append_right before List.mem_cons_self
    rcases List.mem_map.1 listed with ⟨named, isBuiltIn, same⟩
    cases same
    exact isBuiltIn

theorem kind_of_findBuiltIn {name : String} {fault : Fault}
    (unknown : Exercise.findBuiltIn (R := Float) name = .error fault) : fault.kind = .key := by
  rw [Exercise.findBuiltIn, Catalog.get] at unknown
  split at unknown <;> cases unknown
  rfl

/-- Grading on the console comes to what the grader says. -/
theorem gradeOnConsole_fst (setup : Setup) (exercise : Exercise Float) (candidate : Candidate Float)
    (workspace : Workspace) :
    (gradeOnConsole setup exercise candidate workspace).1 =
      (setup.grader.grade setup.registry (Reporter.console true) exercise candidate
        (setup.grader.bench, {})).1 := by
  rw [gradeOnConsole]
  rcases setup.grader.grade setup.registry (Reporter.console true) exercise candidate
    (setup.grader.bench, {}) with ⟨outcome, bench, state⟩
  rfl

/-- Grading on the console comes to the result, unless one that is not correct cannot be shown. -/
theorem outcome_gradeOnConsole (setup : Setup) {exercise : Exercise Float}
    (isBuiltIn : exercise ∈ Exercise.builtIns) (candidate : Candidate Float)
    (workspace : Workspace) {result : GradeResult Float}
    (graded : setup.grader.graded setup.registry exercise candidate setup.grader.bench = result) :
    (gradeOnConsole setup exercise candidate workspace).1 = .ok result ∨
      result.passed = false ∧
        ∃ fault, (gradeOnConsole setup exercise candidate workspace).1 = .error fault := by
  rcases Reporter.start_of_builtIn isBuiltIn with ⟨started, starts⟩
  rw [gradeOnConsole_fst, Grader.outcome_grade starts fun _ => rfl]
  have shape :=
    Grader.shape_graded setup.grader setup.registry exercise candidate setup.grader.bench
  rw [graded] at shape ⊢
  cases passed : result.passed with
  | true =>
    rw [Reporter.report_of_passed passed (shape.2 passed)]
    exact .inl rfl
  | false =>
    cases ((Reporter.console true).report result exercise started).1 with
    | ok _ => exact .inl rfl
    | error fault => exact .inr ⟨rfl, fault, rfl⟩

theorem runCheck_of_found {name : String} {exercise : Exercise Float}
    (found : Exercise.findBuiltIn name = .ok exercise) (configuration : Configuration)
    (submission : String) (profile : Option String) (showDiagnoses : Option Bool)
    (workspace : Workspace) :
    runCheck configuration name submission profile showDiagnoses workspace =
      Setup.proceed (checkSetup configuration workspace.store submission profile showDiagnoses)
        (fun setup => do
          let result ← gradeOnConsole setup exercise (candidateOf (splitSubmission submission).2)
          writeLines [.timed "Time: " 3]
          return if result.passed then 0 else 1) workspace := by
  rw [runCheck, found, Action.ok_bind, checkSetup]
  rcases splitSubmission submission with ⟨source, candidate⟩
  exact (Action.inspect_bind Workspace.store _ workspace).trans (by with_reducible rfl)

/-- A check ends with zero if the result is correct, and with one if it is not. -/
theorem ends_runCheck (configuration : Configuration) (name submission : String)
    (profile : Option String) (showDiagnoses : Option Bool) (workspace : Workspace) :
    Ends (CanSave workspace.store none)
      (gradedOn configuration workspace.store (.check name submission profile showDiagnoses))
      (exitCode (runCheck configuration name submission profile showDiagnoses workspace).1) := by
  rw [gradedOn]
  cases found : Exercise.findBuiltIn (R := Float) name with
  | error fault =>
    have fails : runCheck configuration name submission profile showDiagnoses workspace =
        (.error fault, workspace) := by
      rw [runCheck, found, Action.error_bind]
    have unexpected : ¬Setup.isExpected fault = true := by
      rw [Setup.isExpected, kind_of_findBuiltIn found]
      decide
    rw [fails]
    exact .broken fun foreseen => unexpected foreseen.1
  | ok exercise =>
    rw [runCheck_of_found found]
    cases checkSetup configuration workspace.store submission profile showDiagnoses with
    | error fault => exact ends_of_refused _ _ _
    | ok setup =>
      change Ends _ (.ok [_]) _
      rw [Setup.proceed]
      generalize graded : setup.grader.graded setup.registry exercise
        (candidateOf (splitSubmission submission).2) setup.grader.bench = result
      have outcomes := outcome_gradeOnConsole setup (mem_builtIns_of_findBuiltIn found)
        (candidateOf (splitSubmission submission).2) workspace graded
      rcases shown : gradeOnConsole setup exercise (candidateOf (splitSubmission submission).2)
        workspace with ⟨outcome, after⟩
      rw [shown] at outcomes
      rcases outcomes with rfl | ⟨notPassed, fault, rfl⟩
      · rw [Action.bind_of_ok shown]
        cases passed : result.passed with
        | true => exact .passed (List.forall_mem_singleton.2 passed) (canSave_none _ _)
        | false =>
          exact .failed fun all => absurd (all result List.mem_cons_self) (by simp [passed])
      · rw [Action.bind_of_error shown]
        exact .failed fun all => absurd (all result List.mem_cons_self) (by simp [notPassed])

/-- A table is shown on the console if its texts can be. -/
theorem printTable_of_render {table : Table} {lines : List String}
    (rendered : table.render = .ok lines) (workspace : Workspace) :
    printTable table workspace =
      (.ok (), { workspace with output := workspace.output ++ lines.map .text }) := by
  rw [printTable, rendered]
  rfl

/-- Show results. -/
def showAll (results : SuiteResults Float) : ProgramAction Unit := do
  printTable (resultsTable results)
  writeLines [.timed ("Passed " ++ results.summary ++ " in ") 2]

/-- Save results in a place, if there is one, and tell where. -/
def saveIn (results : SuiteResults Float) : Option String → ProgramAction Unit
  | none => pure ()
  | some path => do
    changeStore fun store => store.writeMakingDirectory (.ofText path) (.record results.toRecord)
    print ("Results saved to " ++ path)

/-- What a suite does with its results. -/
def reportAll (place : Option String) (results : SuiteResults Float) : ProgramAction Nat := do
  showAll results
  saveIn results place
  return if results.passed = results.total then 0 else 1

theorem runAll_eq (configuration : Configuration) (submission : String) (workers : Option Int)
    (timeout : Option Float) (tag output : Option String) (workspace : Workspace) :
    runAll configuration submission workers timeout tag output workspace =
      Setup.proceed (Setup.load configuration workspace.store submission)
        (fun setup => do
          let ended ← Action.ofExcept ((suiteRunner configuration setup workers timeout).run
            setup.registry {} (.ok Reporter.silent) (chosenExercises tag))
          reportAll (output.filter fun path => !path.isEmpty) ended.results) workspace := by
  rw [runAll, Action.inspect_bind]
  cases output.filter fun path => !path.isEmpty with
  | none =>
    simp only [reportAll, showAll, saveIn, bind_assoc, pure_bind]
    rfl
  | some path =>
    simp only [reportAll, showAll, saveIn, bind_assoc]
    rfl

theorem passed_eq_total_iff (results : SuiteResults Float) :
    results.passed = results.total ↔ ∀ result ∈ results.results, result.passed = true :=
  List.countP_eq_length

/-- Whatever comes first, what ends with one does. -/
theorem exitCode_bind_eq_one {α : Type} (first : ProgramAction α) {next : α → ProgramAction Nat}
    (ends : ∀ value after, exitCode (next value after).1 = 1) (workspace : Workspace) :
    exitCode ((first >>= next) workspace).1 = 1 := by
  rw [Action.bind_apply]
  split
  · exact ends _ _
  · rfl

theorem exitCode_reportAll_of_failed {results : SuiteResults Float}
    (some : ¬∀ result ∈ results.results, result.passed = true) (place : Option String)
    (workspace : Workspace) : exitCode (reportAll place results workspace).1 = 1 := by
  rw [reportAll, if_neg (mt (passed_eq_total_iff results).1 some)]
  exact exitCode_bind_eq_one _ (fun _ _ => exitCode_bind_eq_one _ (fun _ _ => rfl) _) _

/-- Results are saved if they can be, and otherwise saving them fails. -/
theorem outcome_saveIn (results : SuiteResults Float) (place : Option String)
    (workspace : Workspace) :
    (CanSave workspace.store place results.results ∧
        ∃ after, saveIn results place workspace = (.ok (), after)) ∨
      ¬CanSave workspace.store place results.results ∧
        ∃ fault after, saveIn results place workspace = (.error fault, after) := by
  cases place with
  | none => exact .inl ⟨canSave_none _ _, workspace, rfl⟩
  | some path =>
    cases written : workspace.store.writeMakingDirectory (.ofText path)
      (.record (SuiteResults.toRecord ⟨results.results⟩)) with
    | error fault =>
      have fails : changeStore (fun store => store.writeMakingDirectory (.ofText path)
          (.record results.toRecord)) workspace = (.error fault, workspace) := by
        rw [changeStore, written]
      refine .inr ⟨fun canSave => ?_, fault, workspace, Action.bind_of_error fails⟩
      rcases (canSave path rfl).1 with ⟨store, writes⟩
      cases written.symm.trans writes
    | ok store =>
      have saves : changeStore (fun store => store.writeMakingDirectory (.ofText path)
          (.record results.toRecord)) workspace = (.ok (), { workspace with store }) := by
        rw [changeStore, written]
      rw [saveIn, Action.bind_of_ok saves]
      by_cases isVisible : IsVisible ("Results saved to " ++ path)
      · refine .inl ⟨fun other asked => ?_, print_of_isVisible isVisible _⟩
        cases asked
        exact ⟨⟨store, written⟩, isVisible⟩
      · exact .inr ⟨fun canSave => isVisible (canSave path rfl).2,
          print_of_not_isVisible isVisible _⟩

/-- Correct results are shown, so only saving them can fail. -/
theorem ends_reportAll_of_passed {results : SuiteResults Float}
    (all : ∀ result ∈ results.results, result.passed = true)
    (shows : ∃ lines, (resultsTable results).render = .ok lines) (place : Option String)
    (workspace : Workspace) :
    Ends (CanSave workspace.store place) (.ok results.results)
      (exitCode (reportAll place results workspace).1) := by
  rcases shows with ⟨lines, rendered⟩
  obtain ⟨output, shown⟩ : ∃ output,
      showAll results workspace = (.ok (), { workspace with output }) := by
    rw [showAll, Action.bind_of_ok (printTable_of_render rendered workspace)]
    exact ⟨_, rfl⟩
  rw [reportAll, Action.bind_of_ok shown, if_pos ((passed_eq_total_iff results).2 all)]
  rcases outcome_saveIn results place { workspace with output } with
    ⟨canSave, after, saves⟩ | ⟨cannot, fault, after, saves⟩
  · rw [Action.bind_of_ok saves]
    exact .passed all canSave
  · rw [Action.bind_of_error saves]
    exact .lost all cannot

/-- A suite ends with one as soon as a result is not correct, whether it can be reported or not. -/
theorem ends_runAll (configuration : Configuration) (submission : String) (workers : Option Int)
    (timeout : Option Float) (tag output : Option String) (workspace : Workspace) :
    Ends (CanSave workspace.store (output.filter fun path => !path.isEmpty))
      (gradedOn configuration workspace.store (.runAll submission workers timeout tag output))
      (exitCode (runAll configuration submission workers timeout tag output workspace).1) := by
  rw [gradedOn, runAll_eq]
  cases Setup.load configuration workspace.store submission with
  | error fault => exact ends_of_refused _ _ _
  | ok setup =>
    change Ends _ (((suiteRunner configuration setup workers timeout).run setup.registry {}
      (.ok Reporter.silent) (chosenExercises tag)).mapError .workers >>= _) _
    rw [Setup.proceed]
    cases ran : (suiteRunner configuration setup workers timeout).run setup.registry {}
      (.ok Reporter.silent) (chosenExercises tag) with
    | error fault => exact .broken id
    | ok ended =>
      rw [Action.ok_bind]
      by_cases all : ∀ result ∈ ended.results.results, result.passed = true
      · refine ends_reportAll_of_passed all (exists_render_resultsTable all ?_) _ _
        intro result member
        rcases SuiteRunner.exists_exercise_of_run ran member with ⟨exercise, chosen, named⟩
        exact ⟨exercise, chosenExercises_subset tag chosen, named⟩
      · rw [exitCode_reportAll_of_failed all]
        exact .failed all

/-! ## The code of the program -/

theorem ends_execute (program : String) (configuration : Configuration) (command : Command)
    (workspace : Workspace) :
    Ends (CanSave workspace.store (outputOf command))
      (gradedOn configuration workspace.store command)
      (exitCode (execute program configuration command workspace).1) := by
  cases command with
  | help name => exact .nothing _
  | list tag =>
    rcases exists_render_exercisesTable (chosenExercises_subset tag) with ⟨lines, rendered⟩
    rw [execute, Action.bind_of_ok (printTable_of_render rendered workspace)]
    exact .nothing _
  | check name submission profile showDiagnoses =>
    exact ends_runCheck configuration name submission profile showDiagnoses workspace
  | runAll submission workers timeout tag output =>
    exact ends_runAll configuration submission workers timeout tag output workspace
  | profiles =>
    rcases exists_render_profilesTable configuration with ⟨lines, rendered⟩
    rw [execute, Action.bind_of_ok (printTable_of_render rendered workspace)]
    exact .nothing _
  | info => exact .nothing _

theorem runCommand_code (program : String) (configuration : Configuration) {name : CommandName}
    {words : List String} {command : Command} (reads : Command.read name words = .ok command)
    (start : Workspace) :
    (runCommand program configuration name words start).1.code =
      exitCode (execute program configuration command start).1 := by
  rw [runCommand, reads]
  rcases executed : execute program configuration command start with ⟨fault | code, finish⟩
  · simp only [executed]
    rfl
  · simp only [executed]
    rfl

/-- How the exit code of the program goes with what is graded. -/
theorem ends_run (program : String) (words : List String) (store : Store) :
    Ends (CanSave store (placeAsked store words)) (graded store words)
      (run program words store).1.code := by
  rw [graded, placeAsked, reading, run]
  cases Invocation.read store words with
  | error problem => exact .refused trivial
  | ok invocation =>
    cases invocation with
    | help => exact .nothing store
    | command path name rest =>
      dsimp only
      cases configurationAt store path with
      | error fault =>
        dsimp only
        by_cases provided : fault.kind = .configuration
        · have foreseen : (Hindrance.configuration fault).IsForeseen := provided
          rw [if_pos provided]
          exact .refused foreseen
        · have unforeseen : ¬(Hindrance.configuration fault).IsForeseen := provided
          rw [if_neg provided]
          exact .broken unforeseen
      | ok configuration =>
        cases reads : Command.read name rest with
        | error problem =>
          have foreseen : (Hindrance.usage problem).IsForeseen := trivial
          dsimp only
          rw [runCommand, reads]
          exact .refused foreseen
        | ok command =>
          dsimp only
          rw [runCommand_code program configuration reads]
          exact ends_execute program configuration command { store }

private theorem isFile_empty : Submission.isFile "" = false := by
  have uncut : "".splitOn "/" = [""] := by
    rw [String.splitOn, if_neg (by decide), String.splitOnAux, if_pos (by decide)]
    rfl
  have nowhere : (Path.ofText "").parts = [] := by
    rw [Path.ofText, uncut]
    decide
  rw [Submission.isFile, Path.ending, Path.name, nowhere]
  decide

end CommandLine

end QuantumKata
