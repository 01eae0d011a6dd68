import QuantumKata.CommandLine.Help
import QuantumKata.Grading.Suite
import QuantumKata.Json

/-!
# The program

The program is given a command line and a store.  It leaves an exit code, what it has written on the
console, and the store as it is then.  The exit code is two when the command line, the configuration
or the loading of the submission is at fault, one when something was not graded correct, and zero
otherwise.  A fault that nobody has provided for ends the program with one.  Help ends it with zero.
-/

namespace QuantumKata.CommandLine

/-- A line on the console: text, or text in front of a time that is measured while the program
runs, in seconds with so many places. -/
inductive OutputLine where
  | text (line : String)
  | timed (before : String) (places : Nat)

/-- The text of a line, given the text of times. -/
def OutputLine.render (time : Nat → String) : OutputLine → String
  | text line => line
  | timed before places => before ++ time places

/-- What a program works on. -/
structure Workspace where
  store : Store
  output : List OutputLine := []

/-- The text on the console. -/
def Workspace.shown (time : Nat → String) (workspace : Workspace) : String :=
  String.join (workspace.output.map fun line => line.render time ++ "\n")

/-- Work of a program. -/
abbrev ProgramAction (α : Type) : Type := Action Workspace α

/-- Write lines on the console. -/
def writeLines (lines : List OutputLine) : ProgramAction Unit :=
  Action.update fun workspace => { workspace with output := workspace.output ++ lines }

/-- Write lines of text on the console. -/
def writeTexts (lines : List String) : ProgramAction Unit := writeLines (lines.map .text)

/-- Write marked-up text on the console. -/
def print (text : String) : ProgramAction Unit := do
  let lines ← Action.ofExcept (Console.render text)
  writeTexts lines

/-- Write a table on the console. -/
def printTable (table : Console.Table) : ProgramAction Unit := do
  let lines ← Action.ofExcept table.render
  writeTexts lines

/-- Change the store. -/
def changeStore (change : Store → Except Fault Store) : ProgramAction Unit := fun workspace =>
  match change workspace.store with
  | .ok store => (.ok (), { workspace with store })
  | .error fault => (.error fault, workspace)

/-! ## Grading -/

/-- Exercises to choose from, by tag; an empty tag chooses all of them. -/
def chosenExercises (tag : Option String) : List (Exercise Float) :=
  match tag with
  | some tag =>
    if tag.isEmpty then Exercise.builtIns else Exercise.builtInCatalog.withTag tag
  | none => Exercise.builtIns

/-- What grading needs: a grader and the registry of the submission. -/
structure Setup where
  configuration : Configuration
  grader : Grader Float
  registry : Registry Float

namespace Setup

/-- Load a submission and make a grader for it. -/
def load (configuration : Configuration) (store : Store) (source : String) :
    Except Fault Setup := do
  let submission ← Submission.load store source
  let grader ← Grader.ofConfiguration configuration submission.registry
    submission.definitions
  return ⟨configuration, grader, submission.registry⟩

/-- The settings that a command changes. -/
def overrides (profile : Option String) (showDiagnoses : Option Bool) : List (String × Datum) :=
  [("target_profile", .optional .text profile), ("diagnostics", .optional .truth showDiagnoses)]

/-- Whether a fault says that the configuration or the submission cannot be used. -/
def isExpected (fault : Fault) : Bool :=
  fault.kind == .configuration || fault.kind == .missingFile || fault.kind.isImport

/-- The exit code for a configuration or a submission that cannot be used. -/
def unusable : Nat := 2

/-- Go on with a setup, or say why there is none. -/
def proceed (setup : Except Fault Setup) (next : Setup → ProgramAction Nat) : ProgramAction Nat :=
  match setup with
  | .ok ready => next ready
  | .error fault =>
    if isExpected fault then do
      print ("[bold red]Error:[/bold red] " ++ fault.text)
      return unusable
    else Action.fail fault

end Setup

/-- Cut a submission into its source and the name behind the last colon. -/
def splitSubmission (submission : String) : String × String :=
  (Submission.splitLastColon submission).getD (submission, "")

/-- The candidate of a name; no name means the candidate of the exercise. -/
def candidateOf (name : String) : Candidate Float :=
  if name.isEmpty then .byDefault else .named name

/-- Grade a candidate and report on the console. -/
def gradeOnConsole (setup : Setup) (exercise : Exercise Float) (candidate : Candidate Float) :
    ProgramAction (GradeResult Float) := do
  let (outcome, _, state) := setup.grader.grade setup.registry (Reporter.console true) exercise
    candidate (setup.grader.bench, {})
  writeTexts state.written
  Action.ofExcept outcome

/-- Check a submission against an exercise. -/
def runCheck (configuration : Configuration) (name submission : String) (profile : Option String)
    (showDiagnoses : Option Bool) : ProgramAction Nat := do
  let exercise ← Action.ofExcept (Exercise.findBuiltIn name)
  let (source, candidate) := splitSubmission submission
  let store ← Action.inspect Workspace.store
  let setup := do
    let changed ← configuration.withOverrides (Setup.overrides profile showDiagnoses)
    Setup.load changed store source
  Setup.proceed setup fun setup => do
    let result ← gradeOnConsole setup exercise (candidateOf candidate)
    writeLines [.timed "Time: " 3]
    return if result.passed then 0 else 1

/-- The style of an outcome in a table. -/
def statusStyle : VerdictStatus → String
  | .correct => "green"
  | .incorrect => "red"
  | .executionError => "yellow"
  | .aborted => "magenta"

/-- The table of results. -/
def resultsTable (results : SuiteResults Float) : Console.Table where
  title := "Results"
  headers := ["Exercise", "Status", "Message"]
  rows := results.results.map fun result =>
    [result.exercise, Reporter.styled (statusStyle result.status) result.status.word,
      if result.passed then "" else result.verdict.message]

/-- Check a submission against all exercises. -/
def runAll (configuration : Configuration) (submission : String) (workers : Option Int)
    (timeout : Option Float) (tag output : Option String) : ProgramAction Nat := do
  let store ← Action.inspect Workspace.store
  Setup.proceed (Setup.load configuration store submission) fun setup => do
    let runner : SuiteRunner Float :=
      ⟨setup.grader, workers, .ofSeconds (timeout.getD configuration.timeout)⟩
    let outcome ← Action.ofExcept
      (runner.run setup.registry {} (.ok Reporter.silent) (chosenExercises tag))
    let results := outcome.results
    printTable (resultsTable results)
    writeLines [.timed ("Passed " ++ results.summary ++ " in ") 2]
    if let some path := output.filter fun path => !path.isEmpty then
      changeStore fun store =>
        store.writeMakingDirectory (.ofText path) (.record results.toRecord)
      print ("Results saved to " ++ path)
    return if results.passed = results.total then 0 else 1

/-! ## Information -/

/-- The table of exercises. -/
def exercisesTable (exercises : List (Exercise Float)) : Console.Table where
  title := "Exercises"
  headers := ["Name", "Qubits", "Mode", "Description"]
  rows := exercises.map fun exercise =>
    [exercise.name, Decimal.integer exercise.numQubits, exercise.mode.word, exercise.description]

/-- The table of the profiles on offer; the one that is set is marked. -/
def profilesTable (configuration : Configuration) : Console.Table where
  title := "Target profiles"
  headers := ["Setting", "Name", "Instructions"]
  rows := (TargetProfile.available (configuration.value .enableAdaptiveProfile).isTruthy).map
    fun profile =>
      let isActive := match configuration.value .targetProfile with
        | .text setting => setting == profile.setting
        | _ => false
      [profile.setting ++ (if isActive then " (active)" else ""), profile.friendlyName,
        ", ".intercalate profile.instructionWords]

/-- The version of the program. -/
def version : String := "0.1.0"

/-- What the program says about itself. -/
def infoLines : List String :=
  ["QGRADE v" ++ version, "Equivalence-based grading of quantum programming exercises", "",
    "Components:", "  • StateVector / ApplicationEngine - dense simulation",
    "  • EquivalenceChecker - control-indirection equivalence test",
    "  • GradingHarness / SuiteRunner - grading and reporting"]

/-! ## Running -/

/-- Carry out a command of a program. -/
def execute (program : String) (configuration : Configuration) : Command → ProgramAction Nat
  | .help name => do
    writeTexts (HelpPage.ofCommand program name).lines
    return 0
  | .list tag => do
    printTable (exercisesTable (chosenExercises tag))
    return 0
  | .check exercise submission profile showDiagnoses =>
    runCheck configuration exercise submission profile showDiagnoses
  | .runAll submission workers timeout tag output =>
    runAll configuration submission workers timeout tag output
  | .profiles => do
    printTable (profilesTable configuration)
    return 0
  | .info => do
    writeTexts infoLines
    return 0

/-- How the program ends: regularly, because its command line is wrong, or by a fault. -/
inductive Ending where
  | exit (code : Nat)
  | misused (problem : UsageError)
  | broken (fault : Fault)

/-- The exit code of an ending. -/
def Ending.code : Ending → Nat
  | exit code => code
  | misused _ => 2
  | broken _ => 1

/-- The text that a file holds; what was not written as text is read as it would be written. -/
def textOf : FileContent → String
  | .text content => content
  | .record datum => Json.write datum
  | .submission _ => ""

/-- The configuration to work with.  An unusable one is a mistake of the caller. -/
def configurationAt (store : Store) : Option String → Except Fault Configuration
  | none => .ok .standard
  | some path => do
    let content ← store.readPresent (.ofText path)
    Configuration.ofText path (textOf content)

/-- Run a command of a program. -/
def runCommand (program : String) (configuration : Configuration) (name : CommandName)
    (words : List String) (start : Workspace) : Ending × Workspace :=
  match Command.read name words with
  | .error problem => (.misused problem, start)
  | .ok command =>
    match execute program configuration command start with
    | (.ok code, finish) => (.exit code, finish)
    | (.error fault, finish) => (.broken fault, finish)

/-- Run the program, which is called by the name `program`. -/
def run (program : String) (words : List String) (store : Store) : Ending × Workspace :=
  let start : Workspace := { store }
  match Invocation.read store words with
  | .error problem => (.misused problem, start)
  | .ok .help => (.exit 0, { start with output := (HelpPage.ofProgram program).lines.map .text })
  | .ok (.command path name words) =>
    match configurationAt store path with
    | .error fault =>
      if fault.kind = .configuration then (.misused (.badConfiguration fault.text), start)
      else (.broken fault, start)
    | .ok configuration => runCommand program configuration name words start

end QuantumKata.CommandLine
