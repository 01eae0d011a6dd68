import QuantumKata.CommandLine.Options
import QuantumKata.Exercise.Builtin
import QuantumKata.Profile
import QuantumKata.Submission.Store
import QuantumKata.Text.Alphanumeric

/-!
# Commands

The program takes options of its own, then the name of a command, then the words of that command.
The words of a command are looked at in this order: the wish for help, the options in the order in
which they were given, the arguments, the options that were left out, and last what is left over.
-/

namespace QuantumKata.CommandLine

/-- The commands. -/
inductive CommandName where
  | check
  | info
  | list
  | profiles
  | runAll
  deriving DecidableEq, Repr

namespace CommandName

/-- The commands in the order of their words. -/
def all : List CommandName := [check, info, list, profiles, runAll]

/-- The word for a command. -/
def word : CommandName → String
  | check => "check"
  | info => "info"
  | list => "list"
  | profiles => "profiles"
  | runAll => "run-all"

/-- The command of a word. -/
def ofWord? (word : String) : Option CommandName := all.find? fun name => name.word == word

/-- What a command is for. -/
def purpose : CommandName → String
  | check => "Grade one submission against EXERCISE."
  | info => "Display QGRADE information."
  | list => "List the built-in exercises."
  | profiles => "List the available target profiles."
  | runAll => "Grade a submission against every built-in exercise."

end CommandName

/-- What the program is asked to do. -/
inductive Command where
  | help (name : CommandName)
  | list (tag : Option String)
  | check (exercise submission : String) (profile : Option String) (showDiagnoses : Option Bool)
  | runAll (submission : String) (workers : Option Int) (timeout : Option Float)
      (tag output : Option String)
  | profiles
  | info

/-- What the words of the program itself ask for: help, or a command with its words. -/
inductive Invocation where
  | help
  | command (configuration : Option String) (name : CommandName) (words : List String)

namespace Invocation

/-- What the program is for. -/
def purpose : String := "QGRADE: equivalence-based grading of quantum exercises."

/-- The option that names a configuration. -/
def configurationOption : OptionSpec where
  key := "config"
  names := ["--config"]
  value := some "FILE"
  purpose := "YAML configuration file"

/-- The options of the program itself. -/
def options : List OptionSpec :=
  [{ key := "verbose", names := ["--verbose", "-v"], purpose := "Enable verbose output" },
    { key := "debug", names := ["--debug"], purpose := "Enable debug logging" },
    configurationOption, .help]

/-- Check that there is a file.  A path that ends in a slash, or in a point behind one, leads to a
directory or to nothing. -/
def checkFile (store : Store) (label path : String) : Except UsageError Unit :=
  if path.isEmpty then .error (.noFile label path)
  else if store.leadsToDirectory (.ofText path) then .error (.directoryGiven label path)
  else if (store.read? (.ofText path)).isSome && !(path.endsWith "/" || path.endsWith "/.") then
    .ok ()
  else .error (.noFile label path)

/-- Whether a word that is no command looks like an option: it begins with a character that is
neither a letter nor a number. -/
def looksLikeOption (word : String) : Bool :=
  match word.toList.head? with
  | some first => !Text.isAlphanumeric first
  | none => false

/-- Read the words up to the words of the command.  Without any words, and with an option in the
place of the command, help is given. -/
def read (store : Store) (words : List String) : Except UsageError Invocation := do
  if words.isEmpty then return .help
  let told ← Words.read options false words
  if told.has OptionSpec.help.key then return .help
  let configuration := told.value? configurationOption.key
  if let some path := configuration then checkFile store configurationOption.label path
  match told.arguments with
  | [] => .error .noCommand
  | word :: rest =>
    match CommandName.ofWord? word with
    | some name => return .command configuration name rest
    | none => if looksLikeOption word then return .help else .error (.unknownCommand word)

end Invocation

namespace Command

/-- The profiles to choose from. -/
def profileChoices : List String := TargetProfile.all.map TargetProfile.setting

/-- The option that names a submission. -/
def submissionOption (purpose : String) : OptionSpec where
  key := "submission"
  names := ["--submission", "-s"]
  value := some "TEXT"
  purpose := purpose
  isRequired := true

/-- The option that names a submission and perhaps an operation of it. -/
def candidateOption : OptionSpec :=
  submissionOption "Submission file or module; append :NAME to pick the operation"

/-- The option that names a whole submission. -/
def wholeOption : OptionSpec := submissionOption "Submission file or module"

/-- The option that names a profile. -/
def profileOption : OptionSpec where
  key := "profile"
  names := ["--profile", "-p"]
  value := some ("[" ++ "|".intercalate profileChoices ++ "]")
  purpose := "Target profile override"

/-- The option that says whether diagnoses are wanted, in words for both answers. -/
def diagnosesOption : OptionSpec where
  key := "diagnostics"
  names := ["--diagnostics", "--no-diagnostics"]
  purpose := "Show expected-vs-actual state on failure"

/-- The option that gives the number of workers. -/
def workersOption : OptionSpec where
  key := "workers"
  names := ["--workers", "-w"]
  value := some "INTEGER"
  purpose := "Parallel workers"

/-- The option that gives the time allowed. -/
def timeoutOption : OptionSpec where
  key := "timeout"
  names := ["--timeout"]
  value := some "FLOAT"
  purpose := "Timeout per exercise in seconds"

/-- The option that selects exercises for what is said. -/
def tagOption (purpose : String) : OptionSpec where
  key := "tag"
  names := ["--tag", "-t"]
  value := some "TEXT"
  purpose := purpose

/-- The option that says where results are saved. -/
def outputOption : OptionSpec where
  key := "output"
  names := ["--output", "-o"]
  value := some "PATH"
  purpose := "Output file for results (JSON)"

/-- The option that selects exercises to list. -/
def listedTagOption : OptionSpec := tagOption "Only list exercises with this tag"

/-- The option that selects exercises to grade. -/
def gradedTagOption : OptionSpec := tagOption "Only grade exercises with this tag"

/-- The options of a command. -/
def options : CommandName → List OptionSpec
  | .check => [candidateOption, profileOption, diagnosesOption, .help]
  | .info => [.help]
  | .list => [listedTagOption, .help]
  | .profiles => [.help]
  | .runAll => [wholeOption, workersOption, timeoutOption, gradedTagOption, outputOption, .help]

/-- Check the value of an option. -/
def checkValue (words : Words) (key : String) : Except UsageError Unit :=
  match words.last? key with
  | some ⟨option, _, some value⟩ =>
    if key = profileOption.key ∧ profileChoices.contains value = false then
      .error (.notAChoice option.label value profileChoices)
    else if key = workersOption.key ∧ (Text.integer? value).isNone = true then
      .error (.notAnInteger option.label value)
    else if key = timeoutOption.key ∧ (Text.real? value).isNone = true then
      .error (.notAReal option.label value)
    else .ok ()
  | _ => .ok ()

/-- Check the values of all options that were given. -/
def checkValues (words : Words) : Except UsageError Unit :=
  words.keys.forM (checkValue words)

/-- The value of an option that has to be given. -/
def required (words : Words) (option : OptionSpec) : Except UsageError String :=
  match words.value? option.key with
  | some value => .ok value
  | none => .error (.optionMissing option.label)

/-- Check that no arguments are left over. -/
def checkRest : List String → Except UsageError Unit
  | [] => .ok ()
  | rest => .error (.superfluous rest)

/-- Whether diagnoses were asked for, the last word counting. -/
def diagnosesWanted (words : Words) : Option Bool :=
  (words.last? diagnosesOption.key).map fun given => given.name == "--diagnostics"

/-- Make the command that lists exercises. -/
def ofListWords (words : Words) : Except UsageError Command := do
  checkRest words.arguments
  return .list (words.value? listedTagOption.key)

/-- Make the command that checks a submission. -/
def ofCheckWords (words : Words) : Except UsageError Command :=
  match words.arguments with
  | [] => .error (.argumentMissing "EXERCISE")
  | exercise :: rest => do
    let submission ← required words candidateOption
    checkRest rest
    if (Exercise.builtInCatalog (R := Float)).holds exercise then
      return .check exercise submission (words.value? profileOption.key) (diagnosesWanted words)
    else .error (.unknownExercise exercise)

/-- Make the command that checks a submission against all exercises. -/
def ofRunAllWords (words : Words) : Except UsageError Command := do
  let submission ← required words wholeOption
  checkRest words.arguments
  return .runAll submission ((words.value? workersOption.key).bind Text.integer?)
    ((words.value? timeoutOption.key).bind Text.real?) (words.value? gradedTagOption.key)
    (words.value? outputOption.key)

/-- Read the words of a command. -/
def read (name : CommandName) (words : List String) : Except UsageError Command := do
  let told ← Words.read (options name) true words
  if told.has OptionSpec.help.key then return .help name
  checkValues told
  match name with
  | .check => ofCheckWords told
  | .list => ofListWords told
  | .runAll => ofRunAllWords told
  | .info => (checkRest told.arguments).map fun _ => .info
  | .profiles => (checkRest told.arguments).map fun _ => .profiles

end Command

end QuantumKata.CommandLine
