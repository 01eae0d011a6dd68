import QuantumKata.CommandLine.Program

/-!
# Batches

A batch grades every submission of a directory.  A submission that cannot be loaded is noted and
does not keep the others from being graded.  With a place for results, every learner's results are
saved there and a summary of all of them at the end; the place is made when the first results are
saved.
-/

namespace QuantumKata.CommandLine

/-- What a batch is asked to do. -/
structure BatchOrder where
  directory : String
  configuration : Option String := none
  tag : Option String := none
  workers : Option Int := none
  output : Option String := none

/-- The options of a batch. -/
inductive BatchOption where
  | help
  | config
  | tag
  | workers
  | output
  | verbose
  deriving DecidableEq, Repr

namespace BatchOption

/-- All options. -/
def all : List BatchOption := [help, config, tag, workers, output, verbose]

/-- The long name of an option. -/
def name : BatchOption → String
  | help => "--help"
  | config => "--config"
  | tag => "--tag"
  | workers => "--workers"
  | output => "--output"
  | verbose => "--verbose"

/-- The option that a letter stands for. -/
def ofLetter? : Char → Option BatchOption
  | 'h' => some help
  | 'v' => some verbose
  | _ => none

/-- The options that a long word stands for: the one of that name, or those whose names begin with
it. -/
def meanings (word : String) : List BatchOption :=
  match all.filter fun option => option.name = word with
  | [] => all.filter fun option => word.toList.isPrefixOf option.name.toList
  | exact => exact

end BatchOption

/-- What a word of a batch is: an argument, which may be the value of an option as well; the divider
behind which all words are arguments; an option under its long name with what an equals sign
attaches to it; the letters of options; or a word that looks like an option but is none. -/
inductive BatchWord where
  | argument (text : String)
  | divider
  | option (option : BatchOption) (attached : Option String)
  | letters (text : List Char)
  | unknown

namespace BatchWord

/-- Whether a word is a negative number.  A last line break does not count. -/
def isNegativeNumber (word : String) : Bool :=
  let isDigit (char : Char) : Bool := (Text.digit? char).isSome
  match word.toList with
  | '-' :: text =>
    let number := if text.getLast? = some '\n' then text.dropLast else text
    let whole := number.takeWhile isDigit
    match number.drop whole.length with
    | [] => !whole.isEmpty
    | '.' :: fraction => !fraction.isEmpty && fraction.all isDigit
    | _ => false
  | _ => false

/-- A word that begins like an option but names none.  Negative numbers and words with a blank are
arguments all the same. -/
def ofUnnamed (word : String) : BatchWord :=
  if isNegativeNumber word || word.toList.contains ' ' then argument word else unknown

/-- Tell what a word is.  A long word must not stand for more than one option. -/
def ofText? (word : String) : Option BatchWord :=
  match word.toList with
  | '-' :: '-' :: _ =>
    let (name, attached) := Words.splitEquals word
    match BatchOption.meanings name with
    | [] => some (ofUnnamed word)
    | [named] => some (option named attached)
    | _ => none
  | '-' :: letter :: rest =>
    some (if (BatchOption.ofLetter? letter).isSome then letters (letter :: rest)
      else ofUnnamed word)
  | _ => some (argument word)

/-- Tell what words are, one after the other. -/
def ofTexts? : List String → Option (List BatchWord)
  | [] => some []
  | word :: rest =>
    if word = "--" then some (divider :: rest.map argument)
    else do
      let first ← ofText? word
      let others ← ofTexts? rest
      return first :: others

/-- Read joined letters: whether they ask for help, and whether all of them are known.  What follows
an unknown letter is not read.  A letter cannot be followed by a value. -/
def readLetters (asksHelp : Bool) : List Char → Option (Bool × Bool)
  | [] => some (asksHelp, true)
  | letter :: rest =>
    match BatchOption.ofLetter? letter with
    | some named =>
      if rest.head? = some '=' || rest.head? = some '-' then none
      else readLetters (asksHelp || named = .help) rest
    | none => some (asksHelp, false)

end BatchWord

/-- What the words of a batch come to: the page of help, a batch, or nothing. -/
inductive BatchRequest where
  | help
  | grade (order : BatchOrder)
  | refused

namespace BatchRequest

/-- Set what an option gives. -/
def withValue? (order : BatchOrder) (option : BatchOption) (value : String) : Option BatchOrder :=
  match option with
  | .config => some { order with configuration := some value }
  | .tag => some { order with tag := some value }
  | .workers => (Text.integer? value).map fun workers => { order with workers := some workers }
  | .output => some { order with output := some value }
  | .help | .verbose => none

/-- Read words in their order.  The directory is the only argument; `given` says whether it has been
read.  Words that mean nothing are refused at the end only, so that help can still be asked for;
`isClear` says that there were none. -/
def readWords (given isClear : Bool) (order : BatchOrder) : List BatchWord → BatchRequest
  | [] => if given && isClear then grade order else refused
  | .argument text :: .divider :: rest =>
    if given then readWords given false order rest
    else readWords true isClear { order with directory := text } rest
  | .argument text :: rest =>
    if given then readWords given false order rest
    else readWords true isClear { order with directory := text } rest
  | .divider :: rest => readWords given (isClear && !given) order rest
  | .unknown :: rest => readWords given false order rest
  | .letters text :: rest =>
    match BatchWord.readLetters false text with
    | some (asksHelp, isKnown) =>
      if asksHelp then help else readWords given (isClear && isKnown) order rest
    | none => refused
  | .option option (some value) :: rest =>
    match withValue? order option value with
    | some next => readWords given isClear next rest
    | none => refused
  | .option .help none :: _ => help
  | .option .verbose none :: rest => readWords given isClear order rest
  | .option option none :: .argument value :: rest =>
    match withValue? order option value with
    | some next => readWords given isClear next rest
    | none => refused
  | .option _ none :: _ => refused

/-- Read the words of a batch. -/
def ofWords (words : List String) : BatchRequest :=
  match BatchWord.ofTexts? words with
  | some read => readWords false true { directory := "" } read
  | none => refused

/-- The page of help. -/
def helpLines : List String :=
  ["usage: grade_submissions.py [-h] [--config CONFIG] [--tag TAG] [--workers WORKERS] " ++
      "[--output OUTPUT] [--verbose] directory",
    "",
    "Grade learner submissions with QGRADE",
    "",
    "positional arguments:",
    "  directory          Directory containing one .py submission per learner",
    "",
    "options:",
    "  -h, --help         show this help message and exit",
    "  --config CONFIG    YAML configuration file",
    "  --tag TAG          Only grade exercises with this tag",
    "  --workers WORKERS  Parallel workers per submission",
    "  --output OUTPUT    Directory for per-learner JSON results",
    "  --verbose, -v      Print verbose output",
    "",
    "Examples:",
    "  grade_submissions.py submissions/",
    "  grade_submissions.py submissions/ --tag controlled --workers 8",
    "  grade_submissions.py submissions/ --config grader.yaml --output results/",
    ""]

end BatchRequest

/-- What the summary says about a submission: why it could not be loaded, or its totals. -/
inductive BatchEntry where
  | unloadable (reason : String)
  | graded (results : SuiteResults Float)

/-- An entry of the summary as a record. -/
def BatchEntry.toRecord : BatchEntry → Datum
  | unloadable reason => .record [("error", .text reason)]
  | graded results => .record results.totals

/-- Grade one submission of a batch. -/
def gradeSubmission (order : BatchOrder) (configuration : Configuration)
    (exercises : List (Exercise Float)) (path : Path) : ProgramAction (String × BatchEntry) := do
  let label := Text.padRight 24 path.stem
  let store ← Action.inspect Workspace.store
  match Submission.load store path.text with
  | .error fault =>
    writeTexts [label ++ " failed to load: " ++ fault.text]
    return (path.stem, .unloadable fault.text)
  | .ok submission =>
    let grader ← Action.ofExcept (Grader.ofConfiguration configuration
      submission.registry submission.definitions)
    let runner : SuiteRunner Float :=
      ⟨grader, order.workers, .ofSeconds configuration.timeout⟩
    let outcome ← Action.ofExcept
      (runner.run submission.registry {} (.ok Reporter.silent) exercises)
    writeTexts [label ++ " " ++ outcome.results.summary]
    if let some output := order.output then
      changeStore fun store =>
        store.writeMakingDirectory ((Path.ofText output).child (path.stem ++ ".json"))
          (.record outcome.results.toRecord)
    return (path.stem, .graded outcome.results)

/-- Grade submissions one after the other. -/
def gradeSubmissions (order : BatchOrder) (configuration : Configuration)
    (exercises : List (Exercise Float)) : List Path → ProgramAction (List (String × BatchEntry))
  | [] => pure []
  | path :: rest => do
    let entry ← gradeSubmission order configuration exercises path
    let others ← gradeSubmissions order configuration exercises rest
    return entry :: others

/-- The paths of the submissions in a directory, sorted. -/
def submissionsIn (store : Store) (directory : Path) : List Path :=
  ((store.listDirectory directory).filter fun name => name.endsWith ".py").map directory.child

/-- Save the summary. -/
def saveSummary (output stamp : String) (entries : List (String × BatchEntry)) :
    ProgramAction Unit := do
  let path := (Path.ofText output).child ("summary_" ++ stamp ++ ".json")
  let summary := Datum.record ((Listing.ofList entries).entries.map fun (name, entry) =>
    (name, entry.toRecord))
  changeStore fun store => store.write path (.record summary)
  writeTexts ["", "Summary saved to " ++ path.text]

/-- Carry out a batch; the stamp goes into the name of the summary. -/
def runOrder (order : BatchOrder) (stamp : String) : ProgramAction Nat := do
  let store ← Action.inspect Workspace.store
  let configuration ← Action.ofExcept (configurationAt store
    (order.configuration.map fun path => (Path.ofText path).text))
  let exercises := chosenExercises order.tag
  let directory := Path.ofText order.directory
  match submissionsIn store directory with
  | [] =>
    writeTexts ["No submissions found in " ++ directory.text]
    return 1
  | paths =>
    writeTexts ["Grading " ++ Decimal.digits paths.length ++ " submission(s) on " ++
      Decimal.digits exercises.length ++ " exercise(s)", Console.Table.line '=' 60]
    let entries ← gradeSubmissions order configuration exercises paths
    if let some output := order.output then saveSummary output stamp entries
    return 0

/-- Run a batch.  Words that make no sense end it with two. -/
def runBatch (words : List String) (stamp : String) : ProgramAction Nat :=
  match BatchRequest.ofWords words with
  | .help => do
    writeTexts BatchRequest.helpLines
    return 0
  | .grade order => runOrder order stamp
  | .refused => pure 2

end QuantumKata.CommandLine
