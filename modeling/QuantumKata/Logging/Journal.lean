import QuantumKata.Action
import QuantumKata.Logging.Timestamp
import QuantumKata.Submission.Store
import QuantumKata.Text.Case
import QuantumKata.Text.Lines
import QuantumKata.Text.Width

/-!
# The journal

Messages are logged under the name of a logger and at a level.  Loggers are ordered by their dotted
names; one without a level of its own has that of the nearest logger above it that exists, in the
end that of the root, which lets warnings through.  A logger exists from the moment it is first
asked for.  The loggers of the program stand under one name, and what they let through goes to the
handlers of that name: to the console, and to a file if there is one, which takes everything from
the level of debugging on.  Every line of a file says which exercise was being graded.
-/

namespace QuantumKata.Logging

/-! ## Levels -/

/-- The levels that have names. -/
def levelNames : List (String × Int) :=
  [("CRITICAL", 50), ("FATAL", 50), ("ERROR", 40), ("WARNING", 30), ("WARN", 30), ("INFO", 20),
    ("DEBUG", 10), ("TRACE", 5), ("NOTSET", 0)]

/-- The level of debugging. -/
def debugLevel : Int := 10

/-- The level of the root of all loggers. -/
def rootLevel : Int := 30

/-- The fault of a level of an unknown name. -/
def unknownLevel (name : String) : Fault :=
  .raised .value [.text ("Unknown level: " ++ Text.quoted name)]

/-- The fault of a level that is neither a number nor a name. -/
def noLevel : Fault := .wrongType "Level not an integer or a valid string"

/-- The words that name something else than a level, and what comes of using it as one. -/
def misnomers : List (String × Fault) :=
  [("BASIC_FORMAT", unknownLevel "%(levelname)s:%(name)s:%(message)s"), ("_STYLES", noLevel)]

/-- The word for a level in capitals. -/
def levelWord : Datum → Except Fault String
  | .text name => .ok (Text.upper name)
  | other => .error (.wrongMember ("'" ++ other.typeName ++ "' object has no attribute 'upper'"))

/-- The level that a word in capitals stands for; an unknown one means information. -/
def levelOf (word : String) : Except Fault Int :=
  match misnomers.lookup word with
  | some fault => .error fault
  | none => .ok ((levelNames.lookup word).getD 20)

/-- The level that a logger is given: a number, or an exact name. -/
def ownLevelOf : Datum → Except Fault Int
  | .integer value => .ok value
  | .truth value => .ok (if value then 1 else 0)
  | .text name =>
    match levelNames.lookup name with
    | some level => .ok level
    | none => .error (unknownLevel name)
  | _ => .error noLevel

/-- The name of a level. -/
def levelName (level : Int) : String :=
  match levelNames.find? fun entry => entry.2 == level with
  | some (name, _) => name
  | none => "Level " ++ Decimal.integer level

/-! ## Records -/

/-- A logged message. -/
structure Entry where
  logger : String
  level : Int
  message : String
  moment : Float
  exercise : Option Datum

/-- The last characters of a name, at most twenty. -/
def shortName (name : String) : String :=
  String.ofList (name.toList.drop (name.length - 20))

/-- A datum in a column: texts begin at its left edge and numbers end at its right one. -/
def inColumn (width : Nat) : Datum → Except Fault String
  | .text text => .ok (Text.padRight width text)
  | .integer value => .ok (Text.padLeft width (Decimal.integer value))
  | .truth value => .ok (Text.padLeft width (if value then "1" else "0"))
  | .real value => .ok (Text.padLeft width (Decimal.shortest value))
  | other => .error (.wrongType ("unsupported format string passed to " ++ other.typeName))

/-- The line of a message, in columns. -/
def Entry.line (entry : Entry) : Except Fault String := do
  let time ← stamp entry.moment
  let exercise ← inColumn 16 (entry.exercise.getD (.text "-"))
  return time ++ " | " ++ Text.padRight 8 (levelName entry.level) ++ " | " ++
    Text.padRight 20 (shortName entry.logger) ++ " | " ++ exercise ++ " | " ++ entry.message

/-- What stands in a line behind its first column. -/
def behindFirstColumn (line : String) : String := " | ".intercalate ((line.splitOn " | ").drop 1)

/-! ## The journal -/

/-- What a handler does with what it takes. -/
inductive Target where
  | console
  | file (path : Path)
  deriving DecidableEq

/-- A handler: the level from which it takes messages, and what it does with them. -/
structure Handler where
  level : Int
  target : Target

/-- What was in force when an exercise was entered. -/
structure Suspended where
  exercise : Option Datum
  level : Option Int

/-- The name above all loggers of the program. -/
def base : String := "qgrade"

/-- The state of logging: the loggers that exist with their levels, where zero means none of their
own, the handlers, what is being graded, what was before, and the files. -/
structure Journal where
  loggers : Listing Int := .ofList [(base, 0)]
  handlers : List Handler := []
  passesOn : Bool := true
  exercise : Option Datum := none
  suspended : List Suspended := []
  store : Store := {}

/-- Work with a journal. -/
abbrev JournalAction (α : Type) : Type := Action Journal α

namespace Journal

instance : Inhabited Journal := ⟨{}⟩

/-! ### Loggers -/

/-- The level of a logger's own; zero means that it has none. -/
def ownLevel (journal : Journal) (logger : String) : Int := (journal.loggers.find? logger).getD 0

/-- Set the level of a logger. -/
def setLevel (journal : Journal) (logger : String) (level : Int) : Journal :=
  { journal with loggers := journal.loggers.put logger level }

/-- Ask for a logger, which exists from then on. -/
def request (journal : Journal) (logger : String) : Journal :=
  journal.setLevel logger (journal.ownLevel logger)

/-- Cut a name, given from its end, at its last point. -/
def cut (reversed : List Char) : List Char := (reversed.dropWhile (· != '.')).drop 1

/-- The names above a name, given from its end, the nearest first.  A name is not cut right before
the place where it was cut last.  The fuel bounds the number of names. -/
def namesAbove : (fuel : Nat) → (reversed : List Char) → List String
  | 0, _ => []
  | fuel + 1, reversed =>
    let above := cut reversed
    if above.isEmpty then [] else String.ofList above.reverse :: namesAbove fuel (above.drop 1)

/-- The nearest logger above a logger that exists. -/
def parent? (journal : Journal) (logger : String) : Option String :=
  (namesAbove logger.length logger.toList.reverse).find? journal.loggers.holds

/-- The loggers from a logger upwards without the root; the fuel bounds their number. -/
def chainWithin (journal : Journal) : (fuel : Nat) → (logger : String) → List String
  | 0, _ => []
  | fuel + 1, logger =>
    logger :: ((journal.parent? logger).map (chainWithin journal fuel)).getD []

/-- The loggers from a logger upwards. -/
def chain (journal : Journal) (logger : String) : List String :=
  if logger.isEmpty then [] else journal.chainWithin (logger.length + 1) logger

/-- The level in force for a logger. -/
def effectiveLevel (journal : Journal) (logger : String) : Int :=
  (((journal.chain logger).map journal.ownLevel).find? fun level => level != 0).getD rootLevel

/-- Whether a logger belongs to the program. -/
def isOwn (journal : Journal) (logger : String) : Bool := (journal.chain logger).contains base

/-- The name of a logger of the program: names that do not begin with the base are put under it. -/
def loggerName (name : String) : String :=
  if base.toList.isPrefixOf name.toList then name else base ++ "." ++ name

/-- Get a logger of the program, and give it a level if one is wanted. -/
def getLogger (name : String) (level : Option Datum) : JournalAction Unit := do
  let logger := loggerName name
  Action.update fun journal => journal.request logger
  if let some wanted := level then
    let number ← Action.ofExcept (ownLevelOf wanted)
    Action.update fun journal => journal.setLevel logger number

/-! ### Files -/

/-- The text of a file; one that is not there is empty. -/
def textOf (store : Store) (path : Path) : String :=
  match store.read? path with
  | some (.text content) => content
  | _ => ""

/-- Add to the text of a file. -/
def append (path : Path) (added : String) : JournalAction Unit := do
  let store ← Action.inspect Journal.store
  let written ← Action.ofExcept (store.write path (.text (textOf store path ++ added)))
  Action.update fun journal => { journal with store := written }

/-- Open a file, making its directory first; what it holds stays. -/
def openFile (path : Path) : JournalAction Unit := do
  let store ← Action.inspect Journal.store
  let made ← Action.ofExcept (store.makeDirectory path.parent)
  Action.update fun journal => { journal with store := made }
  append path ""

/-- The lines of a file. -/
def readLines (journal : Journal) (path : Path) : Except Fault (List String) :=
  (journal.store.readPresent path).map fun _ => Text.lines (textOf journal.store path)

/-! ### Logging -/

/-- Set up logging at a level, with a file or without.  The console is set up first. -/
def configure (level : Datum) (file : Option Path) : JournalAction Unit := do
  let word ← Action.ofExcept (levelWord level)
  if file.isSome && (misnomers.lookup word).isSome then Action.fail noLevel
  let number ← Action.ofExcept (levelOf word)
  let lowest := if file.isSome then min number debugLevel else number
  Action.update fun journal =>
    { journal.setLevel base lowest with
      handlers := [⟨number, .console⟩]
      passesOn := false }
  if let some path := file then
    openFile path
    Action.update fun journal =>
      { journal with handlers := journal.handlers ++ [⟨debugLevel, .file path⟩] }

/-- Hand a message to handlers.  A message that has no line is dropped. -/
def handle (entry : Entry) : List Handler → JournalAction Unit
  | [] => pure ()
  | handler :: rest => do
    match handler.target, entry.line with
    | .file path, .ok line =>
      if handler.level ≤ entry.level then append path (line ++ "\n") else pure ()
    | _, _ => pure ()
    handle entry rest

/-- Log a message.  Nothing is let through at levels below one. -/
def log (logger : String) (level : Int) (message : String) (moment : Float) :
    JournalAction Unit := do
  Action.update fun journal => journal.request logger
  let journal ← Action.inspect id
  if 0 < level ∧ journal.effectiveLevel logger ≤ level ∧ journal.isOwn logger = true then
    handle ⟨logger, level, message, moment, journal.exercise⟩ journal.handlers

/-- Enter an exercise, or change the level, until it is left again.  With an unusable level nothing
can be left, but the exercise has been entered. -/
def enter (exercise : Option Datum) (level : Option Datum) : JournalAction Unit := do
  let before ← Action.inspect id
  Action.update fun journal => { journal with exercise := exercise.or journal.exercise }
  let changed := level.filter Datum.isTruthy
  if let some wanted := changed then
    let word ← Action.ofExcept (levelWord wanted)
    let number ← Action.ofExcept (levelOf word)
    Action.update fun journal => journal.setLevel base number
  Action.update fun journal =>
    { journal with
      suspended := ⟨before.exercise, changed.map fun _ => before.ownLevel base⟩ ::
        journal.suspended }

/-- Leave what was entered last. -/
def leave (journal : Journal) : Journal :=
  match journal.suspended with
  | [] => journal
  | kept :: rest =>
    let left := { journal with exercise := kept.exercise, suspended := rest }
    match kept.level with
    | some level => left.setLevel base level
    | none => left

/-- The journal at the beginning of another session: an exercise that was entered and not left is
still being graded. -/
def renewed (journal : Journal) : Journal := { exercise := journal.exercise }

end Journal

end QuantumKata.Logging
