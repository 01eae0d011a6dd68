import QuantumKata.CommandLine.Batch
import QuantumKata.Logging.Timestamp
import Std.Time.DateTime.Timestamp

/-!
# The command line

The program is a function of its words and of the files that they name.  This file reads those
files, runs the program, and writes what it leaves: its console text with the time that was
measured, the records that it saved, and its exit code.  A submission is described in JSON; a module
`a.b` is described in the file `a/b.json`.

Called by the name `grade_submissions` the program runs a batch.  The names of the files in the
directory of the batch are then read from standard input, one a line.
-/

open QuantumKata

namespace QuantumKata.CommandLine

/-- What a file holds, if there is a file. -/
def contentOf? (path : String) : IO (Option FileContent) := do
  try
    let text ← IO.FS.readFile path
    let described := (Json.read text).toOption.map fun datum =>
      FileContent.submission (Description.submissionOf datum)
    return some (if Submission.isFile path then described.getD (.text text) else .text text)
  catch _ => return none

/-- The texts in a word that may name a file or a module: the word, what stands behind an equals
sign, what is joined to a letter, and all of them without a name behind a colon. -/
def namesIn (word : String) : List String :=
  let value := (Words.splitEquals word).2.toList
  let joined := if word.startsWith "-" then [String.ofList (word.toList.drop 2)] else []
  let whole := word :: value ++ joined
  (whole ++ whole.map fun name => (splitSubmission name).1).filter fun name => !name.isEmpty

/-- The file that describes a module. -/
def moduleFile (name : String) : String := "/".intercalate (name.splitOn ".") ++ ".json"

/-- A store with the files and modules of the given names. -/
def storeOf (names : List String) : IO Store := do
  let mut store : Store := {}
  for name in names do
    if let some content ← contentOf? name then
      let place := Store.fileName (Path.ofText name).parts
      store := { store with files := store.files.put place content }
    let described ← try (some <$> IO.FS.readFile (moduleFile name)) catch _ => pure none
    if let some datum := described.bind fun text => (Json.read text).toOption then
      let plan := Description.submissionOf datum
      store := { store with modules := store.modules.put name plan }
  return store

/-- Write the records of a store. -/
def saveRecords (store : Store) : IO Unit := do
  for (name, content) in store.files.entries do
    if let .record datum := content then
      let parent := (Path.ofText name).parent
      unless parent.parts.isEmpty do IO.FS.createDirAll parent.text
      IO.FS.writeFile name (Json.write datum)

/-- Run work on a store, show what it writes and save its records. -/
def perform {α : Type} (work : Store → α × Workspace) (store : Store) : IO α := do
  let start ← IO.monoMsNow
  let (outcome, finish) ← IO.lazyPure fun _ => work store
  let seconds := Float.ofNat ((← IO.monoMsNow) - start) / 1000
  IO.print (finish.shown fun places => Decimal.fixed places seconds ++ "s")
  saveRecords finish.store
  return outcome

/-- Say on standard error how the program ended, if it did not end regularly. -/
def explain : Ending → IO Unit
  | .exit _ => pure ()
  | .misused problem => IO.eprintln ("Error: " ++ problem.text)
  | .broken fault => IO.eprintln (fault.kind.title ++ ": " ++ fault.text)

/-- Run the program on words. -/
def mainProgram (program : String) (words : List String) : IO UInt32 := do
  let store ← storeOf (words.flatMap namesIn)
  let ending ← perform (run program words) store
  explain ending
  return ending.code.toUInt32

/-- The lines of a stream up to its end. -/
partial def linesOf (stream : IO.FS.Stream) : IO (List String) := do
  let line ← stream.getLine
  if line.isEmpty then return []
  let rest ← linesOf stream
  return line.trimAscii.toString :: rest

/-- Run a batch on words. -/
def mainBatch (words : List String) : IO UInt32 := do
  let listed ← match BatchRequest.ofWords words with
    | .grade order => do
      let names ← linesOf (← IO.getStdin)
      pure (names.map fun name => ((Path.ofText order.directory).child name).text)
    | .help | .refused => pure []
  let now ← Std.Time.Timestamp.now
  let stamp := Logging.fileStamp (Float.ofInt now.toSecondsSinceUnixEpoch.val)
  let store ← storeOf (words.flatMap namesIn ++ listed)
  match ← perform (fun store => runBatch words stamp { store }) store with
  | .ok code => return code.toUInt32
  | .error fault => do
    explain (.broken fault)
    return 1

end QuantumKata.CommandLine

/-- The program. -/
def main (words : List String) : IO UInt32 := do
  let name := (Path.ofText (toString (← IO.appPath))).stem
  if name = "grade_submissions" then CommandLine.mainBatch words
  else CommandLine.mainProgram name words
