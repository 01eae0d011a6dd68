import QuantumKata.Path
import QuantumKata.Submission.Plan

/-!
# The store

A store holds files by path, directories, and modules that submissions can be loaded from by a
dotted name.  A submission is loaded from a file whose name ends in `.py`, or from a module.
-/

namespace QuantumKata

/-- What a file holds. -/
inductive FileContent where
  | text (content : String)
  | submission (plan : SubmissionPlan)
  | record (datum : Datum)

instance : Inhabited FileContent := ⟨.text ""⟩

/-- Files by their paths, directories, and modules by their names. -/
structure Store where
  files : Listing FileContent := {}
  directories : List (List String) := []
  modules : Listing SubmissionPlan := {}

namespace Store

/-- The parts of the paths of all files. -/
def fileParts (store : Store) : List (List String) :=
  store.files.names.map fun name => (Path.ofText name).parts

/-- Whether there is a directory of the given parts: one that was made, or one that a file or a
directory stands in. -/
def hasDirectory (store : Store) (parts : List String) : Bool :=
  parts.isEmpty || store.directories.any (parts.isPrefixOf ·) ||
    store.fileParts.any fun file => parts.isPrefixOf file && parts.length < file.length

/-- Follow the parts of a path.  `behind` holds the parts followed so far, the latest first; only
what is a directory can be left by two points. -/
def follow (store : Store) : (behind : List String) → List String → Option (List String)
  | behind, [] => some behind.reverse
  | behind, part :: rest =>
    if part = ".." then
      if store.hasDirectory behind.reverse then
        match behind with
        | _ :: outer => follow store outer rest
        | [] => none
      else none
    else follow store (part :: behind) rest

/-- The parts that a path leads to; paths from the root lead out of the store. -/
def place? (store : Store) (path : Path) : Option (List String) :=
  if path.root.isEmpty then store.follow [] path.parts else none

/-- The name under which a file of the given parts is kept. -/
def fileName (parts : List String) : String := "/".intercalate parts

/-- What the file at a path holds. -/
def read? (store : Store) (path : Path) : Option FileContent := do
  let parts ← store.place? path
  store.files.find? (fileName parts)

/-- Whether a path leads to a directory. -/
def leadsToDirectory (store : Store) (path : Path) : Bool :=
  (store.place? path).any store.hasDirectory

/-- Whether there is a file of the given parts. -/
def hasFile (store : Store) (parts : List String) : Bool := store.files.holds (fileName parts)

/-- Make the directories on the way along the parts of a path, after those in `behind`.  A file in
the way is a problem. -/
def makeDirectories (store : Store) : (behind : List String) → List String →
    Except PathProblem Store
  | _, [] => .ok store
  | behind, part :: rest =>
    if part = ".." then
      match behind with
      | _ :: outer => makeDirectories store outer rest
      | [] => .error .missing
    else
      let made := (part :: behind).reverse
      if store.hasFile made then .error (if rest.isEmpty then .occupied else .insideFile)
      else
        makeDirectories { store with directories := store.directories ++ [made] }
          (part :: behind) rest

/-- Make a directory and those around it. -/
def makeDirectory (store : Store) (path : Path) : Except Fault Store :=
  if path.root.isEmpty then
    (store.makeDirectories [] path.parts).mapError fun problem => .unusablePath problem path.text
  else .error (.unusablePath .missing path.text)

/-- What keeps a file from being written at a place, if anything does. -/
def problemAt? (store : Store) : Option (List String) → Option PathProblem
  | none => some .missing
  | some parts =>
    if store.hasDirectory parts then some .directory
    else if store.hasDirectory parts.dropLast then none
    else if (List.range parts.length).any fun length => store.hasFile (parts.take length) then
      some .insideFile
    else some .missing

/-- Write a file into a directory that is there. -/
def write (store : Store) (path : Path) (content : FileContent) : Except Fault Store :=
  let place := store.place? path
  match store.problemAt? place with
  | some problem => .error (.unusablePath problem path.text)
  | none => .ok { store with files := store.files.put (fileName (place.getD [])) content }

/-- Write a file, making its directory first. -/
def writeMakingDirectory (store : Store) (path : Path) (content : FileContent) :
    Except Fault Store := do
  let store ← store.makeDirectory path.parent
  store.write path content

/-- Read a file that has to be there. -/
def readPresent (store : Store) (path : Path) : Except Fault FileContent :=
  match store.read? path with
  | some content => .ok content
  | none => .error (.unusablePath
      (if store.leadsToDirectory path then .directory else .missing) path.text)

/-- The names of the files in a directory, sorted. -/
def listDirectory (store : Store) (path : Path) : List String :=
  match store.place? path with
  | none => []
  | some directory =>
    let names := store.fileParts.filterMap fun parts =>
      if parts.dropLast = directory then parts.getLast? else none
    names.mergeSort fun left right => decide (left ≤ right)

end Store

/-- A loaded submission. -/
structure Submission where
  name : String
  content : SubmissionContent

namespace Submission

/-- What the names in the bodies of a submission stand for. -/
def definitions (submission : Submission) : Definitions Float := submission.content.definitions

/-- What a submission says about itself under a name: how it is called, that it says nothing about
its purpose, and the package it belongs to. -/
def ownMember? (submission : Submission) (name : String) : Option (Export Float) :=
  match name with
  | "__name__" => some (.value (.text submission.name))
  | "__doc__" => some (.value .null)
  | "__package__" =>
    some (.value (.text (".".intercalate (submission.name.splitOn ".").dropLast)))
  | _ => none

/-- What is found under a name in a submission. -/
def member? (submission : Submission) (name : String) : Option (Export Float) :=
  (submission.content.exports.find? name).or (submission.ownMember? name)

/-- Whether a source is a file rather than a module. -/
def isFile (source : String) : Bool :=
  source.endsWith ".py" || (Path.ofText source).ending = ".py"

/-- The name of a submission that is loaded from a file. -/
def fileModuleName (path : Path) : String := "qgrade_submission_" ++ path.stem

/-- Load a submission from a file.  A file that is no description exports nothing, and a directory
that is called like a file cannot be read. -/
def loadFile (store : Store) (source : String) : Except Fault Submission :=
  let path := Path.ofText source
  match store.read? path with
  | none =>
    if store.leadsToDirectory path then .error (.unusablePath .directory path.text)
    else .error (.submissionNotFound path.text)
  | some (.submission plan) => plan.load.map fun content => ⟨fileModuleName path, content⟩
  | some _ => .ok ⟨fileModuleName path, {}⟩

/-- The dotted names that lead to a name, the outermost first and without the name itself. -/
def ancestors : (outer : List String) → List String → List String
  | _, [] | _, [_] => []
  | outer, part :: rest =>
    ".".intercalate (outer ++ [part]) :: ancestors (outer ++ [part]) rest

/-- The fault of a module that is missing.  Of a dotted name the outermost missing ancestor is
reported.  An ancestor that is there is loaded first, and then is no package. -/
def missing (store : Store) (name : String) : Fault :=
  let leading := ancestors [] (name.splitOn ".")
  match leading.reverse.find? store.modules.holds with
  | none => .noModule ((leading.filter fun ancestor => !ancestor.isEmpty).headD name)
  | some package =>
    match (store.modules.find? package).map SubmissionPlan.load with
    | some (.error fault) => fault
    | _ =>
      match (leading.dropWhile (· != package)).drop 1 with
      | next :: _ => .noPackage next package
      | [] => .noPackage name package

/-- Load a submission from a module. -/
def loadModule (store : Store) (source : String) : Except Fault Submission :=
  if source.toList.head? = some '.' then .error (.relativeModuleName source)
  else if source.isEmpty then .error .emptyModuleName
  else
    match store.modules.find? source with
    | some plan => plan.load.map fun content => ⟨source, content⟩
    | none => .error (missing store source)

/-- Load a submission. -/
def load (store : Store) (source : String) : Except Fault Submission :=
  if isFile source then loadFile store source else loadModule store source

/-- The registry of a submission. -/
def registry (submission : Submission) : Registry Float := .ofSubmission submission.content.exports

/-- Cut a text at its last colon, if it has one. -/
def splitLastColon (text : String) : Option (String × String) :=
  let reversed := text.toList.reverse
  let behind := reversed.takeWhile (· != ':')
  match reversed.drop behind.length with
  | _ :: front => some (String.ofList front.reverse, String.ofList behind.reverse)
  | [] => none

/-- Load one export of a submission, given as the source and the name with a colon between them. -/
def loadExport (store : Store) (reference : String) : Except Fault (Export Float) :=
  match splitLastColon reference with
  | none => .error (.malformedReference reference)
  | some (source, name) =>
    if source.isEmpty || name.isEmpty then .error (.malformedReference reference)
    else do
      let submission ← load store source
      match submission.member? name with
      | some found => .ok found
      | none => .error (.missingMember source name)

end Submission

end QuantumKata
