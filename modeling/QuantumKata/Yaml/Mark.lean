import QuantumKata.Fault

/-!
# Places in a document

A mark is a place in the text of a document.  A complaint says at which stage of reading a document
could not be understood, what was being read there, since when, and what was wrong where.
-/

namespace QuantumKata.Yaml

/-- A place in a text: how many characters and lines stand before it, and its column. -/
structure Mark where
  index : Nat := 0
  line : Nat := 0
  column : Nat := 0
  deriving DecidableEq, Inhabited, Repr

/-- Whether a character ends a line. -/
def isBreak (char : Char) : Bool := "\n\u0085\u2028\u2029".contains char

/-- The place behind a character.  The mark of the byte order takes no column. -/
def Mark.past (mark : Mark) (char : Char) : Mark :=
  if isBreak char then ⟨mark.index + 1, mark.line + 1, 0⟩
  else if char = '\ufeff' then { mark with index := mark.index + 1 }
  else { mark with index := mark.index + 1, column := mark.column + 1 }

/-- A place in words. -/
def Mark.text (mark : Mark) (name : String) : String :=
  "  in \"" ++ name ++ "\", line " ++ Decimal.digits (mark.line + 1) ++ ", column " ++
    Decimal.digits (mark.column + 1)

/-- The stages of reading a document: characters, words, structure, references and data. -/
inductive Stage where
  | reader
  | scanner
  | parser
  | composer
  | constructor
  deriving DecidableEq, Repr

/-- The name under which complaints of a stage are known. -/
def Stage.title : Stage → String
  | reader => "ReaderError"
  | scanner => "ScannerError"
  | parser => "ParserError"
  | composer => "ComposerError"
  | constructor => "ConstructorError"

/-- Why a document could not be read: what was wrong and where, and what was being read, with the
place where that began. -/
structure Complaint where
  stage : Stage
  context : Option String := none
  since : Option Mark := none
  problem : String
  mark : Mark

/-- A complaint in words.  The place where the reading began is left out if nothing was read. -/
def Complaint.text (complaint : Complaint) (name : String) : String :=
  let began := complaint.since.filter fun since =>
    since.line ≠ complaint.mark.line || since.column ≠ complaint.mark.column
  "\n".intercalate (complaint.context.toList ++ (began.map fun since => since.text name).toList ++
    [complaint.problem, complaint.mark.text name])

/-- A complaint about the text of the named document, as a fault. -/
def Complaint.fault (complaint : Complaint) (name : String) : Fault :=
  .malformedDocument complaint.stage.title (complaint.text name)

end QuantumKata.Yaml
