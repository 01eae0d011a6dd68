import QuantumKata.Datum
import QuantumKata.Fault.Kind

/-!
# Faults raised by hand

A fault raised by hand has a kind and arguments, which make its text.  Most kinds take any
arguments: none, one that stands for itself, or several that are written as a tuple.  Some kinds
look closer.  A fault of the operating system takes a number, a text and up to two file names, and
its number may change its kind.  A fault of syntax takes a text and a place, a fault of encoding
says which characters it is about, and a group of faults needs faults.  Arguments that do not fit
make the raising itself go wrong, with a fault of types or values that says what does not fit.
-/

namespace QuantumKata.FaultKind

/-! ## Texts -/

/-- The text of a fault of the operating system with a number, a text and file names. -/
def systemText (number text : Datum) (names : List Datum) : String :=
  "[Errno " ++ number.plain ++ "] " ++ text.plain ++
    (if names.isEmpty then ""
      else ": " ++ " -> ".intercalate (names.map Datum.quoted))

/-- The file names among the third argument and what follows it.  The fourth argument is none, and
without a first name there is no second.  Where work would have to wait, an integer in the place of
the name counts what has been written. -/
def fileNames (kind : FaultKind) : List Datum → List Datum
  | [] | .null :: _ => []
  | first :: rest =>
    let isCount := match first with
      | .integer _ | .truth _ => true
      | _ => false
    if kind = blocking && isCount then []
    else first :: ((rest.drop 1).filter fun second => !second.isNull)

/-- The number of a line as it is shown.  Numbers beyond all files are shown as minus one. -/
def lineText (line : Int) : String := Decimal.integer (if Datum.fitsWord line then line else -1)

/-- The text of a fault of syntax: what is wrong, the name of the file without its directory and the
line. -/
def syntaxText (text : Datum) (place : List Datum) : String :=
  let file := match (place[0]? : Option Datum) with
    | some (.text path) => [((path.splitOn "/").getLast?).getD ""]
    | _ => []
  let line := match (place[1]? : Option Datum) with
    | some (.integer line) => ["line " ++ lineText line]
    | _ => []
  text.plain ++
    (if (file ++ line).isEmpty then "" else " (" ++ ", ".intercalate (file ++ line) ++ ")")

/-- A character by its code. -/
def codeText (char : Char) : String :=
  let code := char.toNat
  if code ≤ 0xff then "\\x" ++ String.ofList (Text.hexDigits 2 code)
  else if code ≤ 0xffff then "\\u" ++ String.ofList (Text.hexDigits 4 code)
  else "\\U" ++ String.ofList (Text.hexDigits 8 code)

/-- What a fault of encoding is about: one character, or the positions of several. -/
def charactersText (complaint text : String) (first stop : Int) (reason : String) : String :=
  let one := if 0 ≤ first && stop = first + 1 then text.toList[first.toNat]? else none
  complaint ++
    (match one with
      | some char =>
        " character '" ++ codeText char ++ "' in position " ++ Decimal.integer first
      | none =>
        " characters in position " ++ Decimal.integer first ++ "-" ++ Decimal.integer (stop - 1)) ++
    ": " ++ reason

/-- The text that arguments have whatever the kind. -/
def plainText : List Datum → String
  | [] => ""
  | [only] => only.plain
  | several => Text.tupled (several.map Datum.quoted)

/-- The text of a fault of a kind with fitting arguments. -/
def textOf (kind : FaultKind) (arguments : List Datum) : String :=
  match kind, arguments with
  | .unknownOperation, [] => "unknown operation"
  | .unknownOperation, first :: _ => first.plain
  | .profileViolation, [instruction, profile] =>
    "Instruction '" ++ instruction.plain ++ "' is not available in the '" ++ profile.plain ++
      "' target profile"
  | .key, [only] => only.quoted
  | .other "UnicodeEncodeError", [encoding, text, first, stop, reason] =>
    charactersText ("'" ++ encoding.plain ++ "' codec can't encode") text.plain first.toInteger
      stop.toInteger reason.plain
  | .other "UnicodeTranslateError", [text, first, stop, reason] =>
    charactersText "can't translate" text.plain first.toInteger stop.toInteger reason.plain
  | kind, arguments =>
    if kind.isSystem && 2 ≤ arguments.length && arguments.length ≤ 5 then
      match arguments with
      | number :: text :: rest => systemText number text (fileNames kind rest)
      | _ => plainText arguments
    else if kind.isSyntax then
      match arguments with
      | [] => Datum.null.plain
      | [text, place] => syntaxText text (place.parts?.getD [])
      | text :: _ => text.plain
    else plainText arguments

/-! ## Arguments that fit -/

/-- The kind and the arguments of a complaint. -/
def complaint (kind : FaultKind) (text : String) : FaultKind × List Datum := (kind, [.text text])

/-- The type of an argument in a complaint. -/
def argumentType : Datum → String
  | .null => "None"
  | datum => datum.typeName

/-- What an argument must be. -/
inductive Demand where
  | text
  | position
  | whatever

/-- What is wrong with an argument in the given place, if anything. -/
def Demand.problem? (place : Nat) : Demand → Datum → Option (FaultKind × List Datum)
  | text, .text _ => none
  | text, unfit =>
    complaint .type ("argument " ++ Decimal.digits place ++ " must be str, not " ++
      argumentType unfit)
  | position, .integer number =>
    if Datum.fitsWord number then none
    else complaint (.other "OverflowError") "Python int too large to convert to C ssize_t"
  | position, .truth _ => none
  | position, unfit =>
    complaint .type ("'" ++ unfit.typeName ++ "' object cannot be interpreted as an integer")
  | whatever, _ => none

/-- What is wrong first with arguments that must be as many as demands. -/
def firstProblem? (demands : List Demand) (arguments : List Datum) :
    Option (FaultKind × List Datum) :=
  if demands.length = arguments.length then
    (((List.range demands.length).zip (demands.zip arguments)).findSome?
      fun (place, demand, argument) => demand.problem? (place + 1) argument)
  else
    complaint .type ("function takes exactly " ++ Decimal.digits demands.length ++
      " arguments (" ++ Decimal.digits arguments.length ++ " given)")

/-- What is wrong with the arguments of a profile violation. -/
def profileProblem? (arguments : List Datum) : Option (FaultKind × List Datum) :=
  match arguments with
  | [] =>
    complaint .type ("ProfileViolationError.__init__() missing 2 required positional arguments: " ++
      "'instruction' and 'profile'")
  | [_] =>
    complaint .type
      "ProfileViolationError.__init__() missing 1 required positional argument: 'profile'"
  | [_, _] => none
  | many =>
    complaint .type ("ProfileViolationError.__init__() takes 3 positional arguments but " ++
      Decimal.digits (many.length + 1) ++ " were given")

/-- What is wrong with the arguments of a fault of syntax. -/
def syntaxProblem? : List Datum → Option (FaultKind × List Datum)
  | [_, place] =>
    match place.parts? with
    | none => complaint .type ("'" ++ place.typeName ++ "' object is not iterable")
    | some parts =>
      let count := " arguments (" ++ Decimal.digits parts.length ++ " given)"
      if parts.length < 4 then complaint .type ("function takes at least 4" ++ count)
      else if 6 < parts.length then complaint .type ("function takes at most 6" ++ count)
      else if parts.length = 5 then
        complaint .type "end_offset must be provided when end_lineno is provided"
      else none
  | _ => none

/-- What is wrong with the arguments of a group of faults.  Data are no faults. -/
def groupProblem (arguments : List Datum) : FaultKind × List Datum :=
  let group := "BaseExceptionGroup.__new__() "
  let members (isEmpty : Bool) : FaultKind × List Datum :=
    if isEmpty then
      complaint .value "second argument (exceptions) must be a non-empty sequence"
    else complaint .value "Item 0 of second argument (exceptions) is not an exception"
  match arguments with
  | [.text _, .list items] | [.text _, .tuple items] => members items.isEmpty
  | [.text _, .text items] => members items.isEmpty
  | [.text _, .bytes items] => members items.isEmpty
  | [.text _, _] => complaint .type "second argument (exceptions) must be a sequence"
  | [unfit, _] =>
    complaint .type (group ++ "argument 1 must be str, not " ++ argumentType unfit)
  | several =>
    complaint .type (group ++ "takes exactly 2 arguments (" ++ Decimal.digits several.length ++
      " given)")

/-- The kind that the number of a fault of the operating system stands for. -/
def ofNumber (number : Datum) : FaultKind :=
  let known (code : Int) : FaultKind :=
    ((numbered.find? fun entry => entry.1 = code).map Prod.snd).getD system
  match number with
  | .integer code => known code
  | .truth isOne => known (if isOne then 1 else 0)
  | _ => system

/-- What is wrong with the count of what has been written, behind a number and a text. -/
def countProblem? : List Datum → Option (FaultKind × List Datum)
  | _ :: _ :: .integer count :: _ =>
    if Datum.fitsWord count then none
    else complaint .value "cannot fit 'int' into an index-sized integer"
  | _ :: _ :: .real _ :: _ =>
    complaint .type "'float' object cannot be interpreted as an integer"
  | _ => none

/-- The kind and the arguments of a fault of the operating system: with two to five arguments the
number may tell the kind. -/
def systemFitting (kind : FaultKind) (arguments : List Datum) : FaultKind × List Datum :=
  match arguments with
  | number :: _ :: rest =>
    if rest.length ≤ 3 then
      let actual := if kind = system then ofNumber number else kind
      let problem? := if actual = blocking then countProblem? arguments else none
      problem?.getD (actual, arguments)
    else (kind, arguments)
  | _ => (kind, arguments)

/-- The kind and the arguments of what is really raised when a kind is raised with arguments. -/
def fitting (kind : FaultKind) (arguments : List Datum) : FaultKind × List Datum :=
  let problem? : Option (FaultKind × List Datum) := match kind with
    | .profileViolation => profileProblem? arguments
    | .other "UnicodeEncodeError" =>
      firstProblem? [.text, .text, .position, .position, .text] arguments
    | .other "UnicodeTranslateError" =>
      firstProblem? [.text, .position, .position, .text] arguments
    | .other "UnicodeDecodeError" =>
      some ((firstProblem? [.text, .whatever, .position, .position, .text] arguments).getD
        (complaint .type ("a bytes-like object is required, not '" ++
          ((arguments[1]?).getD Datum.null).typeName ++ "'")))
    | .other "ExceptionGroup" | .other "BaseExceptionGroup" => some (groupProblem arguments)
    | kind => if kind.isSyntax then syntaxProblem? arguments else none
  match problem? with
  | some problem => problem
  | none => if kind.isSystem then systemFitting kind arguments else (kind, arguments)

end QuantumKata.FaultKind
