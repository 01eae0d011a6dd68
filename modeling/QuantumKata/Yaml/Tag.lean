import QuantumKata.Yaml.Timestamp
import QuantumKata.Text.Numeral

/-!
# Tags of plain scalars

Every node has a tag that says what it stands for.  A scalar without quotes and without a tag gets
one by the way it is written: it may stand for nothing, a truth value, a number, a time, or for
itself.  A real number needs a point, and its exponent needs a sign.
-/

namespace QuantumKata.Yaml

/-- A tag of the standard ones. -/
def standardTag (name : String) : String := "tag:yaml.org,2002:" ++ name

/-- The tag of texts. -/
def textTag : String := standardTag "str"

/-- The tag of sequences. -/
def sequenceTag : String := standardTag "seq"

/-- The tag of mappings. -/
def mappingTag : String := standardTag "map"

/-- The tag of keys whose values are merged into the mapping around them. -/
def mergeTag : String := standardTag "merge"

/-- The tag of keys that mark the value of a mapping which stands for a scalar. -/
def valueTag : String := standardTag "value"

/-- What the handles of tags stand for. -/
def standardHandles : List (String × String) := [("!", "!"), ("!!", "tag:yaml.org,2002:")]

/-- The words for true. -/
def trueWords : List String :=
  ["yes", "Yes", "YES", "true", "True", "TRUE", "on", "On", "ON"]

/-- The words for false. -/
def falseWords : List String :=
  ["no", "No", "NO", "false", "False", "FALSE", "off", "Off", "OFF"]

/-- The words for nothing. -/
def nullWords : List String := ["", "~", "null", "Null", "NULL"]

/-- Whether a text is made of digits of a base and underscores. -/
def areDigits (base : Nat) (digits : List Char) : Bool :=
  digits.all fun char => (Text.digitIn? base char).isSome || char == '_'

/-- Whether a text is a digit followed by digits and underscores. -/
def startsAsNumber (digits : List Char) : Bool :=
  (digits.head?.any Char.isDigit) && areDigits 10 digits

/-- Cut a text at every colon. -/
def splitColons (text : List Char) : List (List Char) :=
  text.foldr (fun char parts =>
    if char = ':' then [] :: parts
    else match parts with
      | first :: rest => (char :: first) :: rest
      | [] => [[char]]) [[]]

/-- Whether a part behind a colon is a number below sixty. -/
def isSixtieth (part : List Char) : Bool :=
  match part with
  | [digit] => digit.isDigit
  | [tens, digit] => (Text.digitIn? 6 tens).isSome && digit.isDigit
  | _ => false

/-- Whether an unsigned scalar is written as an integer: in base two, eight, ten, sixteen or
sixty. -/
def isNatural (text : List Char) : Bool :=
  match text with
  | '0' :: 'b' :: digits => !digits.isEmpty && areDigits 2 digits
  | '0' :: 'x' :: digits => !digits.isEmpty && areDigits 16 digits
  | '0' :: digits => areDigits 8 digits
  | _ =>
    match splitColons text with
    | [digits] => startsAsNumber digits
    | first :: rest => startsAsNumber first && rest.all isSixtieth
    | [] => false

/-- Whether what follows the digits of a real number is an exponent. -/
def isExponent : List Char → Bool
  | [] => true
  | mark :: sign :: digits =>
    (mark == 'e' || mark == 'E') && (sign == '-' || sign == '+') && !digits.isEmpty &&
      digits.all Char.isDigit
  | _ => false

/-- Whether a scalar is written as a finite real number behind its sign. -/
def isMagnitude (isSigned : Bool) (text : List Char) : Bool :=
  let whole := text.takeWhile (· != '.')
  match text.dropWhile (· != '.') with
  | '.' :: behind =>
    let fraction := behind.takeWhile fun char => char.isDigit || char == '_'
    let exponent := behind.drop fraction.length
    if startsAsNumber whole then isExponent exponent
    else if whole.isEmpty then startsAsNumber fraction && !isSigned && isExponent exponent
    else
      match splitColons whole with
      | first :: second :: rest =>
        startsAsNumber first && (second :: rest).all isSixtieth && exponent.isEmpty
      | _ => false
  | _ => false

/-- Whether a scalar is written as a real number. -/
def isReal (text : List Char) : Bool :=
  let (_, magnitude) := Text.takeSign text
  let isSigned := decide (magnitude.length < text.length)
  let name := String.ofList magnitude
  [".inf", ".Inf", ".INF"].contains name ||
    (!isSigned && [".nan", ".NaN", ".NAN"].contains name) || isMagnitude isSigned magnitude

/-- The tag of a plain scalar.  The end of a line at its end does not matter. -/
def implicitTag (text : String) : String :=
  let chars := text.toList
  let line := if chars.length > 1 && chars.getLast? == some '\n' then chars.dropLast else chars
  let word := String.ofList line
  if trueWords.contains word || falseWords.contains word then standardTag "bool"
  else if isReal line then standardTag "float"
  else if isNatural (Text.takeSign line).2 then standardTag "int"
  else if word = "<<" then mergeTag
  else if nullWords.contains word then standardTag "null"
  else if isTimestamp line then standardTag "timestamp"
  else if word = "=" then valueTag
  else textTag

end QuantumKata.Yaml
