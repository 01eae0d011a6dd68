import QuantumKata.Decimal.Nearest
import QuantumKata.Fault

/-!
# JSON

Results are saved and submissions are described in JSON.  A number without point and exponent is an
integer, every other number is real, and the real numbers that are infinite or undefined have names
of their own.  Texts are written in ASCII; characters beyond it are escaped by their UTF-16 units.
-/

namespace QuantumKata.Json

/-! ## Writing -/

/-- A UTF-16 unit behind a backslash. -/
def escapedUnit (unit : Nat) : List Char := '\\' :: 'u' :: Text.hexDigits 4 unit

/-- A character inside a JSON text. -/
def escaped (char : Char) : List Char :=
  if char = '\x22' then ['\\', '\x22']
  else if char = '\\' then ['\\', '\\']
  else if char = '\n' then ['\\', 'n']
  else if char = '\r' then ['\\', 'r']
  else if char = '\t' then ['\\', 't']
  else if char = '\x08' then ['\\', 'b']
  else if char = '\x0c' then ['\\', 'f']
  else if ' ' ≤ char && char ≤ '\x7e' then [char]
  else if char.toNat < 0x10000 then escapedUnit char.toNat
  else
    let beyond := char.toNat - 0x10000
    escapedUnit (0xd800 + beyond / 0x400) ++ escapedUnit (0xdc00 + beyond % 0x400)

/-- A text between quotes. -/
def quotedText (text : String) : String :=
  String.ofList ('\x22' :: text.toList.flatMap escaped ++ ['\x22'])

/-- A real number. -/
def realText (number : Float) : String :=
  if number.isNaN then "NaN"
  else if number.isInf then (if number < 0 then "-Infinity" else "Infinity")
  else Decimal.shortest number

/-- The beginning of a line at a depth: two blanks for each level. -/
def lineStart (depth : Nat) : String := "\n" ++ String.ofList (List.replicate (2 * depth) ' ')

/-- The text of a key; keys that are no texts are written as they would stand for themselves. -/
def keyText : Datum → String
  | .text name => quotedText name
  | .null => quotedText "null"
  | .truth value => quotedText (if value then "true" else "false")
  | other => quotedText other.plain

mutual

/-- Write a datum that stands at a depth, one item or entry a line.  Data that JSON has no form for
are written as their text. -/
def writeAt (depth : Nat) : Datum → String
  | .null => "null"
  | .truth value => if value then "true" else "false"
  | .integer value => Decimal.integer value
  | .real value => realText value
  | .text value => quotedText value
  | .list [] | .tuple [] => "[]"
  | .list items | .tuple items =>
    "[" ++ ",".intercalate (writeItems (depth + 1) items) ++ lineStart depth ++ "]"
  | .mapping [] => "\x7b\x7d"
  | .mapping entries =>
    "\x7b" ++ ",".intercalate (writeEntries (depth + 1) entries) ++ lineStart depth ++ "\x7d"
  | other => quotedText other.plain

/-- Write the items of a list. -/
def writeItems (depth : Nat) : List Datum → List String
  | [] => []
  | item :: rest => (lineStart depth ++ writeAt depth item) :: writeItems depth rest

/-- Write the entries of a mapping. -/
def writeEntries (depth : Nat) : List (Datum × Datum) → List String
  | [] => []
  | (key, value) :: rest =>
    (lineStart depth ++ keyText key ++ ": " ++ writeAt depth value) :: writeEntries depth rest

end

/-- Write a datum. -/
def write (datum : Datum) : String := writeAt 0 datum

/-! ## Reading -/

/-- The fault of a text that is not JSON. -/
def malformed (text : String) : Fault := .malformedDocument "JSONDecodeError" text

/-- Leave out blanks. -/
def skipBlanks (text : List Char) : List Char :=
  text.dropWhile fun char => char == ' ' || char == '\n' || char == '\t' || char == '\r'

/-- The value of a digit in base sixteen. -/
def hexValue? (char : Char) : Option Nat :=
  if char.isDigit then some (char.toNat - '0'.toNat)
  else if 'a' ≤ char && char ≤ 'f' then some (char.toNat - 'a'.toNat + 10)
  else if 'A' ≤ char && char ≤ 'F' then some (char.toNat - 'A'.toNat + 10)
  else none

/-- The number of four digits in base sixteen. -/
def unitOf? (first second third fourth : Char) : Option Nat := do
  let a ← hexValue? first
  let b ← hexValue? second
  let c ← hexValue? third
  let d ← hexValue? fourth
  return 4096 * a + 256 * b + 16 * c + d

/-- What a letter behind a backslash stands for. -/
def meaningOf? : Char → Option Char
  | '\x22' => some '\x22'
  | '\\' => some '\\'
  | '/' => some '/'
  | 'n' => some '\n'
  | 't' => some '\t'
  | 'r' => some '\r'
  | 'b' => some '\x08'
  | 'f' => some '\x0c'
  | _ => none

/-- Read a text behind its opening quote: its UTF-16 units and characters, and what follows. -/
def readText : List Char → Option (List Char × List Char)
  | [] => none
  | '\x22' :: rest => some ([], rest)
  | '\\' :: 'u' :: a :: b :: c :: d :: rest =>
    match unitOf? a b c d with
    | none => none
    | some unit =>
      if 0xd800 ≤ unit && unit < 0xdc00 then
        match rest with
        | '\\' :: 'u' :: e :: f :: g :: h :: more =>
          match unitOf? e f g h with
          | none => none
          | some low =>
            (readText more).map fun (text, after) =>
              (Char.ofNat (0x10000 + (unit - 0xd800) * 0x400 + (low - 0xdc00)) :: text, after)
        | _ => none
      else (readText rest).map fun (text, after) => (Char.ofNat unit :: text, after)
  | '\\' :: char :: rest =>
    match meaningOf? char with
    | none => none
    | some meaning => (readText rest).map fun (text, after) => (meaning :: text, after)
  | char :: rest => (readText rest).map fun (text, after) => (char :: text, after)

/-- The number of decimal digits. -/
def numberOf (digits : List Char) : Nat :=
  digits.foldl (fun number digit => 10 * number + (digit.toNat - '0'.toNat)) 0

/-- The sign in front of a text: whether it is a minus. -/
def takeSign : List Char → Bool × List Char
  | '-' :: rest => (true, rest)
  | '+' :: rest => (false, rest)
  | text => (false, text)

/-- Read the exponent of a number, if it has one. -/
def readExponent : List Char → Option Int × List Char
  | [] => (none, [])
  | mark :: rest =>
    if mark = 'e' || mark = 'E' then
      let (negative, digits) := takeSign rest
      let size := numberOf (digits.takeWhile Char.isDigit)
      (some (if negative then -(size : Int) else size), digits.dropWhile Char.isDigit)
    else (none, mark :: rest)

/-- Read the digits behind the point of a number, if it has one. -/
def readFraction : List Char → Option (List Char) × List Char
  | '.' :: rest => (some (rest.takeWhile Char.isDigit), rest.dropWhile Char.isDigit)
  | text => (none, text)

/-- Read a number that begins with a digit, after its sign. -/
def readNumber (negative : Bool) (text : List Char) : Option (Datum × List Char) :=
  let whole := text.takeWhile Char.isDigit
  let (fraction, rest) := readFraction (text.dropWhile Char.isDigit)
  let (exponent, after) := readExponent rest
  if whole.isEmpty then none
  else
    match fraction, exponent with
    | none, none =>
      some (.integer (if negative then -(numberOf whole : Int) else numberOf whole), after)
    | _, _ =>
      let places := fraction.getD []
      let size := Decimal.nearest (numberOf (whole ++ places)) (exponent.getD 0 - places.length)
      some (.real (if negative then -size else size), after)

/-- The words that stand for data. -/
def words : List (List Char × Datum) :=
  [("null".toList, .null), ("true".toList, .truth true), ("false".toList, .truth false),
    ("NaN".toList, .real (0.0 / 0.0)), ("Infinity".toList, .real (1.0 / 0.0)),
    ("-Infinity".toList, .real (-1.0 / 0.0))]

/-- Read a word. -/
def readWord? (text : List Char) : Option (Datum × List Char) :=
  (words.find? fun entry => entry.1.isPrefixOf text).map fun (word, datum) =>
    (datum, text.drop word.length)

mutual

/-- Read a datum; the fuel bounds its parts. -/
def readValue : (fuel : Nat) → List Char → Option (Datum × List Char)
  | 0, _ => none
  | fuel + 1, text =>
    match skipBlanks text with
    | '\x22' :: rest =>
      (readText rest).map fun (chars, after) => (.text (String.ofList chars), after)
    | '[' :: rest =>
      match skipBlanks rest with
      | ']' :: after => some (.list [], after)
      | items => readItems fuel [] items
    | '\x7b' :: rest =>
      match skipBlanks rest with
      | '\x7d' :: after => some (.mapping [], after)
      | entries => readEntries fuel [] entries
    | other =>
      match readWord? other with
      | some found => some found
      | none =>
        match other with
        | '-' :: digits => readNumber true digits
        | digits => readNumber false digits

/-- Read the items of a list, the latest first. -/
def readItems : (fuel : Nat) → List Datum → List Char → Option (Datum × List Char)
  | 0, _, _ => none
  | fuel + 1, items, text =>
    match readValue fuel text with
    | none => none
    | some (item, rest) =>
      match skipBlanks rest with
      | ',' :: more => readItems fuel (item :: items) more
      | ']' :: after => some (.list (item :: items).reverse, after)
      | _ => none

/-- Read the entries of a mapping, the latest first. -/
def readEntries : (fuel : Nat) → List (Datum × Datum) → List Char → Option (Datum × List Char)
  | 0, _, _ => none
  | fuel + 1, entries, text =>
    match skipBlanks text with
    | '\x22' :: rest =>
      match readText rest with
      | none => none
      | some (key, behindKey) =>
        match skipBlanks behindKey with
        | ':' :: behindColon =>
          match readValue fuel behindColon with
          | none => none
          | some (value, behindValue) =>
            let known := (Datum.text (String.ofList key), value) :: entries
            match skipBlanks behindValue with
            | ',' :: more => readEntries fuel known more
            | '\x7d' :: after => some (.mapping known.reverse, after)
            | _ => none
        | _ => none
    | _ => none

end

/-- Read a text that holds one datum. -/
def read (text : String) : Except Fault Datum :=
  let chars := text.toList
  match readValue (chars.length + 1) chars with
  | some (datum, rest) =>
    if (skipBlanks rest).isEmpty then .ok datum else .error (malformed "Extra data")
  | none => .error (malformed "Expecting value")

end QuantumKata.Json
