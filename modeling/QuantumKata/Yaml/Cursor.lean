import QuantumKata.Yaml.Mark

/-!
# Reading characters

A cursor stands at a mark in a text, with the characters that follow.  The end of the text shows as
the character with code zero, which no readable text holds.
-/

namespace QuantumKata.Yaml

/-- A place in a text and what follows it. -/
structure Cursor where
  mark : Mark
  rest : List Char

/-- What shows at the end of a text. -/
def endChar : Char := '\x00'

/-- Whether a character ends a line or the text. -/
def endsLine (char : Char) : Bool := char == endChar || isBreak char

/-- Whether a character is a blank, or ends a line or the text. -/
def endsWord (char : Char) : Bool := char == ' ' || endsLine char

/-- Whether a character is a blank or a tabulator, or ends a line or the text. -/
def endsMark (char : Char) : Bool := char == '\t' || endsWord char

/-- Whether a character is a blank or a tabulator. -/
def isGap (char : Char) : Bool := char == ' ' || char == '\t'

/-- The character that stands first in a text. -/
def first (text : List Char) : Char := text.headD endChar

/-- Whether a mark between documents stands at the beginning of a line. -/
def dividesDocuments : List Char → Bool
  | '-' :: '-' :: '-' :: rest => endsMark (first rest)
  | '.' :: '.' :: '.' :: rest => endsMark (first rest)
  | _ => false

namespace Cursor

/-- The character under the cursor. -/
def char (cursor : Cursor) : Char := first cursor.rest

/-- The character at a distance from the cursor. -/
def charAt (cursor : Cursor) (distance : Nat) : Char := first (cursor.rest.drop distance)

/-- Move over one character. -/
def step (cursor : Cursor) : Cursor :=
  match cursor.rest with
  | [] => cursor
  | char :: rest => ⟨cursor.mark.past char, rest⟩

/-- Move over a number of characters. -/
def skip : (count : Nat) → Cursor → Cursor
  | 0, cursor => cursor
  | count + 1, cursor => skip count cursor.step

/-- Read characters as long as they belong to a class, from a given mark on. -/
def spanFrom (isIn : Char → Bool) (mark : Mark) : List Char → List Char × Cursor
  | [] => ([], ⟨mark, []⟩)
  | char :: rest =>
    if isIn char then
      let (taken, after) := spanFrom isIn (mark.past char) rest
      (char :: taken, after)
    else ([], ⟨mark, char :: rest⟩)

/-- Read characters as long as they belong to a class. -/
def span (isIn : Char → Bool) (cursor : Cursor) : List Char × Cursor :=
  spanFrom isIn cursor.mark cursor.rest

/-- Move over characters as long as they belong to a class. -/
def skipWhile (isIn : Char → Bool) (cursor : Cursor) : Cursor := (cursor.span isIn).2

/-- Move over blanks. -/
def skipBlanks (cursor : Cursor) : Cursor := cursor.skipWhile (· == ' ')

/-- Move to the end of the line if a comment begins here. -/
def skipComment (cursor : Cursor) : Cursor :=
  if cursor.char = '#' then cursor.skipWhile fun char => !endsLine char else cursor

/-- Read the end of a line, if it is here: what it stands for, and the place behind it. -/
def lineBreak (cursor : Cursor) : List Char × Cursor :=
  match cursor.rest with
  | '\n' :: _ | '\u0085' :: _ => (['\n'], cursor.step)
  | '\u2028' :: _ => (['\u2028'], cursor.step)
  | '\u2029' :: _ => (['\u2029'], cursor.step)
  | _ => ([], cursor)

/-- Whether a mark between documents stands here. -/
def isAtDivision (cursor : Cursor) : Bool := dividesDocuments cursor.rest

/-- A complaint of the scanner about this place. -/
def complain (cursor : Cursor) (context : String) (since : Mark) (problem : String) : Complaint :=
  { stage := .scanner, context, since, problem, mark := cursor.mark }

/-- A complaint about the character that was found here. -/
def unexpected (cursor : Cursor) (context : String) (since : Mark) (expected : String)
    (char : Char) : Complaint :=
  cursor.complain context since
    ("expected " ++ expected ++ ", but found " ++ Text.quoted (String.singleton char))

end Cursor

/-! ## The text of a file -/

/-- Whether a character may stand in a document. -/
def isReadable (char : Char) : Bool :=
  let code := char.toNat
  code = 9 || code = 10 || code = 13 || (0x20 ≤ code && code ≤ 0x7e) || code = 0x85 ||
    (0xa0 ≤ code && code ≤ 0xfffd) || 0x10000 ≤ code

/-- A text with one way to end lines. -/
def plainLines (text : String) : List Char :=
  ((text.replace "\r\n" "\n").replace "\r" "\n").toList

/-- The place of the first character that may not stand in a document. -/
def unreadable? (text : List Char) : Option (Nat × Char) :=
  (text.zipIdx.find? fun (char, _) => !isReadable char).map fun (char, index) => (index, char)

/-- The hexadecimal digits of a code, at least four. -/
def codeText (code : Nat) : String :=
  String.ofList (Text.hexDigits 4 code)

/-- The fault of a character that may not stand in a document. -/
def unreadableFault (name : String) (index : Nat) (char : Char) : Fault :=
  .malformedDocument Stage.reader.title
    ("unacceptable character #x" ++ codeText char.toNat ++
      ": special characters are not allowed\n  in \"" ++ name ++ "\", position " ++
      Decimal.digits index)

end QuantumKata.Yaml
