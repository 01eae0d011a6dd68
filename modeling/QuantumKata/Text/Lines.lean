/-!
# Lines

A text is cut into lines at every character that ends one: the line feed, the carriage return, which
counts as one end with a line feed behind it, the tabulations and separators that stand between
pages, records and paragraphs.  What stands behind the last end is a line if it is not empty.
-/

namespace QuantumKata.Text

/-- Whether a character ends a line. -/
def endsLine (char : Char) : Bool :=
  let code := char.toNat
  (10 ≤ code && code ≤ 13) || (28 ≤ code && code ≤ 30) || code == 0x85 || code == 0x2028 ||
    code == 0x2029

/-- Cut a text into lines; `line` holds the characters of the line at hand, the latest first. -/
def linesFrom (line : List Char) : List Char → List String
  | [] => if line.isEmpty then [] else [String.ofList line.reverse]
  | '\r' :: '\n' :: rest => String.ofList line.reverse :: linesFrom [] rest
  | char :: rest =>
    if endsLine char then String.ofList line.reverse :: linesFrom [] rest
    else linesFrom (char :: line) rest

/-- The lines of a text. -/
def lines (text : String) : List String := linesFrom [] text.toList

end QuantumKata.Text
