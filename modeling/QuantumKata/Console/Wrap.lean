import QuantumKata.Text.Blank
import QuantumKata.Text.Lines
import QuantumKata.Text.Width

/-!
# Lines of limited width

A line that is too wide is broken in front of words.  A word takes the blanks in front of the first
word and the blanks behind it along; blanks behind the last word of a line may stand beyond the
width and are cut off there.  A word that is too wide for any line is either folded or has a line of
its own, which is shortened.
-/

namespace QuantumKata.Console

/-- The width of the console. -/
def screenWidth : Nat := 200

/-- The cells that characters take. -/
def cellsOf (chars : List Char) : Nat := Text.cells (String.ofList chars)

/-- The blanks that characters end with, as many as there are. -/
def trailingBlanks (chars : List Char) : Nat := (chars.reverse.takeWhile Text.isBlank).length

/-- Characters without the blanks at their end. -/
def withoutTrailing (chars : List Char) : List Char :=
  chars.take (chars.length - trailingBlanks chars)

/-- Cut a line into words with the blanks around them; the fuel bounds the characters.  A line of
blanks has no words. -/
def spacedWordsFrom : (fuel : Nat) → List Char → List (List Char)
  | 0, _ => []
  | fuel + 1, text =>
    let leading := text.takeWhile Text.isBlank
    let letters := (text.drop leading.length).takeWhile fun char => !Text.isBlank char
    let behind := text.drop (leading.length + letters.length)
    let trailing := behind.takeWhile Text.isBlank
    if letters.isEmpty then []
    else (leading ++ letters ++ trailing) :: spacedWordsFrom fuel (behind.drop trailing.length)

/-- The words of a line with the blanks around them. -/
def spacedWords (line : List Char) : List (List Char) := spacedWordsFrom line.length line

/-- Fold characters into pieces that are at most as wide as given; `piece` holds the characters of
the piece at hand, the latest first, and `taken` is their width. -/
def foldFrom (width : Nat) (piece : List Char) (taken : Nat) : List Char → List (List Char)
  | [] => [piece.reverse]
  | char :: rest =>
    let size := Text.cellsOf char
    if width < taken + size then piece.reverse :: foldFrom width [char] size rest
    else foldFrom width (char :: piece) (taken + size) rest

/-- Go on with a piece of a folded word as the line at hand; the pieces before it are lines. -/
def withPieces (rest : List Char → Nat → List (List Char)) :
    List (List Char) → List (List Char)
  | [] => rest [] 0
  | [last] => rest last (cellsOf last)
  | piece :: others => piece :: withPieces rest others

/-- Place words on lines.  The line at hand holds words that take `taken` cells. -/
def placeWords (width : Nat) (folds : Bool) :
    (held : List Char) → (taken : Nat) → List (List Char) → List (List Char)
  | held, _, [] => [held]
  | held, taken, word :: rest =>
    let needed := cellsOf (withoutTrailing word)
    let before := if held.isEmpty then [] else [held]
    if taken + needed ≤ width then
      placeWords width folds (held ++ word) (taken + cellsOf word) rest
    else if width < needed then
      if folds then
        before ++ withPieces (fun last size => placeWords width folds last size rest)
          (foldFrom width [] 0 word)
      else before ++ placeWords width folds word (cellsOf word) rest
    else if taken = 0 then placeWords width folds (held ++ word) taken rest
    else before ++ placeWords width folds word (cellsOf word) rest

/-- Cut off the blanks that stand beyond the width at the end of a line. -/
def trimBeyond (width : Nat) (line : List Char) : List Char :=
  line.take (line.length - min (trailingBlanks line) (line.length - width))

/-- The characters of a line that fit into a width; half a wide character leaves a blank. -/
def cut (width : Nat) : List Char → List Char
  | [] => []
  | char :: rest =>
    let size := Text.cellsOf char
    if size ≤ width then char :: cut (width - size) rest
    else List.replicate width ' '

/-- Shorten a line that is still too wide; a mark says that something is missing unless words are
folded. -/
def shortened (width : Nat) (folds : Bool) (line : List Char) : List Char :=
  if cellsOf line ≤ width then line
  else if folds then cut width line
  else cut (width - 1) line ++ ['…']

/-- Break a line. -/
def wrapLine (width : Nat) (folds : Bool) (line : List Char) : List (List Char) :=
  let expanded := Text.expandTabs 0 line
  let lines := match spacedWords expanded with
    | [] => [expanded]
    | words => placeWords width folds [] 0 words
  lines.map fun line => shortened width folds (trimBeyond width line)

/-- The lines of a text, broken where they are too wide. -/
def wrap (width : Nat) (folds : Bool) (text : String) : List String :=
  (text.splitOn "\n").flatMap fun line =>
    (wrapLine width folds line.toList).map String.ofList

/-- The width of the widest line of a text.  Tabulations do not count. -/
def widthOf (text : String) : Nat := ((Text.lines text).map Text.cells).foldl max 0

end QuantumKata.Console
