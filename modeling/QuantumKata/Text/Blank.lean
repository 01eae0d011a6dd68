/-!
# Blank characters

Settings are compared after blanks at both ends are taken away.  Blank are the Unicode spaces,
the line and paragraph separators and the control characters that separate lines or records.
-/

namespace QuantumKata.Text

/-- Whether a character counts as blank. -/
def isBlank (char : Char) : Bool :=
  let code := char.toNat
  (9 ≤ code && code ≤ 13) || (28 ≤ code && code ≤ 32) || code == 0x85 || code == 0xa0 ||
    code == 0x1680 || (0x2000 ≤ code && code ≤ 0x200a) || code == 0x2028 || code == 0x2029 ||
    code == 0x202f || code == 0x205f || code == 0x3000

/-- Drop the blanks at the end of a text. -/
def stripEnd (text : String) : String :=
  String.ofList (text.toList.reverse.dropWhile isBlank).reverse

/-- Drop the blanks at both ends of a text. -/
def strip (text : String) : String :=
  stripEnd (String.ofList (text.toList.dropWhile isBlank))

/-- Cut a text into words; `word` holds the characters of the word at hand, the latest first. -/
def wordsFrom (word : List Char) : List Char → List String
  | [] => if word.isEmpty then [] else [String.ofList word.reverse]
  | char :: rest =>
    if isBlank char then
      if word.isEmpty then wordsFrom [] rest
      else String.ofList word.reverse :: wordsFrom [] rest
    else wordsFrom (char :: word) rest

/-- The words of a text. -/
def words (text : String) : List String := wordsFrom [] text.toList

end QuantumKata.Text
