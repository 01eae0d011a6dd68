import QuantumKata.Console.PictographTable
import QuantumKata.Text.Blank
import QuantumKata.Text.Case
import QuantumKata.Text.Numeral

/-!
# Pictographs in console text

A name between two colons, without blanks, stands for a pictograph if the table knows it, whatever
the case of its letters.  The name may end in a word that asks for the pictograph to be drawn as a
picture or as text.  What the table does not know stands for itself.
-/

namespace QuantumKata.Console

/-- A name of the table with the characters of its pictograph. -/
def pictographOf (entry : String) : Option (String × List Char) :=
  match entry.splitOn ":" with
  | [name, codes] =>
    some (name, (codes.splitOn "-").filterMap fun code =>
      (Text.digitsValue? 16 0 false code.toList).map Char.ofNat)
  | _ => none

/-- The pictographs by name. -/
def pictographs : List (String × List Char) :=
  pictographLines.flatMap fun line => (line.splitOn " ").filterMap pictographOf

/-- The characters that choose between a picture and text. -/
def variants : List (String × Char) := [("-emoji", '\ufe0f'), ("-text", '\ufe0e')]

/-- The characters of a pictograph of the table. -/
def knownPictograph? (name : List Char) : Option (List Char) :=
  pictographs.lookup (Text.lower (String.ofList name))

/-- A name without the word for its variant, and the character of the variant. -/
def splitVariant (name : List Char) : List Char × List Char :=
  match variants.find? fun (word, _) => word.toList.isSuffixOf name with
  | some (word, char) => (name.take (name.length - word.length), [char])
  | none => (name, [])

/-- The characters that the text between two colons stands for. -/
def pictograph? (text : List Char) : Option (List Char) :=
  let (name, variant) := splitVariant text
  (knownPictograph? name).map (· ++ variant)

/-- The text up to the next colon, unless a blank stands in between, and what follows the colon. -/
def betweenColons? (text : List Char) : Option (List Char × List Char) :=
  let name := text.takeWhile fun char => char != ':' && !Text.isBlank char
  match text.drop name.length with
  | ':' :: after => some (name, after)
  | _ => none

/-- A text with pictographs in place of their names; the fuel bounds the characters. -/
def withPictographsFrom : (fuel : Nat) → List Char → List Char
  | 0, text => text
  | _ + 1, [] => []
  | fuel + 1, char :: rest =>
    match if char = ':' then betweenColons? rest else none with
    | some (name, after) =>
      (pictograph? name).getD (':' :: name ++ [':']) ++ withPictographsFrom fuel after
    | none => char :: withPictographsFrom fuel rest

/-- A text with pictographs in place of their names. -/
def withPictographs (text : List Char) : List Char := withPictographsFrom (text.length + 1) text

end QuantumKata.Console
