import QuantumKata.Fault
import QuantumKata.Text.Case
import QuantumKata.Text.Numeral

/-!
# Styles of console text

The name of a style is a row of words: attributes, each of which may be denied, a colour, a colour
behind the text and a link.  Several names stand for one style, and a style has one canonical name
in which its parts stand in a fixed order; a row of words that names no style stands for itself in
small letters.
-/

namespace QuantumKata.Console

/-- The attributes in the order of the canonical name. -/
def attributeNames : List String :=
  ["bold", "dim", "italic", "underline", "blink", "blink2", "reverse", "conceal", "strike",
    "underline2", "frame", "encircle", "overline"]

/-- The short names of attributes. -/
def shortNames : List (String × String) :=
  [("b", "bold"), ("d", "dim"), ("i", "italic"), ("u", "underline"), ("r", "reverse"),
    ("c", "conceal"), ("s", "strike"), ("uu", "underline2"), ("o", "overline")]

/-- The attribute that a word names. -/
def attribute? (word : String) : Option String :=
  if attributeNames.contains word then some word else shortNames.lookup word

/-- The names of colours. -/
def colourNames : List String :=
  ([
    "black red green yellow blue magenta cyan white bright_black bright_red bright_green",
    "bright_yellow bright_blue bright_magenta bright_cyan bright_white grey0 gray0 navy_blue",
    "dark_blue blue3 blue1 dark_green deep_sky_blue4 dodger_blue3 dodger_blue2 green4",
    "spring_green4 turquoise4 deep_sky_blue3 dodger_blue1 green3 spring_green3 dark_cyan",
    "light_sea_green deep_sky_blue2 deep_sky_blue1 spring_green2 cyan3 dark_turquoise turquoise2",
    "green1 spring_green1 medium_spring_green cyan2 cyan1 dark_red deep_pink4 purple4 purple3",
    "blue_violet orange4 grey37 gray37 medium_purple4 slate_blue3 royal_blue1 chartreuse4",
    "dark_sea_green4 pale_turquoise4 steel_blue steel_blue3 cornflower_blue chartreuse3",
    "cadet_blue sky_blue3 steel_blue1 pale_green3 sea_green3 aquamarine3 medium_turquoise",
    "chartreuse2 sea_green2 sea_green1 aquamarine1 dark_slate_gray2 dark_magenta dark_violet",
    "purple light_pink4 plum4 medium_purple3 slate_blue1 yellow4 wheat4 grey53 gray53",
    "light_slate_grey light_slate_gray medium_purple light_slate_blue dark_olive_green3",
    "dark_sea_green light_sky_blue3 sky_blue2 dark_sea_green3 dark_slate_gray3 sky_blue1",
    "chartreuse1 light_green pale_green1 dark_slate_gray1 red3 medium_violet_red magenta3",
    "dark_orange3 indian_red hot_pink3 medium_orchid3 medium_orchid medium_purple2 dark_goldenrod",
    "light_salmon3 rosy_brown grey63 gray63 medium_purple1 gold3 dark_khaki navajo_white3 grey69",
    "gray69 light_steel_blue3 light_steel_blue yellow3 dark_sea_green2 light_cyan3",
    "light_sky_blue1 green_yellow dark_olive_green2 dark_sea_green1 pale_turquoise1 deep_pink3",
    "magenta2 hot_pink2 orchid medium_orchid1 orange3 light_pink3 pink3 plum3 violet",
    "light_goldenrod3 tan misty_rose3 thistle3 plum2 khaki3 light_goldenrod2 light_yellow3 grey84",
    "gray84 light_steel_blue1 yellow2 dark_olive_green1 honeydew2 light_cyan1 red1 deep_pink2",
    "deep_pink1 magenta1 orange_red1 indian_red1 hot_pink dark_orange salmon1 light_coral",
    "pale_violet_red1 orchid2 orchid1 orange1 sandy_brown light_salmon1 light_pink1 pink1 plum1",
    "gold1 navajo_white1 misty_rose1 thistle1 yellow1 light_goldenrod1 khaki1 wheat1 cornsilk1",
    "grey100 gray100 grey3 gray3 grey7 gray7 grey11 gray11 grey15 gray15 grey19 gray19 grey23",
    "gray23 grey27 gray27 grey30 gray30 grey35 gray35 grey39 gray39 grey42 gray42 grey46 gray46",
    "grey50 gray50 grey54 gray54 grey58 gray58 grey62 gray62 grey66 gray66 grey70 gray70 grey74",
    "gray74 grey78 gray78 grey82 gray82 grey85 gray85 grey89 gray89 grey93 gray93"].map
    fun line => line.splitOn " ").flatten

/-- Whether a character is a hexadecimal digit in small letters. -/
def isHexDigit (char : Char) : Bool := char.isDigit || ('a' ≤ char && char ≤ 'f')

/-- The text between a beginning and a closing parenthesis. -/
def argument? (beginning word : String) : Option (List Char) :=
  if word.startsWith beginning && word.endsWith ")" then
    some ((word.toList.drop beginning.length).dropLast)
  else none

/-- Whether a word names a colour: by its name, by its three parts in hexadecimal digits, by a
number or by three numbers. -/
def isColour (word : String) : Except Fault Bool :=
  let name := Text.lower word
  if name = "default" || colourNames.contains name then .ok true
  else
    match name.toList with
    | '#' :: digits => .ok (digits.length == 6 && digits.all isHexDigit)
    | _ =>
      match argument? "color(" name, argument? "rgb(" name with
      | some digits, _ =>
        .ok (digits.all Char.isDigit && 1 ≤ digits.length && digits.length ≤ 3 &&
          decide (((Text.integer? (String.ofList digits)).getD 256) ≤ 255))
      | none, some parts =>
        if !parts.isEmpty && parts.all fun char => (Text.digit? char).isSome || char == ',' then
          match (String.ofList parts).splitOn "," with
          | [red, green, blue] => do
            let shares ← [red, green, blue].mapM Text.integer
            return shares.all fun share => decide (share ≤ 255)
          | _ => .ok false
        else .ok false
      | none, none => .ok false

/-- A style: its attributes, each present or denied, its colours and its link. -/
structure Style where
  attributes : List (String × Bool) := []
  colour : Option String := none
  background : Option String := none
  link : Option String := none

namespace Style

/-- A style with one more attribute. -/
def mark (style : Style) (name : String) (isPresent : Bool) : Style :=
  { style with attributes := (name, isPresent) :: style.attributes }

/-- Add a word that stands for itself. -/
def addWord (style : Style) (word : String) : Except Fault (Option Style) :=
  match attribute? word with
  | some name => .ok (some (style.mark name true))
  | none => do
    let holds ← isColour word
    return if holds then some { style with colour := some word } else none

/-- Read the words of a name. -/
def ofWords (style : Style) : List String → Except Fault (Option Style)
  | [] => .ok (some style)
  | [word] =>
    if ["on", "not", "link"].contains (Text.lower word) then .ok none
    else style.addWord (Text.lower word)
  | word :: next :: rest =>
    let name := Text.lower word
    if name = "on" then
      match isColour next with
      | .ok true => ofWords { style with background := some (Text.lower next) } rest
      | .ok false => .ok none
      | .error fault => .error fault
    else if name = "not" then
      match attribute? next with
      | some denied => ofWords (style.mark denied false) rest
      | none => .ok none
    else if name = "link" then ofWords { style with link := some next } rest
    else
      match style.addWord name with
      | .ok (some changed) => ofWords changed (next :: rest)
      | .ok none => .ok none
      | .error fault => .error fault

/-- The canonical name of a style. -/
def canonicalName (style : Style) : String :=
  let attributes := attributeNames.filterMap fun name =>
    (style.attributes.lookup name).map fun isPresent => if isPresent then name else "not " ++ name
  let parts := attributes ++ style.colour.toList ++
    (style.background.map fun colour => "on " ++ colour).toList ++
    (style.link.map fun link => "link " ++ link).toList
  if parts.isEmpty then "none" else " ".intercalate parts

/-- The name by which the opening and the closing of a style are compared. -/
def normalName (name : String) : Except Fault String :=
  if Text.strip name = "none" || name.isEmpty then .ok "none"
  else do
    let style ← ofWords {} (Text.words name)
    return match style with
      | some style => style.canonicalName
      | none => Text.lower (Text.strip name)

end Style

end QuantumKata.Console
