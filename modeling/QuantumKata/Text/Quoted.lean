import QuantumKata.Text.Hidden

/-!
# Quoted text

A quoted text stands between single quotes, or between double quotes when it holds a single quote
and no double quote.  The quote in use and the backslash are escaped, and so is every character
that would not show: by a short escape for a tab and the line ends, else by its code in two, four
or eight hexadecimal digits.  Lists and tuples are written with their parts separated by a comma
and a blank.
-/

namespace QuantumKata.Text

/-- The last `count` hexadecimal digits of a number. -/
def hexDigits (count number : Nat) : List Char :=
  let plain := Nat.toDigits 16 number
  List.replicate (count - plain.length) '0' ++ plain

/-- One character of a quoted text. -/
def quotedChar (quote char : Char) : List Char :=
  if char = quote ∨ char = '\\' then ['\\', char]
  else if char = '\n' then ['\\', 'n']
  else if char = '\t' then ['\\', 't']
  else if char = '\r' then ['\\', 'r']
  else if isVisible char then [char]
  else if char.toNat < 0x100 then '\\' :: 'x' :: hexDigits 2 char.toNat
  else if char.toNat < 0x10000 then '\\' :: 'u' :: hexDigits 4 char.toNat
  else '\\' :: 'U' :: hexDigits 8 char.toNat

/-- The quote a text is written between. -/
def quoteFor (text : String) : Char :=
  if text.toList.contains '\'' && !text.toList.contains '"' then '"' else '\''

/-- A text between quotes. -/
def quoted (text : String) : String :=
  let quote := quoteFor text
  String.ofList (quote :: text.toList.flatMap (quotedChar quote) ++ [quote])

/-- Parts written as a list. -/
def bracketed (parts : List String) : String :=
  "[" ++ ", ".intercalate parts ++ "]"

/-- Parts written as a tuple; a tuple of one part keeps a comma. -/
def tupled : List String → String
  | [part] => "(" ++ part ++ ",)"
  | parts => "(" ++ ", ".intercalate parts ++ ")"

end QuantumKata.Text
