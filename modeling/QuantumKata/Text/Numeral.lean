import QuantumKata.Decimal.Nearest
import QuantumKata.Fault
import QuantumKata.Text.Blank
import QuantumKata.Text.Case
import QuantumKata.Text.Digit

/-!
# Numerals

A numeral may have blanks around it, a sign, and single underscores between its digits, which may be
the decimal digits of any script.  An integer in another base than ten may show its base in front.
Real numbers may also be infinite or undefined, by name.
-/

namespace QuantumKata.Text

/-- A character of a numeral in plain form: a digit of whatever script as one of the ten usual
ones, any blank outside the usual ones as a plain one. -/
def numeralChar (char : Char) : Char :=
  if char.toNat < 0x7f then char
  else if isBlank char then ' '
  else match digit? char with
    | some value => Char.ofNat ('0'.toNat + value)
    | none => '?'

/-- Whether a character may stand around a numeral. -/
def isNumeralBlank (char : Char) : Bool :=
  char == ' ' || (9 ≤ char.toNat && char.toNat ≤ 13)

/-- The characters of a numeral without the blanks around it. -/
def numeralChars (text : String) : List Char :=
  let plain := (text.toList.map numeralChar).dropWhile isNumeralBlank
  (plain.reverse.dropWhile isNumeralBlank).reverse

/-- The value of a digit in a base up to sixteen. -/
def digitIn? (base : Nat) (char : Char) : Option Nat :=
  let value :=
    if char.isDigit then char.toNat - '0'.toNat
    else if 'a' ≤ char && char ≤ 'f' then char.toNat - 'a'.toNat + 10
    else if 'A' ≤ char && char ≤ 'F' then char.toNat - 'A'.toNat + 10
    else base
  if value < base then some value else none

/-- Digits with single underscores between them, read as a number. -/
def digitsValue? (base : Nat) : (value : Nat) → (afterDigit : Bool) → List Char → Option Nat
  | value, afterDigit, [] => if afterDigit then some value else none
  | value, afterDigit, char :: rest =>
    match digitIn? base char with
    | some digit => digitsValue? base (base * value + digit) true rest
    | none => if char = '_' && afterDigit then digitsValue? base value false rest else none

/-- The sign in front of a text: whether it is a minus. -/
def takeSign : List Char → Bool × List Char
  | '-' :: rest => (true, rest)
  | '+' :: rest => (false, rest)
  | text => (false, text)

/-- The digits of an integer without the letters that show its base. -/
def withoutBase (base : Nat) : List Char → List Char
  | '0' :: letter :: rest =>
    let shown := if base = 2 then 'b' else if base = 8 then 'o' else if base = 16 then 'x' else '0'
    if base ≠ 10 ∧ letter.toLower = shown then
      match rest with
      | '_' :: digits => digits
      | digits => digits
    else '0' :: letter :: rest
  | digits => digits

/-- The greatest number of decimal digits that are turned into an integer or back. -/
def digitLimit : Nat := 4300

/-- The integer that a text stands for in a base. -/
def integerIn (base : Nat) (text : String) : Except Fault Int :=
  let (negative, rest) := takeSign (numeralChars text)
  match digitsValue? base 0 false (withoutBase base rest) with
  | some value =>
    let count := rest.countP Char.isDigit
    if base = 10 ∧ digitLimit < count then .error (.tooManyDigits (some count))
    else .ok (if negative then -(value : Int) else value)
  | none => .error (.notAnInteger base text)

/-- The integer that a text stands for. -/
def integer (text : String) : Except Fault Int := integerIn 10 text

/-- The integer that a text stands for, if it stands for one. -/
def integer? (text : String) : Option Int := (integer text).toOption

/-- The number of digits in a text. -/
def countDigits (text : List Char) : Nat := text.countP Char.isDigit

/-- The exponent behind the digits of a real number, if its writing is right. -/
def exponent? : List Char → Option Int
  | [] => some 0
  | _ :: text =>
    let (negative, digits) := takeSign text
    (digitsValue? 10 0 false digits).map fun value => if negative then -(value : Int) else value

/-- Digits that may be missing. -/
def optionalDigits? (text : List Char) : Option Nat :=
  if text.isEmpty then some 0 else digitsValue? 10 0 false text

/-- The real number that an unsigned text stands for. -/
def magnitude? (text : List Char) : Option Float := do
  let mantissa := text.takeWhile fun char => char != 'e' && char != 'E'
  let exponent ← exponent? (text.drop mantissa.length)
  let whole := mantissa.takeWhile (· != '.')
  let fraction := (mantissa.drop whole.length).drop 1
  if whole.isEmpty && fraction.isEmpty then none
  else
    let high ← optionalDigits? whole
    let low ← optionalDigits? fraction
    let places := countDigits fraction
    return Decimal.nearest (high * Nat.pow 10 places + low) (exponent - places)

/-- The real number that a text stands for, if it stands for one. -/
def real? (text : String) : Option Float :=
  let (negative, rest) := takeSign (numeralChars text)
  let word := lower (String.ofList rest)
  let size := if word = "inf" ∨ word = "infinity" then some (1.0 / 0.0)
    else if word = "nan" then some (0.0 / 0.0)
    else magnitude? rest
  size.map fun value => if negative then -value else value

/-- The real number that a text stands for. -/
def real (text : String) : Except Fault Float :=
  match real? text with
  | some value => .ok value
  | none => .error (.notAReal text)

end QuantumKata.Text
