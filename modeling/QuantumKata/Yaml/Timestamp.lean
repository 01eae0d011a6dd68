import QuantumKata.Fault
import QuantumKata.Yaml.Cursor

/-!
# Times in a document

A date is written with its year, month and day.  A time follows it behind the letter T or blanks;
it has hours, minutes and seconds, which may have a fraction, and may end in the letter Z or in an
offset from the universal time.
-/

namespace QuantumKata.Yaml

/-- The parts of a written time. -/
structure WrittenTime where
  hour : Nat
  minute : Nat
  second : Nat
  fraction : List Char
  /-- Nothing, or the sign, the hours and the minutes of an offset. -/
  offset : Option (Bool × Nat × Nat)

/-- The parts of a written date or time, and whether month and day have two digits. -/
structure WrittenMoment where
  year : Nat
  month : Nat
  day : Nat
  isFull : Bool
  time : Option WrittenTime

/-- The number that decimal digits stand for. -/
def decimalOf (digits : List Char) : Nat :=
  digits.foldl (fun number digit => 10 * number + (digit.toNat - '0'.toNat)) 0

/-- Read digits, as many as asked for: between `least` and `most`. -/
def takeDigits? (least most : Nat) (text : List Char) : Option (List Char × List Char) :=
  let digits := (text.take most).takeWhile Char.isDigit
  if least ≤ digits.length then some (digits, text.drop digits.length) else none

/-- Read a character. -/
def takeChar? (char : Char) : List Char → Option (List Char)
  | found :: rest => if found = char then some rest else none
  | [] => none

/-- Read the offset at the end of a time. -/
def offset? (text : List Char) : Option (Option (Bool × Nat × Nat)) :=
  match text.dropWhile isGap with
  | [] => if text.isEmpty then some none else none
  | ['Z'] => some (some (false, 0, 0))
  | sign :: rest =>
    if sign = '-' ∨ sign = '+' then do
      let (hours, behind) ← takeDigits? 1 2 rest
      let minutes ← match behind with
        | [] => some 0
        | ':' :: digits => do
          let (minutes, after) ← takeDigits? 2 2 digits
          if after.isEmpty then some (decimalOf minutes) else none
        | _ => none
      return some (sign = '-', decimalOf hours, minutes)
    else none

/-- Read the time behind a date. -/
def writtenTime? (text : List Char) : Option WrittenTime := do
  let start ← match text with
    | 'T' :: rest | 't' :: rest => some rest
    | char :: rest => if isGap char then some (rest.dropWhile isGap) else none
    | [] => none
  let (hour, afterHour) ← takeDigits? 1 2 start
  let (minute, afterMinute) ← (takeChar? ':' afterHour).bind (takeDigits? 2 2)
  let (second, afterSecond) ← (takeChar? ':' afterMinute).bind (takeDigits? 2 2)
  let (fraction, rest) := match afterSecond with
    | '.' :: digits => (digits.takeWhile Char.isDigit, digits.dropWhile Char.isDigit)
    | others => ([], others)
  let offset ← offset? rest
  return ⟨decimalOf hour, decimalOf minute, decimalOf second, fraction, offset⟩

/-- Read a date or a time. -/
def writtenMoment? (text : List Char) : Option WrittenMoment := do
  let (year, afterYear) ← takeDigits? 4 4 text
  let (month, afterMonth) ← (takeChar? '-' afterYear).bind (takeDigits? 1 2)
  let (day, afterDay) ← (takeChar? '-' afterMonth).bind (takeDigits? 1 2)
  let isFull := month.length == 2 && day.length == 2
  if afterDay.isEmpty then
    return ⟨decimalOf year, decimalOf month, decimalOf day, isFull, none⟩
  else
    let time ← writtenTime? afterDay
    return ⟨decimalOf year, decimalOf month, decimalOf day, isFull, some time⟩

/-- Whether a scalar is written as a date or a time; the month and the day of a date alone have two
digits. -/
def isTimestamp (text : List Char) : Bool :=
  (writtenMoment? text).any fun moment => moment.isFull || moment.time.isSome

/-- Refuse a part of a moment that is out of its range. -/
def checkPart (isRight : Bool) (text : String) : Except Fault Unit :=
  if isRight then .ok () else .error (.raised .value [.text text])

/-- A span of seconds as text. -/
def spanText (seconds : Int) : String :=
  let days := seconds / 86400
  let parts := (if days = 0 then [] else ["days=" ++ Decimal.integer days]) ++
    (if seconds % 86400 = 0 then [] else ["seconds=" ++ Decimal.integer (seconds % 86400)])
  Moment.call "datetime.timedelta" parts

/-- The offset of a written time in seconds. -/
def offsetOf : Option (Bool × Nat × Nat) → Except Fault (Option Int)
  | none => .ok none
  | some (isNegative, hours, minutes) => do
    let seconds : Int := 3600 * hours + 60 * minutes
    let offset := if isNegative then -seconds else seconds
    checkPart (seconds < 86400)
      ("offset must be a timedelta strictly between -timedelta(hours=24) and " ++
        "timedelta(hours=24), not " ++ spanText offset ++ ".")
    return some offset

/-- The microseconds that the digits of a fraction stand for. -/
def microsecondsOf (fraction : List Char) : Nat :=
  decimalOf ((fraction ++ List.replicate 6 '0').take 6)

/-- The moment that was written, if there is such a day and such a time. -/
def WrittenMoment.toMoment (written : WrittenMoment) : Except Fault Moment := do
  let offset ← match written.time with
    | some time => offsetOf time.offset
    | none => .ok none
  checkPart (1 ≤ written.year) ("year " ++ Decimal.digits written.year ++ " is out of range")
  checkPart (1 ≤ written.month && written.month ≤ 12) "month must be in 1..12"
  checkPart (1 ≤ written.day && written.day ≤ Moment.daysIn written.year written.month)
    "day is out of range for month"
  match written.time with
  | none => return ⟨written.year, written.month, written.day, none⟩
  | some time =>
    checkPart (time.hour ≤ 23) "hour must be in 0..23"
    checkPart (time.minute ≤ 59) "minute must be in 0..59"
    checkPart (time.second ≤ 59) "second must be in 0..59"
    return ⟨written.year, written.month, written.day,
      some ⟨time.hour, time.minute, time.second, microsecondsOf time.fraction, offset⟩⟩

end QuantumKata.Yaml
