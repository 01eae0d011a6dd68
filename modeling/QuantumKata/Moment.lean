import QuantumKata.Text.Quoted
import QuantumKata.Decimal.Binary64

/-!
# Moments

A moment is a day of the calendar, or a time of a day, which may be told from the universal time by
an offset.  Moments of one sort are ordered; a day, a time without an offset and a time with one are
not comparable with each other.
-/

namespace QuantumKata

/-- A time of a day, with its offset from the universal time in seconds, if it is known. -/
structure ClockTime where
  hour : Nat
  minute : Nat
  second : Nat
  microsecond : Nat
  offset : Option Int
  deriving DecidableEq, Repr

/-- A day, or a time of it. -/
structure Moment where
  year : Nat
  month : Nat
  day : Nat
  time : Option ClockTime
  deriving DecidableEq, Repr

namespace Moment

/-- Whether a year has a leap day. -/
def isLeap (year : Nat) : Bool := year % 4 = 0 && (year % 100 != 0 || year % 400 = 0)

/-- The number of days of a month. -/
def daysIn (year month : Nat) : Nat :=
  if month = 2 then (if isLeap year then 29 else 28)
  else if [4, 6, 9, 11].contains month then 30
  else 31

/-- The number of days before a date, counted from the first day of the first year. -/
def dayNumber (moment : Moment) : Nat :=
  let past := moment.year - 1
  let months := (List.range (moment.month - 1)).map fun month => daysIn moment.year (month + 1)
  365 * past + past / 4 - past / 100 + past / 400 + months.foldl (· + ·) 0 + (moment.day - 1)

/-- The sort of a moment; only moments of one sort can be compared. -/
def sort (moment : Moment) : Nat :=
  match moment.time with
  | none => 0
  | some time => if time.offset.isNone then 1 else 2

/-- The microseconds before a moment. -/
def microseconds (moment : Moment) : Int :=
  let days : Int := 86400 * moment.dayNumber
  match moment.time with
  | none => 1000000 * days
  | some time =>
    1000000 * (days + 3600 * time.hour + 60 * time.minute + time.second - time.offset.getD 0) +
      time.microsecond

/-- Whether two moments are the same. -/
def isSame (left right : Moment) : Bool :=
  left.sort == right.sort && left.microseconds == right.microseconds

/-- The parts of a call as text. -/
def call (name : String) (parts : List String) : String :=
  name ++ "(" ++ ", ".intercalate parts ++ ")"

/-- An offset as text. -/
def offsetText (offset : Int) : String :=
  if offset = 0 then "datetime.timezone.utc"
  else
    let days := offset / 86400
    let seconds := offset % 86400
    let parts := (if days = 0 then [] else ["days=" ++ Decimal.integer days]) ++
      (if seconds = 0 then [] else ["seconds=" ++ Decimal.integer seconds])
    call "datetime.timezone" [call "datetime.timedelta" parts]

/-- A moment as text. -/
def quoted (moment : Moment) : String :=
  let date := [moment.year, moment.month, moment.day].map Decimal.digits
  match moment.time with
  | none => call "datetime.date" date
  | some time =>
    let clock := [time.hour, time.minute] ++
      (if time.microsecond ≠ 0 then [time.second, time.microsecond]
        else if time.second ≠ 0 then [time.second] else [])
    call "datetime.datetime" (date ++ clock.map Decimal.digits ++
      (time.offset.map fun offset => "tzinfo=" ++ offsetText offset).toList)

/-- Numbers with at least two digits and a text between them. -/
def dividedBy (divider : String) (numbers : List Nat) : String :=
  divider.intercalate (numbers.map (Decimal.paddedDigits 2))

/-- An offset in hours, minutes and, if there are any, seconds. -/
def offsetClock (offset : Int) : String :=
  let size := offset.natAbs
  let seconds := size % 60
  (if offset < 0 then "-" else "+") ++ dividedBy ":" ([size / 3600, size / 60 % 60] ++
    (if seconds = 0 then [] else [seconds]))

/-- A moment in plain words: the date, the time of day and the offset. -/
def plain (moment : Moment) : String :=
  let date := Decimal.paddedDigits 4 moment.year ++ "-" ++ dividedBy "-" [moment.month, moment.day]
  match moment.time with
  | none => date
  | some time =>
    date ++ " " ++ dividedBy ":" [time.hour, time.minute, time.second] ++
      (if time.microsecond = 0 then "" else "." ++ Decimal.paddedDigits 6 time.microsecond) ++
      (time.offset.map offsetClock).getD ""

end Moment

end QuantumKata
