import QuantumKata.Fault

/-!
# Timestamps

A moment is a number of seconds since the beginning of the year 1970.  Its date follows from the
number of days: counted from the first of March of the year zero, so that a leap day ends its year,
days group into eras of four hundred years, years, and months whose lengths repeat every five.

Only moments of the years from 1 to 9999 have a stamp in a log, and neither have those of the very
first day.  Years are counted in 32 bits from 1900 on.
-/

namespace QuantumKata.Logging

/-- A date. -/
structure Date where
  year : Int
  month : Nat
  day : Nat
  deriving Repr, DecidableEq

namespace Date

/-- The date so many days after the first of January 1970. -/
def ofDays (days : Int) : Date :=
  let shifted := days + 719468
  let era := shifted / 146097
  let dayOfEra := (shifted - era * 146097).toNat
  let yearOfEra := (dayOfEra - dayOfEra / 1460 + dayOfEra / 36524 - dayOfEra / 146096) / 365
  let dayOfYear := dayOfEra - (365 * yearOfEra + yearOfEra / 4 - yearOfEra / 100)
  let shiftedMonth := (5 * dayOfYear + 2) / 153
  let day := dayOfYear - (153 * shiftedMonth + 2) / 5 + 1
  let month := if shiftedMonth < 10 then shiftedMonth + 3 else shiftedMonth - 9
  let year := (yearOfEra : Int) + era * 400
  ⟨if month ≤ 2 then year + 1 else year, month, day⟩

example : ofDays 0 = ⟨1970, 1, 1⟩ := by decide

example : ofDays 11016 = ⟨2000, 2, 29⟩ := by decide

end Date

/-- The whole seconds of a moment, which is rounded to millionths first. -/
def wholeSeconds (moment : Float) : Int :=
  match Decimal.Binary64.ofFloat moment with
  | .finite negative mantissa exponent =>
    let millionths := ((Decimal.Quotient.ofBinary mantissa exponent).scale 6).round
    (if negative then -(millionths : Int) else millionths) / 1000000
  | _ => 0

/-- A number with at least two digits. -/
def twoDigits (number : Nat) : String := Decimal.paddedDigits 2 number

/-- The number of whole days before a number of seconds. -/
def dayOf (seconds : Int) : Int := seconds / 86400

/-- The date and the time of day, with the texts that divide their parts. -/
def stampWith (dash between colon : String) (seconds : Int) : String :=
  let rest := (seconds - dayOf seconds * 86400).toNat
  let date := Date.ofDays (dayOf seconds)
  Decimal.integer date.year ++ dash ++ twoDigits date.month ++ dash ++ twoDigits date.day ++
    between ++ twoDigits (rest / 3600) ++ colon ++ twoDigits (rest / 60 % 60) ++ colon ++
    twoDigits (rest % 60)

/-- A moment as it stands in the name of a file. -/
def fileStamp (moment : Float) : String := stampWith "" "_" "" (wholeSeconds moment)

/-- Half of the numbers of 32 bits. -/
def halfWord : Int := 2147483648

/-- Refuse a day of a year that no stamp shows. -/
def checkDay (day : Int) : Except Fault Unit :=
  let year := (Date.ofDays day).year
  let counted := year - 1900
  if counted < -halfWord ∨ halfWord ≤ counted then .error .distantMoment
  else if year < 1 ∨ 9999 < year then
    .error (.yearOutOfRange ((year + halfWord) % (2 * halfWord) - halfWord))
  else .ok ()

/-- A moment as it stands in a log. -/
def stamp (moment : Float) : Except Fault String :=
  let limit := Float.ofInt halfWord * Float.ofInt (2 * halfWord)
  if moment.isNaN then .error .undefinedMoment
  else if limit ≤ moment ∨ moment < -limit then .error .endlessMoment
  else do
    let seconds := wholeSeconds moment
    checkDay (dayOf seconds)
    checkDay (dayOf seconds - 1)
    return stampWith "-" " " ":" seconds

end QuantumKata.Logging
