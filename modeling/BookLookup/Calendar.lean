import BookLookup.Text.Decimal

/-!
# Instants and their date and time

An instant is a number of whole seconds since the beginning of 1970, without
leap seconds, and nanoseconds within the second. Nanoseconds of a thousand
million or more lie in a leap second, which follows the second 59.

Dates are those of the Gregorian calendar, extended to all years. Days are
counted from the first of March, so that a leap day is the last day of its
year, in eras of four hundred years of equal length.
-/

namespace BookLookup

/-- A point in time. -/
structure Instant where
  /-- Whole seconds since the beginning of 1970. -/
  seconds : Int
  /-- Nanoseconds within the second, below two thousand million. -/
  nanoseconds : Nat
  deriving DecidableEq, Repr

/-- A day of the calendar. -/
structure CivilDate where
  /-- The year, with the year zero before the year one. -/
  year : Int
  /-- The month from one. -/
  month : Nat
  /-- The day of the month from one. -/
  day : Nat
  deriving DecidableEq, Repr

namespace CivilDate

/-- The days of an era of four hundred years. -/
def daysOfEra : Nat := 146097

/-- The days from the first of March of the year zero to the beginning of
1970. -/
def epochOffset : Int := 719468

/-- The year of an era in which a day of the era lies. -/
def yearOfEra (day : Nat) : Nat :=
  (day - day / 1460 + day / 36524 - day / 146096) / 365

/-- The first day of a year of an era. -/
def startOfYear (year : Nat) : Nat :=
  365 * year + year / 4 - year / 100

/-- The month, counted from March, in which a day of a year lies. -/
def monthOfYear (day : Nat) : Nat :=
  (5 * day + 2) / 153

/-- The first day of a month counted from March. -/
def startOfMonth (month : Nat) : Nat :=
  (153 * month + 2) / 5

/-- The date of a number of days since the beginning of 1970. -/
def ofDays (days : Int) : CivilDate :=
  let shifted := days + epochOffset
  let era := shifted / daysOfEra
  let dayOfEra := (shifted % daysOfEra).toNat
  let year := yearOfEra dayOfEra
  let dayOfYear := dayOfEra - startOfYear year
  let month := monthOfYear dayOfYear
  let afterDecember := 10 ≤ month
  { year := year + era * 400 + (if afterDecember then 1 else 0)
    month := if afterDecember then month - 9 else month + 3
    day := dayOfYear - startOfMonth month + 1 }

/-- The text of a year: at least four digits, with a sign outside the years
zero to 9999. -/
def yearText (year : Int) : List Char :=
  if year < 0 then '-' :: Decimal.padded 4 year.natAbs
  else if 9999 < year then '+' :: Decimal.padded 4 year.natAbs
  else Decimal.padded 4 year.natAbs

/-- The year, the month and the day without marks between them. -/
def compact (date : CivilDate) : List Char :=
  yearText date.year ++ Decimal.padded 2 date.month ++ Decimal.padded 2 date.day

end CivilDate

namespace Instant

/-- The seconds of a day. -/
def secondsOfDay : Nat := 86400

/-- The day in which an instant lies. -/
def date (instant : Instant) : CivilDate :=
  .ofDays (instant.seconds / secondsOfDay)

/-- Whole seconds since the beginning of the day. -/
def secondOfDay (instant : Instant) : Nat :=
  (instant.seconds % secondsOfDay).toNat

/-- The second of the minute, which is sixty in a leap second. -/
def secondOfMinute (instant : Instant) : Nat :=
  instant.secondOfDay % 60 + instant.nanoseconds / 1000000000

/-- The date without marks: year, month and day. -/
def dateStamp (instant : Instant) : String :=
  String.ofList instant.date.compact

/-- The date and time of day without marks, in universal time. -/
def timeStamp (instant : Instant) : String :=
  String.ofList (instant.date.compact ++
    'T' :: Decimal.padded 2 (instant.secondOfDay / 3600) ++
    Decimal.padded 2 (instant.secondOfDay / 60 % 60) ++
    Decimal.padded 2 instant.secondOfMinute ++ ['Z'])

end Instant
end BookLookup
