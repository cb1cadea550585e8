import ModalConsole.Text.Digits

/-!
# Readings of the clock

Model of the local date and time that the clock gives. A reading is a moment of universal time
together with the offset of the local time from it, as the zone has it at that moment. Its text has
the local date in the Gregorian calendar and the local time of the day; the time that has passed
between two readings does not depend on their offsets.

The date is counted in years that begin in March, so that a leap day is the last of its year;
400 of these years have 146097 days.
-/

namespace ModalConsole

open Text

/-- A date of the Gregorian calendar. -/
structure Date where
  year : Int
  month : Nat
  day : Nat
  deriving DecidableEq, Repr

/-- A reading of the clock. -/
structure Timestamp where
  /-- The nanoseconds of universal time since the start of 1970. -/
  nanoseconds : Int
  /-- The seconds that the local time is ahead of the universal time. -/
  offset : Int
  deriving DecidableEq, Repr

namespace Timestamp

/-- The nanoseconds of a second. -/
def nanosecondsPerSecond : Int := 1000000000

/-- The days from the first of March of the year 0 to the start of 1970. -/
def daysBefore1970 : Int := 719468

/-- The date that is the given number of days after the first of March of the year 0. -/
def dateOfDays (days : Int) : Date :=
  let cycle := days / 146097
  let day := (days % 146097).toNat
  let year := (day - day / 1460 + day / 36524 - day / 146096) / 365
  let dayOfYear := day - (365 * year + year / 4 - year / 100)
  let month := (5 * dayOfYear + 2) / 153
  { year := cycle * 400 + year + (if month < 10 then 0 else 1)
    month := if month < 10 then month + 3 else month - 9
    day := dayOfYear - (153 * month + 2) / 5 + 1 }

/-- The whole seconds of local time since the start of 1970. -/
def localSeconds (t : Timestamp) : Int := t.nanoseconds / nanosecondsPerSecond + t.offset

/-- The local date. -/
def date (t : Timestamp) : Date := dateOfDays (t.localSeconds / 86400 + daysBefore1970)

/-- The second of the local day. -/
def secondOfDay (t : Timestamp) : Nat := (t.localSeconds % 86400).toNat

/-- The hour of the day. -/
def hour (t : Timestamp) : Nat := t.secondOfDay / 3600

/-- The minute of the hour. -/
def minute (t : Timestamp) : Nat := t.secondOfDay / 60 % 60

/-- The second of the minute. -/
def second (t : Timestamp) : Nat := t.secondOfDay % 60

/-- The whole seconds from an earlier reading to this one. They are negative if the clock has been
set back in between, and rounded toward zero either way. -/
def secondsSince (t earlier : Timestamp) : Int :=
  (t.nanoseconds - earlier.nanoseconds).tdiv nanosecondsPerSecond

/-- A number with at least two digits. -/
def twoDigits (n : Nat) : String := String.ofList (paddedDecimal 2 n)

/-- A year with at least four digits, and with its sign if it has more or lies before the year 0. -/
def yearText (year : Int) : String :=
  let digits := String.ofList (paddedDecimal 4 year.natAbs)
  if year < 0 then "-" ++ digits else if year ≤ 9999 then digits else "+" ++ digits

/-- The hour and the minute. -/
def clockText (t : Timestamp) : String := twoDigits t.hour ++ ":" ++ twoDigits t.minute

/-- The date and the time of the day. -/
def text (t : Timestamp) : String :=
  yearText t.date.year ++ "-" ++ twoDigits t.date.month ++ "-" ++ twoDigits t.date.day ++ " "
    ++ t.clockText ++ ":" ++ twoDigits t.second

end Timestamp

end ModalConsole
