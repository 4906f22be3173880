/-!
# Time stamps of log lines

Every log line begins with the time at which it was written: the date of the
Gregorian calendar, the letter `T`, the time of day with six places after the
second, and the letter `Z`.

The calendar repeats after 400 years, which are 146097 days.  Years are counted
from the first of March here, so that a leap day is the last day of its year and
the day of a year determines its month.
-/

namespace VipHost.Log

/-- A day of the calendar. -/
structure Date where
  /-- The year. -/
  year : Nat
  /-- The month, from one. -/
  month : Nat
  /-- The day of the month, from one. -/
  day : Nat
deriving DecidableEq, Repr

/-- The day a number of days after the first of January 1970. -/
def Date.ofDays (days : Nat) : Date :=
  let days := days + 719468
  let inCycle := days % 146097
  let yearOfCycle := (inCycle - inCycle / 1460 + inCycle / 36524 - inCycle / 146096) / 365
  let inYear := inCycle - (365 * yearOfCycle + yearOfCycle / 4 - yearOfCycle / 100)
  let monthFromMarch := (5 * inYear + 2) / 153
  let month := if monthFromMarch < 10 then monthFromMarch + 3 else monthFromMarch - 9
  { year := yearOfCycle + days / 146097 * 400 + (if month ≤ 2 then 1 else 0)
    month
    day := inYear - (153 * monthFromMarch + 2) / 5 + 1 }

/-- A number in decimal with at least so many digits. -/
def padded (width n : Nat) : String :=
  let digits := Nat.toDigits 10 n
  String.ofList (List.replicate (width - digits.length) '0' ++ digits)

/-- The stamp for a number of microseconds after the beginning of 1970. -/
def stamp (micros : Nat) : String :=
  let seconds := micros / 1000000
  let date := Date.ofDays (seconds / 86400)
  padded 4 date.year ++ "-" ++ padded 2 date.month ++ "-" ++ padded 2 date.day ++ "T" ++
    padded 2 (seconds / 3600 % 24) ++ ":" ++ padded 2 (seconds / 60 % 60) ++ ":" ++
    padded 2 (seconds % 60) ++ "." ++ padded 6 (micros % 1000000) ++ "Z"

/-- The leap day of 2000, which is one because 400 divides the year. -/
example : stamp 951782400000000 = "2000-02-29T00:00:00.000000Z" := by decide

end VipHost.Log
