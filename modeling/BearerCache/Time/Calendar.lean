import BearerCache.Time.Instant

/-! # The calendar

The Gregorian calendar, extended to all years, with a year 0 and negative years before it.  A
day is a number of days since the start of 1970, or a year and the number of the day in that
year, or a year, a month and a day.  An instant is shown with its date and time in universal
time. -/

namespace BearerCache.Calendar

/-- Whether a year has 366 days. -/
def isLeap (year : Int) : Bool :=
  year % 4 == 0 && (year % 100 != 0 || year % 400 == 0)

/-- How many days a year has. -/
def yearLength (year : Int) : Nat :=
  if isLeap year then 366 else 365

/-- The first day of a year. -/
def startOfYear (year : Int) : Int :=
  let y := year - 1
  365 * y + y / 4 - y / 100 + y / 400 - 719162

/-- The year that a day is in. -/
def yearOf (day : Int) : Int :=
  -- the mean year has 146097 / 400 days, so the estimate is at most one year off
  let year := (day + 719162) * 400 / 146097 + 1
  if day < startOfYear year then year - 1
  else if startOfYear (year + 1) ≤ day then year + 1
  else year

/-- The number of a day in its year, from one. -/
def ordinalOf (day : Int) : Nat :=
  (day - startOfYear (yearOf day)).toNat + 1

/-- The lengths of the months of a year. -/
def monthLengths (year : Int) : List Nat :=
  [31, if isLeap year then 29 else 28, 31, 30, 31, 30, 31, 31, 30, 31, 30, 31]

/-- The month and the day of the month of the day with a number in its year, counted on from
a month with the lengths of the months from there on. -/
def monthDay (month ordinal : Nat) : List Nat → Nat × Nat
  | [] => (month, ordinal)
  | length :: lengths =>
    if ordinal ≤ length then (month, ordinal) else monthDay (month + 1) (ordinal - length) lengths

/-- The day of an instant. -/
def dayOf (t : Instant) : Int :=
  t.unixSeconds / 86400

/-- The second of the day of an instant. -/
def secondOfDay (t : Instant) : Nat :=
  (t.unixSeconds % 86400).toNat

/-- A year of at least four digits. -/
def yearText (year : Int) : String :=
  if year < 0 then "-" ++ Text.padded 4 year.natAbs else Text.padded 4 year.natAbs

/-- The fraction of a second, without the zeros at its end but with at least one digit. -/
def fractionText (nanoseconds : Nat) : String :=
  let digits := (Text.padded 9 nanoseconds).toList
  match (digits.reverse.dropWhile (· == '0')).reverse with
  | [] => "0"
  | digits => String.ofList digits

/-- The text of an instant: date, time of day with a fraction, and the offset of universal
time. -/
def textOf (t : Instant) : String :=
  let day := dayOf t
  let year := yearOf day
  let (month, dayOfMonth) := monthDay 1 (ordinalOf day) (monthLengths year)
  let second := secondOfDay t
  let date := s!"{yearText year}-{Text.padded 2 month}-{Text.padded 2 dayOfMonth}"
  let time :=
    s!"{second / 3600}:{Text.padded 2 (second / 60 % 60)}:{Text.padded 2 (second % 60)}"
  s!"{date} {time}.{fractionText t.subsecond.toNat} +00:00:00"

end BearerCache.Calendar
