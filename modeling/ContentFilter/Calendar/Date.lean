/-!
# Dates of the proleptic Gregorian calendar

Dates are counted in days from 1970-01-01. The calendar runs over the years from −262143 to 262142.
-/

namespace ContentFilter

/-- A year, a month and a day. -/
structure Date where
  /-- The astronomical year: 0 is the year before year 1. -/
  year : Int
  /-- The month, from 1. -/
  month : Nat
  /-- The day of the month, from 1. -/
  day : Nat
deriving DecidableEq, Repr

namespace Date

/-- The first year of the calendar. -/
def firstYear : Int := -262143

/-- The last year of the calendar. -/
def lastYear : Int := 262142

/-- Every fourth year is a leap year, but of the full centuries only every fourth one. -/
def isLeapYear (year : Int) : Bool :=
  year % 4 == 0 && (year % 100 != 0 || year % 400 == 0)

/-- The lengths of the months of a year. -/
def monthLengths (year : Int) : List Nat :=
  [31, if isLeapYear year then 29 else 28, 31, 30, 31, 30, 31, 31, 30, 31, 30, 31]

/-- How many days a month has; none outside the twelve. -/
def daysInMonth (year : Int) (month : Nat) : Nat :=
  if month = 0 then 0 else ((monthLengths year)[month - 1]?).getD 0

/-- How many days a year has. -/
def daysInYear (year : Int) : Nat :=
  if isLeapYear year then 366 else 365

/-- Whether the day exists in the calendar. -/
def isValid (d : Date) : Bool :=
  firstYear ≤ d.year && d.year ≤ lastYear && 1 ≤ d.day && d.day ≤ daysInMonth d.year d.month

/-- The leap years up to the year before `year`, counted from year 1. -/
def leapYearsBefore (year : Int) : Int :=
  (year - 1) / 4 - (year - 1) / 100 + (year - 1) / 400

/-- The days from 1970-01-01 to the first day of a year. -/
def daysBeforeYear (year : Int) : Int :=
  365 * (year - 1970) + leapYearsBefore year - leapYearsBefore 1970

/-- The days of a year before the first day of a month. -/
def daysBeforeMonth (year : Int) (month : Nat) : Nat :=
  ((monthLengths year).take (month - 1)).foldl (· + ·) 0

/-- The day of the year, from 1. -/
def ordinal (d : Date) : Nat :=
  daysBeforeMonth d.year d.month + d.day

/-- The days from 1970-01-01. -/
def dayNumber (d : Date) : Int :=
  daysBeforeYear d.year + d.ordinal - 1

/-- The day of the week, 0 for Monday. -/
def weekday (d : Date) : Nat :=
  ((d.dayNumber + 3) % 7).toNat

/-- Month and day that lie `days` days after the first day of the month `month`, whose length comes
first in the list. -/
def walkMonths : List Nat → Nat → Nat → Nat × Nat
  | [], month, days => (month, days + 1)
  | length :: rest, month, days =>
    if days < length then (month, days + 1) else walkMonths rest (month + 1) (days - length)

/-- The day of a year, from 1. -/
def ofOrdinal (year : Int) (ordinal : Nat) : Date :=
  let (month, day) := walkMonths (monthLengths year) 1 (ordinal - 1)
  ⟨year, month, day⟩

/-- The year that a day belongs to: a guess by the mean length of a year, put right by one. -/
def yearOfDayNumber (n : Int) : Int :=
  let guess := n * 400 / 146097 + 1970
  if n < daysBeforeYear guess then guess - 1
  else if daysBeforeYear (guess + 1) ≤ n then guess + 1
  else guess

/-- The date that lies so many days after 1970-01-01. -/
def ofDayNumber (n : Int) : Date :=
  let year := yearOfDayNumber n
  ofOrdinal year ((n - daysBeforeYear year).toNat + 1)

/-- Whether a day lies in the calendar. -/
def dayInRange (n : Int) : Bool :=
  daysBeforeYear firstYear ≤ n && n < daysBeforeYear (lastYear + 1)

end Date

end ContentFilter
