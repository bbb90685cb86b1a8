import ContentFilter.Calendar.Instant

/-!
# Calendar fields read from a text

A date format reads single fields: a year, a weekday, a minute. The fields have to lie in their
ranges and to agree with each other; together they fix a date, a local date and time, or a time
with an offset. A field that the wanted reading does not need is only checked where it says
something about the date.
-/

namespace ContentFilter.Calendar

/-- A quantity that is read as a number. -/
inductive Quantity where
  /-- The full year. -/
  | year
  /-- The last two digits of the year. -/
  | yearOfCentury
  /-- The month, from 1. -/
  | month
  /-- The day of the month, from 1. -/
  | day
  /-- The day of the year, from 1. -/
  | ordinal
  /-- The day of the week, 1 for Monday. -/
  | weekday
  /-- The hour of the day. -/
  | hour
  /-- The hour of the half day, 12 for its first. -/
  | hour12
  /-- The minute. -/
  | minute
  /-- The second, 60 for an inserted one. -/
  | second
  /-- Nanoseconds. -/
  | nano
deriving DecidableEq, Repr

/-- The fields read so far. -/
structure Fields where
  /-- The full year. -/
  year : Option Int := none
  /-- The last two digits of the year. -/
  yearOfCentury : Option Nat := none
  /-- The month, from 1. -/
  month : Option Nat := none
  /-- The day of the month, from 1. -/
  day : Option Nat := none
  /-- The day of the year, from 1. -/
  ordinal : Option Nat := none
  /-- The day of the week, 0 for Monday. -/
  weekday : Option Nat := none
  /-- Whether the time is after noon. -/
  afternoon : Option Bool := none
  /-- The hour of the half day, from 0. -/
  hourOfHalf : Option Nat := none
  /-- The minute. -/
  minute : Option Nat := none
  /-- The second, 60 for an inserted one. -/
  second : Option Nat := none
  /-- Nanoseconds. -/
  nano : Option Nat := none
  /-- Seconds ahead of universal time. -/
  offset : Option Int := none
deriving DecidableEq, Repr

/-- Enters a value into a field, which must be free or hold the same value already. -/
def enter {α : Type} [DecidableEq α] (held : Option α) (value : α) : Option (Option α) :=
  match held with
  | some old => if old = value then some (some value) else none
  | none => some (some value)

namespace Fields

/-- Enters a number that has to lie between two bounds. -/
def enterWithin (low high : Int) (n : Int) (held : Option Nat) : Option (Option Nat) :=
  if low ≤ n ∧ n ≤ high then enter held n.toNat else none

/-- Enters which half of the day it is. -/
def setAfternoon (f : Fields) (afternoon : Bool) : Option Fields := do
  let held ← enter f.afternoon afternoon
  some { f with afternoon := held }

/-- Enters the day of the week, 0 for Monday. -/
def setWeekday (f : Fields) (weekday : Nat) : Option Fields := do
  let held ← enter f.weekday weekday
  some { f with weekday := held }

/-- Enters the offset in seconds. -/
def setOffset (f : Fields) (offset : Int) : Option Fields := do
  let held ← enter f.offset offset
  some { f with offset := held }

/-- Enters a number as the given quantity. -/
def set (f : Fields) (q : Quantity) (n : Int) : Option Fields :=
  match q with
  | .year => do
    let held ← enter f.year n
    some { f with year := held }
  | .yearOfCentury => do
    let held ← enterWithin 0 99 n f.yearOfCentury
    some { f with yearOfCentury := held }
  | .month => do
    let held ← enterWithin 1 12 n f.month
    some { f with month := held }
  | .day => do
    let held ← enterWithin 1 31 n f.day
    some { f with day := held }
  | .ordinal => do
    let held ← enterWithin 1 366 n f.ordinal
    some { f with ordinal := held }
  | .weekday => if 1 ≤ n ∧ n ≤ 7 then f.setWeekday (n - 1).toNat else none
  | .hour => do
    let f ← f.setAfternoon (12 ≤ n)
    let held ← enterWithin 0 11 (if 12 ≤ n then n - 12 else n) f.hourOfHalf
    some { f with hourOfHalf := held }
  | .hour12 => do
    let held ← if n = 0 then none else enterWithin 0 11 (if n = 12 then 0 else n) f.hourOfHalf
    some { f with hourOfHalf := held }
  | .minute => do
    let held ← enterWithin 0 59 n f.minute
    some { f with minute := held }
  | .second => do
    let held ← enterWithin 0 60 n f.second
    some { f with second := held }
  | .nano => do
    let held ← enterWithin 0 999999999 n f.nano
    some { f with nano := held }

/-! ## What the fields say together -/

/-- The year. Two digits alone mean a year from 1970 to 2069; beside a full year, which must not be
negative then, they have to be its last two. -/
def year? (f : Fields) : Option Int :=
  match f.year, f.yearOfCentury with
  | some y, none => some y
  | some y, some r => if 0 ≤ y ∧ y % 100 = r then some y else none
  | none, some r => some (if r < 70 then 2000 + r else 1900 + r)
  | none, none => none

/-- Whether a field is empty or holds the given value. -/
def allows {α : Type} [DecidableEq α] (held : Option α) (value : α) : Bool :=
  held.all (· = value)

/-- The date, from year, month and day or else from the day of the year; every other field that
speaks of the date has to agree. -/
def date? (f : Fields) : Option Date := do
  let year ← f.year?
  let d ← match f.month, f.day, f.ordinal with
    | some month, some day, _ => some ⟨year, month, day⟩
    | _, _, some n => if n ≤ Date.daysInYear year then some (Date.ofOrdinal year n) else none
    | _, _, none => none
  if d.isValid ∧ allows f.month d.month ∧ allows f.day d.day ∧ allows f.ordinal d.ordinal ∧
      allows f.weekday d.weekday
  then some d else none

/-- The time of day: its second and the nanoseconds into it. Hour and minute are needed, and
nanoseconds only count beside a second. -/
def time? (f : Fields) : Option (Nat × Nat) := do
  let afternoon ← f.afternoon
  let hour ← f.hourOfHalf
  let minute ← f.minute
  let nano ← match f.second, f.nano with
    | none, some _ => none
    | _, nano => some (nano.getD 0)
  let second := f.second.getD 0
  let (second, nano) := if second = 60 then (59, nano + 1000000000) else (second, nano)
  some ((if afternoon then hour + 12 else hour) * 3600 + minute * 60 + second, nano)

/-- The local date and time, as if in universal time. -/
def local? (f : Fields) : Option Instant := do
  let d ← f.date?
  let (second, nano) ← f.time?
  some (.ofDate d second nano)

/-- The time with its offset. -/
def zoned? (f : Fields) : Option ZonedTime := do
  let offset ← f.offset
  let reading ← f.local?
  ZonedTime.ofLocal? reading offset

end Fields

end ContentFilter.Calendar
