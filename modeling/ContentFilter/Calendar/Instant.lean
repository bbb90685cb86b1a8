import ContentFilter.Calendar.Date

/-!
# Instants

An instant is a second of universal time and the nanoseconds into it. The inserted second at the
end of a minute is kept as nanoseconds beyond the first thousand million of the second before it,
so instants are ordered by their two parts.
-/

namespace ContentFilter

/-- A point in time. -/
structure Instant where
  /-- Seconds from 1970-01-01T00:00:00Z, inserted seconds not counted. -/
  second : Int
  /-- Nanoseconds into the second; 10⁹ or more within an inserted one. -/
  nano : Nat
deriving DecidableEq, Repr

namespace Instant

/-- The earlier of two instants is less. -/
def compare (a b : Instant) : Ordering :=
  (Ord.compare a.second b.second).then (Ord.compare a.nano b.nano)

/-- The instant so many seconds later. -/
def addSeconds (i : Instant) (seconds : Int) : Instant :=
  ⟨i.second + seconds, i.nano⟩

/-- The instant of a date and a time of day in universal time. -/
def ofDate (d : Date) (secondOfDay nano : Nat) : Instant :=
  ⟨d.dayNumber * 86400 + secondOfDay, nano⟩

/-- The date of an instant in universal time. -/
def date (i : Instant) : Date :=
  .ofDayNumber (i.second / 86400)

/-- The second of the day of an instant in universal time. -/
def secondOfDay (i : Instant) : Nat :=
  (i.second % 86400).toNat

/-- Whether the day of the instant lies in the calendar. -/
def inRange (i : Instant) : Bool :=
  Date.dayInRange (i.second / 86400)

end Instant

/-- A point in time together with the offset from universal time at which it was written. -/
structure ZonedTime where
  /-- The point in time. -/
  instant : Instant
  /-- Seconds by which local time is ahead. -/
  offset : Int
deriving DecidableEq, Repr

namespace ZonedTime

/-- What the clock showed, as an instant of universal time. -/
def localReading (z : ZonedTime) : Instant :=
  z.instant.addSeconds z.offset

/-- The time at which a clock with the given offset shows `reading`, if the calendar has it. -/
def ofLocal? (reading : Instant) (offset : Int) : Option ZonedTime :=
  let instant := reading.addSeconds (-offset)
  if -86400 < offset ∧ offset < 86400 ∧ instant.inRange then some ⟨instant, offset⟩ else none

end ZonedTime

end ContentFilter
