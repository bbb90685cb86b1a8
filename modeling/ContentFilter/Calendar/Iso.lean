import ContentFilter.Calendar.Format

/-!
# Dates and times as ISO 8601 writes them

A point in time is read from a date-time with an offset, from a local date-time, or from a date.
A date-time with an offset is first read strictly, as RFC 3339 has it, and then leniently without
seconds. What has no offset is read in universal time, what has no time is the start of the day.
-/

namespace ContentFilter.Calendar

open Text

/-- The strict format of a date-time with seconds and an offset. -/
def rfc3339 : List FormatItem :=
  [.digits .year 4, .literal '-', .digits .month 2, .literal '-', .digits .day 2,
    .oneOf ['T', 't', ' '], .digits .hour 2, .literal ':', .digits .minute 2, .literal ':',
    .digits .second 2, .optionalFraction, .strictZone]

/-- The lenient format of a date. -/
def isoDate : List FormatItem :=
  [.field (.number .year), .literal ' ', .literal '-', .field (.number .month), .literal ' ',
    .literal '-', .field (.number .day), .literal ' ']

/-- The lenient format of a local date-time with seconds. -/
def isoLocal : List FormatItem :=
  isoDate ++ [.literal 'T', .field (.number .hour), .literal ' ', .literal ':',
    .field (.number .minute), .literal ' ', .literal ':', .field (.number .second),
    .optionalFraction, .literal ' ']

/-- The lenient format of a local date-time without seconds. -/
def isoLocalMinutes : List FormatItem :=
  [.field (.number .year), .literal '-', .field (.number .month), .literal '-',
    .field (.number .day), .literal 'T', .field (.number .hour), .literal ':',
    .field (.number .minute)]

/-- The lenient format of a date-time with an offset and without seconds. -/
def isoOffsetMinutes : List FormatItem :=
  isoLocalMinutes ++ [.field (.zone .colon)]

/-- The format of dates as scripts print them, after the name of the weekday:
`Aug 07 2013 16:32:59 GMT+0200`. -/
def scriptDate : List FormatItem :=
  [.field (.monthName false), .literal ' ', .field (.number .day), .literal ' ',
    .field (.number .year), .literal ' ', .field (.number .hour), .literal ':',
    .field (.number .minute), .literal ':', .field (.number .second), .literal ' ', .literal 'G',
    .literal 'M', .literal 'T', .field (.zone .basic)]

/-- Reads a strict date-time, keeping its offset. -/
def readRfc3339? (s : List Char) : Option ZonedTime :=
  (readFields? rfc3339 s).bind Fields.zoned?

/-- The text with a final `Z` spelled as an offset. -/
def spellZulu (s : List Char) : List Char :=
  match s.getLast? with
  | some c => if c = 'Z' ∨ c = 'z' then s.dropLast ++ "+00:00".toList else s
  | none => s

/-- Reads a date-time with an offset. -/
def readOffsetTime? (s : List Char) : Option Instant :=
  match readRfc3339? s with
  | some z => some z.instant
  | none => ((readFields? isoOffsetMinutes (spellZulu s)).bind Fields.zoned?).map (·.instant)

/-- Reads a local date-time, in universal time. -/
def readLocalTime? (s : List Char) : Option Instant :=
  match (readFields? isoLocal s).bind Fields.local? with
  | some i => some i
  | none => (readFields? isoLocalMinutes s).bind Fields.local?

/-- Reads a date as the start of its day in universal time. -/
def readDate? (s : List Char) : Option Instant :=
  ((readFields? isoDate s).bind Fields.date?).map fun d => .ofDate d 0 0

/-- Reads a point in time in whichever of the three ways fits first, blanks around it left out. -/
def readInstant? (s : List Char) : Option Instant :=
  let s := trimBlanks s
  match readOffsetTime? s with
  | some i => some i
  | none =>
    match readLocalTime? s with
    | some i => some i
    | none => readDate? s

/-- Reads a time that a content tree holds as text: a strict date-time, or a date as scripts print
it, whose weekday is not looked at. -/
def readStored? (s : List Char) : Option ZonedTime :=
  match readRfc3339? s with
  | some z => some z
  | none =>
    match s.dropWhile (· ≠ ' ') with
    | ' ' :: rest => (readFields? scriptDate rest).bind Fields.zoned?
    | _ => none

end ContentFilter.Calendar
