import ContentFilter.Calendar.Instant
import ContentFilter.Text.Digits

/-!
# The text of an instant

Instants are written as RFC 3339 asks for: `2013-08-08T14:32:59.250Z`, or with a numeric offset for
a zoned time. The fraction takes three, six or nine digits, or is left out when it is zero; a year
outside 0 to 9999 gets a sign.
-/

namespace ContentFilter

open Text

/-- A number with zeros in front. -/
def paddedDigits (width n : Nat) : List Char :=
  padZeros width (digitsOf n)

namespace Date

/-- The year with at least four digits, signed if it needs to be. -/
def yearChars (year : Int) : List Char :=
  if 0 ≤ year ∧ year ≤ 9999 then paddedDigits 4 year.toNat
  else (if year < 0 then '-' else '+') :: paddedDigits 4 year.natAbs

/-- The date as `yyyy-mm-dd`. -/
def chars (d : Date) : List Char :=
  yearChars d.year ++ '-' :: paddedDigits 2 d.month ++ '-' :: paddedDigits 2 d.day

end Date

namespace Instant

/-- The fraction of a second in the fewest of no, three, six or nine digits. -/
def fractionChars (nano : Nat) : List Char :=
  if nano = 0 then []
  else if nano % 1000000 = 0 then '.' :: paddedDigits 3 (nano / 1000000)
  else if nano % 1000 = 0 then '.' :: paddedDigits 6 (nano / 1000)
  else '.' :: paddedDigits 9 nano

/-- The time of day with its fraction; an inserted second is the one numbered 60. -/
def timeChars (secondOfDay nano : Nat) : List Char :=
  let inserted := 1000000000 ≤ nano
  let second := secondOfDay % 60 + if inserted then 1 else 0
  paddedDigits 2 (secondOfDay / 3600) ++ ':' :: paddedDigits 2 (secondOfDay / 60 % 60) ++
    ':' :: paddedDigits 2 second ++
    fractionChars (if inserted then nano - 1000000000 else nano)

/-- Date and time without an offset. -/
def localChars (i : Instant) : List Char :=
  i.date.chars ++ 'T' :: timeChars i.secondOfDay i.nano

/-- The instant in universal time, marked with `Z`. -/
def toText (i : Instant) : String :=
  String.ofList (i.localChars ++ ['Z'])

end Instant

namespace ZonedTime

/-- An offset in hours and minutes. -/
def offsetChars (offset : Int) : List Char :=
  let minutes := offset.natAbs / 60
  (if offset < 0 then '-' else '+') :: paddedDigits 2 (minutes / 60) ++
    ':' :: paddedDigits 2 (minutes % 60)

/-- The local reading with its offset. -/
def toText (z : ZonedTime) : String :=
  String.ofList (z.localReading.localChars ++ offsetChars z.offset)

end ZonedTime

end ContentFilter
