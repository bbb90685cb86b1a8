import ContentFilter.Calendar.Fields
import ContentFilter.Text.Blank
import ContentFilter.Text.Digits
import ContentFilter.Text.Word

/-!
# Date formats

A format is a list of items, each of which reads a piece off the front of a text and may enter a
field. Most items are lenient: numbers may be short and have blanks before them, a blank in the
format stands for any run of blanks, names are read in any case.
-/

namespace ContentFilter.Calendar

open Text

/-- How an offset from universal time is written. -/
inductive ZoneStyle where
  /-- Hours and minutes, with any colons and blanks between them: `+0200`. -/
  | basic
  /-- The same under its other name, `+02:00`. -/
  | colon
  /-- The same, but also `Z`, and the minutes may be missing at the end of the text. -/
  | permissive
  /-- Exactly `Z` or `±hh:mm`. -/
  | strict
deriving DecidableEq, Repr

/-- A field of a lenient format. -/
inductive Field where
  /-- A number. -/
  | number (q : Quantity)
  /-- The name of a month, its first three letters only or, if `long`, all of it if it is there. -/
  | monthName (long : Bool)
  /-- The name of a day of the week, as for months. -/
  | weekdayName (long : Bool)
  /-- `AM` or `PM`. -/
  | halfDay
  /-- Exactly so many digits of a fraction of a second. -/
  | fraction (digits : Nat)
  /-- An offset. -/
  | zone (style : ZoneStyle)
deriving DecidableEq, Repr

/-- An item of a format. -/
inductive FormatItem where
  /-- The character itself; for a blank any run of blanks, also none. -/
  | literal (c : Char)
  /-- One of several characters. -/
  | oneOf (cs : List Char)
  /-- A lenient field. -/
  | field (f : Field)
  /-- Exactly so many digits. -/
  | digits (q : Quantity) (width : Nat)
  /-- A point and the fraction of a second, if there is a point. -/
  | optionalFraction
  /-- An offset without blanks before it. -/
  | strictZone
deriving DecidableEq, Repr

/-- The most digits a number has; a signed year may have more. -/
def Quantity.width : Quantity → Nat
  | .year => 4
  | .ordinal => 3
  | .weekday => 1
  | .nano => 9
  | _ => 2

/-! ## Reading the pieces -/

/-- Reads the digits at the front, at least one and at most `width`. -/
def readNumber? (width : Nat) (s : List Char) : Option (Nat × List Char) :=
  let digits := (s.take width).takeWhile Char.isDigit
  if digits = [] then none else some (valueOf digits, s.drop digits.length)

/-- Reads exactly `width` digits. -/
def readDigits? (width : Nat) (s : List Char) : Option (Nat × List Char) :=
  let digits := s.take width
  if digits.length = width ∧ digits.all Char.isDigit then
    some (valueOf digits, s.drop width)
  else none

/-- Reads a number as the given quantity, blanks before it skipped. A year may have a sign and then
any number of digits. -/
def readQuantity? (q : Quantity) (s : List Char) : Option (Int × List Char) :=
  let s := skipBlanks s
  match q, s with
  | .year, '-' :: r => (readNumber? r.length r).map fun (n, r) => (-(n : Int), r)
  | .year, '+' :: r => (readNumber? r.length r).map fun (n, r) => ((n : Int), r)
  | q, s => (readNumber? q.width s).map fun (n, r) => ((n : Int), r)

/-- The names of the months in two parts, their first three letters and the others. -/
def monthNames : List (String × String) :=
  [("jan", "uary"), ("feb", "ruary"), ("mar", "ch"), ("apr", "il"), ("may", ""), ("jun", "e"),
    ("jul", "y"), ("aug", "ust"), ("sep", "tember"), ("oct", "ober"), ("nov", "ember"),
    ("dec", "ember")]

/-- The names of the days of the week in two parts. -/
def weekdayNames : List (String × String) :=
  [("mon", "day"), ("tue", "sday"), ("wed", "nesday"), ("thu", "rsday"), ("fri", "day"),
    ("sat", "urday"), ("sun", "day")]

/-- Reads one of the names and answers its place in the list. The second part of a name is only
taken if `long`, and only if it is there. -/
def readName? (names : List (String × String)) (long : Bool) (s : List Char) :
    Option (Nat × List Char) :=
  (names.zipIdx.findSome? fun ((front, back), place) =>
    (afterWord? front.toList s).map fun r =>
      (place, if long then (afterWord? back.toList r).getD r else r))

/-- Reads a fraction of a second of any length, the digits after the ninth cut off. -/
def readFraction? (s : List Char) : Option (Nat × List Char) :=
  let digits := s.takeWhile Char.isDigit
  if digits = [] then none
  else
    let kept := digits.take 9
    some (valueOf kept * Nat.pow 10 (9 - kept.length), s.drop digits.length)

/-- Reads two digits. -/
def readTwo? : List Char → Option (Nat × List Char)
  | a :: b :: r => if a.isDigit ∧ b.isDigit then some (valueOf [a, b], r) else none
  | _ => none

/-- The characters that may stand between the hours and minutes of an offset are taken away. -/
def afterZoneSeparator? (style : ZoneStyle) (s : List Char) : Option (List Char) :=
  match style, s with
  | .strict, ':' :: r => some r
  | .strict, _ => none
  | _, s => some (s.dropWhile fun c => c == ':' || isBlank c)

/-- Reads the minutes of an offset. -/
def readZoneMinutes? (style : ZoneStyle) (s : List Char) : Option (Nat × List Char) :=
  if style = .permissive ∧ s = [] then some (0, [])
  else (readTwo? s).bind fun (n, r) => if n < 60 then some (n, r) else none

/-- Reads an offset in seconds. -/
def readZone? (style : ZoneStyle) (s : List Char) : Option (Int × List Char) := do
  let hoursOn (negative : Bool) (s : List Char) : Option (Int × List Char) := do
    let (hours, r) ← readTwo? s
    let r ← afterZoneSeparator? style r
    let (minutes, r) ← readZoneMinutes? style r
    let seconds : Int := hours * 3600 + minutes * 60
    some (if negative then -seconds else seconds, r)
  let zulu := style = .strict ∨ style = .permissive
  match s with
  | '+' :: r => hoursOn false r
  | '-' :: r => hoursOn true r
  | '−' :: r => hoursOn true r
  | c :: r => if zulu ∧ (c = 'Z' ∨ c = 'z') then some (0, r) else none
  | [] => none

/-! ## Reading the items -/

/-- Reads a field and enters it. -/
def Field.read? (f : Field) (fields : Fields) (s : List Char) : Option (Fields × List Char) := do
  match f with
  | .number q =>
    let (n, r) ← readQuantity? q s
    some (← fields.set q n, r)
  | .monthName long =>
    let (n, r) ← readName? monthNames long s
    some (← fields.set .month (n + 1), r)
  | .weekdayName long =>
    let (n, r) ← readName? weekdayNames long s
    some (← fields.setWeekday n, r)
  | .halfDay =>
    match afterWord? ['a', 'm'] s, afterWord? ['p', 'm'] s with
    | some r, _ => some (← fields.setAfternoon false, r)
    | none, some r => some (← fields.setAfternoon true, r)
    | none, none => none
  | .fraction digits =>
    let (n, r) ← readDigits? digits s
    some (← fields.set .nano (n * Nat.pow 10 (9 - digits) : Nat), r)
  | .zone style =>
    let (offset, r) ← readZone? style (skipBlanks s)
    some (← fields.setOffset offset, r)

/-- Reads an item and enters what it reads. -/
def FormatItem.read? (item : FormatItem) (fields : Fields) (s : List Char) :
    Option (Fields × List Char) := do
  match item with
  | .literal c =>
    if isBlank c then some (fields, skipBlanks s)
    else match s with
      | d :: r => if d = c then some (fields, r) else none
      | [] => none
  | .oneOf cs =>
    match s with
    | d :: r => if d ∈ cs then some (fields, r) else none
    | [] => none
  | .field f => f.read? fields s
  | .digits q width =>
    let (n, r) ← readDigits? width s
    some (← fields.set q n, r)
  | .optionalFraction =>
    match s with
    | '.' :: r =>
      let (n, r) ← readFraction? r
      some (← fields.set .nano n, r)
    | s => some (fields, s)
  | .strictZone =>
    let (offset, r) ← readZone? .strict s
    some (← fields.setOffset offset, r)

/-- Reads a text item by item. -/
def readItems? : List FormatItem → Fields → List Char → Option (Fields × List Char)
  | [], fields, s => some (fields, s)
  | item :: items, fields, s =>
    match item.read? fields s with
    | none => none
    | some (fields, r) => readItems? items fields r

/-- The fields of a text that the format reads as a whole. -/
def readFields? (format : List FormatItem) (s : List Char) : Option Fields :=
  match readItems? format {} s with
  | some (fields, []) => some fields
  | _ => none

end ContentFilter.Calendar
