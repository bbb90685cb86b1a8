import ContentFilter.Calendar.Format

/-!
# Date patterns

A pattern describes a date format by letters: `yyyy-MM-dd HH:mm`. A run of one letter is a field,
text between apostrophes is taken literally, two apostrophes are one apostrophe, and every other
character stands for itself. A pattern has a second spelling as format text, where every field is a
percent sign with a code and a literal percent sign is doubled.
-/

namespace ContentFilter.Calendar

open Text

/-- The field that a run of `run` times the letter stands for; `none` for letters without one. -/
def patternField? (letter : Char) (run : Nat) : Option Field :=
  match letter with
  | 'y' => some (.number (if run = 2 then .yearOfCentury else .year))
  | 'M' =>
    some (if run ≤ 2 then .number .month else if run = 3 then .monthName false else .monthName true)
  | 'd' => some (.number .day)
  | 'D' => some (.number .ordinal)
  | 'E' => some (if run ≤ 3 then .weekdayName false else .weekdayName true)
  | 'u' => some (.number .weekday)
  | 'a' => some .halfDay
  | 'H' | 'k' => some (.number .hour)
  | 'h' | 'K' => some (.number .hour12)
  | 'm' => some (.number .minute)
  | 's' => some (.number .second)
  | 'S' => some (if run = 3 ∨ run = 6 ∨ run = 9 then .fraction run else .number .nano)
  | 'Z' => some (.zone .basic)
  | 'X' => some (.zone (if run = 1 then .permissive else if run = 2 then .basic else .colon))
  | _ => none

/-- The rest of a pattern after the closing apostrophe of a quoted text, with the items of the
text. A doubled apostrophe is part of the text; a text that is not closed runs to the end. -/
def quotedItems : List Char → List FormatItem × List Char
  | '\'' :: '\'' :: r => let (items, rest) := quotedItems r; (.literal '\'' :: items, rest)
  | '\'' :: r => ([], r)
  | c :: r => let (items, rest) := quotedItems r; (.literal c :: items, rest)
  | [] => ([], [])

theorem length_quotedItems_le (s : List Char) : (quotedItems s).2.length ≤ s.length := by
  fun_induction quotedItems s <;> simp_all <;> omega

/-- The items of a pattern; `none` if one of its letters has no field. -/
def patternItems? (s : List Char) : Option (List FormatItem) :=
  match s with
  | [] => some []
  | '\'' :: '\'' :: r => (patternItems? r).map (.literal '\'' :: ·)
  | '\'' :: r => (patternItems? (quotedItems r).2).map ((quotedItems r).1 ++ ·)
  | c :: r =>
    if c.isAlpha then
      match patternField? c ((r.takeWhile (· == c)).length + 1) with
      | none => none
      | some f => (patternItems? (r.dropWhile (· == c))).map (.field f :: ·)
    else (patternItems? r).map (.literal c :: ·)
termination_by s.length
decreasing_by
  · simp only [List.length_cons]
    omega
  · have := length_quotedItems_le r
    simp only [List.length_cons]
    omega
  · have := (List.dropWhile_suffix (l := r) (· == c)).length_le
    simp only [List.length_cons]
    omega
  · simp

/-! ## The format text -/

/-- The code of a field. -/
def Field.code : Field → String
  | .number .year => "%Y"
  | .number .yearOfCentury => "%y"
  | .number .month => "%m"
  | .number .day => "%d"
  | .number .ordinal => "%j"
  | .number .weekday => "%u"
  | .number .hour => "%H"
  | .number .hour12 => "%I"
  | .number .minute => "%M"
  | .number .second => "%S"
  | .number .nano => "%f"
  | .monthName long => if long then "%B" else "%b"
  | .weekdayName long => if long then "%A" else "%a"
  | .halfDay => "%p"
  | .fraction digits => String.ofList ('%' :: digitsOf digits ++ ['f'])
  | .zone .colon => "%:z"
  | .zone .permissive => "%#z"
  | .zone _ => "%z"

/-- The format text of an item. Only literals and fields have one of their own. -/
def FormatItem.code : FormatItem → String
  | .literal c => if c = '%' then "%%" else c.toString
  | .field f => f.code
  | _ => ""

/-- The format text of a pattern; `none` if one of its letters has no field. -/
def patternCode? (pattern : String) : Option String :=
  (patternItems? pattern.toList).map fun items => String.join (items.map FormatItem.code)

/-! ## Reading by a pattern -/

/-- Reads a text by a pattern: as a time with an offset, else as a local time in universal time,
else as the start of a day. -/
def readByPattern? (text pattern : String) : Option Instant := do
  let items ← patternItems? pattern.toList
  let fields ← readFields? items text.toList
  match fields.zoned? with
  | some z => some z.instant
  | none =>
    match fields.local? with
    | some i => some i
    | none => fields.date?.map fun d => .ofDate d 0 0

end ContentFilter.Calendar
