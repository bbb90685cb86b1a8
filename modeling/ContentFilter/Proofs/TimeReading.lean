import ContentFilter.Proofs.DayNumber
import ContentFilter.Proofs.RoundTrip
import ContentFilter.Proofs.TimeLiteral

/-!
# Reading points in time

Which part of a literal a format takes does not depend on its numbers: there is one format for each
kind of literal, with seconds or without them, that takes it as a whole, and it enters the same
numbers whether its items are strict or lenient. They are entered if they are numbers that a clock
and a calendar show, and the fields say which point in time they are if the month has the day and
the offset is less than a day. So a literal is read as its point in time if it is possible, and not
at all if it is not.
-/

namespace ContentFilter

open Text ContentFilter.Expr

namespace Calendar

section Formats

variable {d : DateLiteral} {c : ClockLiteral} {z : ZoneLiteral} {t r : List Char}
  {item yearItem monthItem dayItem hourItem minuteItem : FormatItem}

/-! ## What the parts of a literal enter -/

/-- Enters year, month and day. -/
def enterDate (d : DateLiteral) (f : Fields) : Option Fields :=
  (f.set .year (d.year : ℕ)).bind fun f =>
    (f.set .month (d.month : ℕ)).bind fun f => f.set .day (d.day : ℕ)

/-- Enters hour and minute. -/
def enterMinutes (c : ClockLiteral) (f : Fields) : Option Fields :=
  (f.set .hour (c.hour : ℕ)).bind fun f => f.set .minute (c.minute : ℕ)

/-- Enters the second and its fraction, as far as they are written. -/
def enterSeconds : Option SecondsLiteral → Fields → Option Fields
  | none, f => some f
  | some s, f => (f.set .second (s.second : ℕ)).bind fun f =>
    if s.fraction.isSome then f.set .nano (s.nano : ℕ) else some f

/-- Enters the date and the time of day up to the minute. -/
def enterHead (d : DateLiteral) (c : ClockLiteral) (f : Fields) : Option Fields :=
  (enterDate d f).bind (enterMinutes c)

/-- Enters the date and the time of day. -/
def enterTime (d : DateLiteral) (c : ClockLiteral) (f : Fields) : Option Fields :=
  (enterHead d c f).bind (enterSeconds c.seconds)

theorem enterTime_of_seconds_eq_none (d : DateLiteral) (h : c.seconds = none) :
    enterTime d c = enterHead d c := by
  funext f
  rw [enterTime, h]
  exact Option.bind_fun_some _

/-- Enters the offset. -/
def enterZone (z : ZoneLiteral) (f : Fields) : Option Fields :=
  if z.minutes ≤ 59 then f.setOffset z.offset else none

/-! ## Dates and minutes -/

theorem chars_date_append (d : DateLiteral) (t : List Char) :
    d.chars ++ t = paddedDigits 4 d.year ++
      '-' :: (paddedDigits 2 d.month ++ '-' :: (paddedDigits 2 d.day ++ t)) := by
  simp [DateLiteral.chars]

theorem enters_date (hyear : IsNumberItem .year yearItem) (hmonth : IsNumberItem .month monthItem)
    (hday : IsNumberItem .day dayItem) (d : DateLiteral) (t : List Char) :
    Enters [yearItem, .literal '-', monthItem, .literal '-', dayItem] (d.chars ++ t) t
      (enterDate d) := by
  rw [chars_date_append]
  refine (Enters.number hyear d.year.isLt <| .literal (by rfl) <|
    .number hmonth d.month.isLt <| .literal (by rfl) <|
    .number hday d.day.isLt <| enters_nil t).congr fun f => ?_
  simp only [enterDate, Option.bind_fun_some]

/-- The date as the lenient format of dates has it, with room for blanks. -/
theorem enters_isoDate (d : DateLiteral) (ht : startsWith isBlank t = false) :
    Enters isoDate (d.chars ++ t) t (enterDate d) := by
  rw [chars_date_append]
  refine (Enters.number .lenient d.year.isLt <| .blank (by rfl) <| .literal (by rfl) <|
    .number .lenient d.month.isLt <| .blank (by rfl) <| .literal (by rfl) <|
    .number .lenient d.day.isLt <| .blank ht <| enters_nil t).congr fun f => ?_
  simp only [enterDate, Option.bind_fun_some]

/-- The characters of a date and a time of day up to the minute, with `t` behind them. -/
def headChars (d : DateLiteral) (c : ClockLiteral) (t : List Char) : List Char :=
  d.chars ++ 'T' :: (paddedDigits 2 c.hour ++ ':' :: (paddedDigits 2 c.minute ++ t))

/-- The items of the strict format up to the minute. -/
def strictHead : List FormatItem :=
  [.digits .year 4, .literal '-', .digits .month 2, .literal '-', .digits .day 2] ++
    .oneOf ['T', 't', ' '] :: [.digits .hour 2, .literal ':', .digits .minute 2]

/-- The items of the lenient format with seconds up to the minute. -/
def isoHead : List FormatItem :=
  isoDate ++ .literal 'T' ::
    [.field (.number .hour), .literal ' ', .literal ':', .field (.number .minute)]

theorem rfc3339_eq :
    rfc3339 = strictHead ++
      ([.literal ':', .digits .second 2, .optionalFraction] ++ [.strictZone]) :=
  rfl

theorem isoLocal_eq :
    isoLocal = isoHead ++ .literal ' ' ::
      ([.literal ':', .field (.number .second), .optionalFraction] ++ [.literal ' ']) :=
  rfl

theorem enters_minutes (hhour : IsNumberItem .hour hourItem)
    (hminute : IsNumberItem .minute minuteItem) (c : ClockLiteral) (t : List Char) :
    Enters [hourItem, .literal ':', minuteItem]
      (paddedDigits 2 c.hour ++ ':' :: (paddedDigits 2 c.minute ++ t)) t (enterMinutes c) := by
  refine (Enters.number hhour c.hour.isLt <| .literal (by rfl) <|
    .number hminute c.minute.isLt <| enters_nil t).congr fun f => ?_
  simp only [enterMinutes, Option.bind_fun_some]

theorem enters_strictHead (d : DateLiteral) (c : ClockLiteral) (t : List Char) :
    Enters strictHead (headChars d c t) t (enterHead d c) :=
  (enters_date .strict .strict .strict d _).append <|
    .skip (fun _ => rfl) <| enters_minutes .strict .strict c t

theorem enters_isoHead (d : DateLiteral) (c : ClockLiteral) (t : List Char) :
    Enters isoHead (headChars d c t) t (enterHead d c) := by
  refine (enters_isoDate d (by rfl)).append <| .literal (by rfl) <| ?_
  refine (Enters.number .lenient c.hour.isLt <| .blank (by rfl) <| .literal (by rfl) <|
    .number .lenient c.minute.isLt <| enters_nil t).congr fun f => ?_
  simp only [enterMinutes, Option.bind_fun_some]

theorem enters_isoLocalMinutes (d : DateLiteral) (c : ClockLiteral) (t : List Char) :
    Enters isoLocalMinutes (headChars d c t) t (enterHead d c) :=
  (enters_date .lenient .lenient .lenient d _).append <|
    .literal (by rfl) <| enters_minutes .lenient .lenient c t

/-! ## Seconds -/

theorem isDigit_of_mem_places (s : SecondsLiteral) : ∀ c ∈ s.places, c.isDigit = true := by
  intro c hc
  rw [SecondsLiteral.places] at hc
  cases hs : s.fraction with
  | none =>
    rw [hs] at hc
    cases hc
  | some ds =>
    rw [hs] at hc
    exact ds.isDigits.isDigit c hc

theorem cut_lt {a k unit : ℕ} (h : a < 10 ^ k) (hunit : 0 < unit) : a * unit / 10 ^ k < unit :=
  Nat.div_lt_of_lt_mul (Nat.mul_lt_mul_of_pos_right h hunit)

theorem nano_lt (s : SecondsLiteral) : s.nano < 10 ^ 9 := by
  unfold SecondsLiteral.nano
  exact cut_lt (valueOf_lt (isDigit_of_mem_places s)) (Nat.pow_pos (by decide))

/-- Seconds with what no fraction goes on with behind them. -/
theorem enters_seconds (hitem : IsNumberItem .second item) (s : SecondsLiteral)
    (hdigit : startsWith Char.isDigit t = false) (hpoint : ∀ r, t ≠ '.' :: r) :
    Enters [.literal ':', item, .optionalFraction] (s.chars ++ t) t (enterSeconds (some s)) := by
  have hfraction : ∀ f, FormatItem.optionalFraction.read? f (Numeral.fractionText s.fraction ++ t) =
      (if s.fraction.isSome then f.set .nano (s.nano : ℕ) else some f).map fun f => (f, t) := by
    intro f
    cases hs : s.fraction with
    | none =>
      cases t with
      | nil => rfl
      | cons a t =>
        simp [FormatItem.read?, Numeral.fractionText]
    | some ds =>
      have hplaces : s.places = ds.chars := by
        rw [SecondsLiteral.places, hs]
        rfl
      have hread : readFraction? (ds.chars ++ t) = some (s.nano, t) := by
        rw [readFraction?_digits ds.isDigits hdigit, SecondsLiteral.nano, hplaces]
      have htext : Numeral.fractionText (some ds) ++ t = '.' :: (ds.chars ++ t) := rfl
      rw [htext, read?_optionalFraction hread, if_pos (by rfl)]
  have hchars : s.chars ++ t =
      ':' :: (paddedDigits 2 s.second ++ (Numeral.fractionText s.fraction ++ t)) := by
    simp [SecondsLiteral.chars]
  rw [hchars]
  refine (Enters.literal (by rfl) <| .number hitem s.second.isLt <|
    .cons hfraction <| enters_nil t).congr fun f => ?_
  simp only [enterSeconds, Option.bind_fun_some]

/-! ## Offsets -/

theorem readTwo?_paddedDigits (n : Fin 100) (t : List Char) :
    readTwo? (paddedDigits 2 n ++ t) = some ((n : ℕ), t) := by
  obtain ⟨a, b, hab⟩ := List.length_eq_two.mp (length_paddedDigits (by decide) n.isLt)
  have ha : a.isDigit = true := isDigit_of_mem_paddedDigits (by rw [hab]; simp)
  have hb : b.isDigit = true := isDigit_of_mem_paddedDigits (by rw [hab]; simp)
  rw [hab, List.cons_append, List.cons_append, List.nil_append, readTwo?, if_pos ⟨ha, hb⟩, ← hab,
    valueOf_paddedDigits]

theorem dropWhile_zoneSeparator (n : ℕ) :
    (':' :: paddedDigits 2 n).dropWhile (fun c => c == ':' || isBlank c) = paddedDigits 2 n := by
  have hkeep :
      (paddedDigits 2 n).dropWhile (fun c => c == ':' || isBlank c) = paddedDigits 2 n := by
    refine List.dropWhile_eq_self_iff.mpr fun hpos => ?_
    have hdigit := isDigit_of_mem_paddedDigits (List.getElem_mem hpos)
    rw [isBlank_of_isDigit hdigit, Bool.or_false, beq_iff_eq]
    intro hcolon
    rw [hcolon] at hdigit
    cases hdigit
  rw [List.dropWhile_cons_of_pos (by rfl), hkeep]

/-- Hours and minutes with a colon between them, read strictly or leniently. -/
theorem readZone?_chars {style : ZoneStyle} (hstyle : style = .strict ∨ style = .colon)
    (hz : z = .utc → style = .strict) :
    readZone? style z.chars = if z.minutes ≤ 59 then some (z.offset, []) else none := by
  have hseparator (minutes : Fin 100) :
      afterZoneSeparator? style (':' :: paddedDigits 2 minutes) =
        some (paddedDigits 2 minutes) := by
    rcases hstyle with rfl | rfl
    · rfl
    · simp only [afterZoneSeparator?, dropWhile_zoneSeparator]
  have hminutes : ∀ minutes : Fin 100, readZoneMinutes? style (paddedDigits 2 minutes) =
      if (minutes : ℕ) ≤ 59 then some ((minutes : ℕ), []) else none := by
    intro minutes
    have hread := readTwo?_paddedDigits minutes []
    rw [List.append_nil] at hread
    have hpermissive : ¬ (style = .permissive ∧ paddedDigits 2 minutes = []) :=
      fun h => paddedDigits_ne_nil _ _ h.2
    simp only [readZoneMinutes?, if_neg hpermissive, hread, Option.bind_some, Nat.lt_succ_iff]
  cases z with
  | utc =>
    rw [hz rfl]
    rfl
  | ahead hours minutes =>
    simp only [readZone?, ZoneLiteral.chars, ZoneLiteral.hourChars, readTwo?_paddedDigits,
      Option.bind_eq_bind, Option.bind_some, hseparator, hminutes, ZoneLiteral.minutes,
      ZoneLiteral.offset, ZoneLiteral.hours]
    by_cases h : (minutes : ℕ) ≤ 59
    · simp [h]
    · simp [h]
  | behind hours minutes =>
    simp only [readZone?, ZoneLiteral.chars, ZoneLiteral.hourChars, readTwo?_paddedDigits,
      Option.bind_eq_bind, Option.bind_some, hseparator, hminutes, ZoneLiteral.minutes,
      ZoneLiteral.offset, ZoneLiteral.hours]
    by_cases h : (minutes : ℕ) ≤ 59
    · simp [h]
    · simp [h]

theorem enters_strictZone (z : ZoneLiteral) : Enters [.strictZone] z.chars [] (enterZone z) := by
  have hread := readZone?_chars (z := z) (.inl rfl) fun _ => rfl
  refine (Enters.cons (fun f => ?_) (enters_nil [])).congr fun f => Option.bind_fun_some _
  simp only [FormatItem.read?, hread, enterZone, Option.bind_eq_bind]
  by_cases h : z.minutes ≤ 59
  · simp only [if_pos h, Option.bind_some]
    cases f.setOffset z.offset <;> rfl
  · simp only [if_neg h]
    rfl

/-- The offset with universal time spelled in digits. -/
def spelled : ZoneLiteral → ZoneLiteral
  | .utc => .ahead 0 0
  | z => z

theorem enterZone_spelled (z : ZoneLiteral) : enterZone (spelled z) = enterZone z := by
  cases z <;> rfl

theorem skipBlanks_chars_zone (z : ZoneLiteral) : skipBlanks z.chars = z.chars := by
  cases z <;> exact skipBlanks_cons_of_not_blank (by rfl) _

theorem enters_zone (z : ZoneLiteral) :
    Enters [.field (.zone .colon)] (spelled z).chars [] (enterZone z) := by
  have hread := readZone?_chars (z := spelled z) (.inr rfl) fun h => by cases z <;> cases h
  refine (Enters.cons (fun f => ?_) (enters_nil [])).congr fun f => Option.bind_fun_some _
  rw [← enterZone_spelled]
  simp only [FormatItem.read?, Field.read?, skipBlanks_chars_zone, hread, enterZone,
    Option.bind_eq_bind]
  by_cases h : (spelled z).minutes ≤ 59
  · simp only [if_pos h, Option.bind_some]
    cases f.setOffset (spelled z).offset <;> rfl
  · simp only [if_neg h]
    rfl

/-- Digits at the end are no `Z`. -/
theorem spellZulu_append_digits (s : List Char) {ds : List Char} (h : IsDigits ds) :
    spellZulu (s ++ ds) = s ++ ds := by
  have hlast : (s ++ ds).getLast? = some (ds.getLast h.ne_nil) := by
    rw [List.getLast?_append_of_ne_nil _ h.ne_nil, List.getLast?_eq_some_getLast h.ne_nil]
  have hdigit := h.isDigit _ (List.getLast_mem h.ne_nil)
  have hletter : ¬ (ds.getLast h.ne_nil = 'Z' ∨ ds.getLast h.ne_nil = 'z') := by
    intro hletter
    rcases hletter with hz | hz
    · rw [hz] at hdigit
      cases hdigit
    · rw [hz] at hdigit
      cases hdigit
  rw [spellZulu, hlast]
  exact if_neg hletter

theorem spellZulu_append_zone (s : List Char) (z : ZoneLiteral) :
    spellZulu (s ++ z.chars) = s ++ (spelled z).chars := by
  have hdigits : ∀ (sign : Char) (hours minutes : Fin 100),
      spellZulu (s ++ sign :: ZoneLiteral.hourChars hours minutes) =
        s ++ sign :: ZoneLiteral.hourChars hours minutes := by
    intro sign hours minutes
    have hchars : s ++ sign :: ZoneLiteral.hourChars hours minutes =
        s ++ sign :: (paddedDigits 2 hours ++ [':']) ++ paddedDigits 2 minutes := by
      simp [ZoneLiteral.hourChars]
    rw [hchars, spellZulu_append_digits _ (isDigits_paddedDigits 2 minutes)]
  cases z with
  | utc =>
    have hzero : ZoneLiteral.hourChars 0 0 = "00:00".toList := by rfl
    simp [spellZulu, ZoneLiteral.chars, spelled, hzero]
  | ahead hours minutes => exact hdigits '+' hours minutes
  | behind hours minutes => exact hdigits '-' hours minutes

/-! ## Literals as whole texts -/

theorem chars_localTime (d : DateLiteral) (c : ClockLiteral) :
    (TimeLiteral.localTime d c).chars = headChars d c (ClockLiteral.secondsChars c.seconds) := by
  simp [TimeLiteral.chars, ClockLiteral.chars, headChars]

theorem chars_offsetTime (d : DateLiteral) (c : ClockLiteral) (z : ZoneLiteral) :
    (TimeLiteral.offsetTime d c z).chars =
      headChars d c (ClockLiteral.secondsChars c.seconds ++ z.chars) := by
  simp [TimeLiteral.chars, ClockLiteral.chars, headChars]

theorem readFields?_isoDate (d : DateLiteral) : readFields? isoDate d.chars = enterDate d {} := by
  have h := enters_isoDate (t := []) d (by rfl)
  rw [List.append_nil] at h
  exact h.readFields?_eq

/-- A date-time is read with its seconds or without them, whichever it has. -/
theorem readFields?_isoLocal (d : DateLiteral) {c : ClockLiteral} {s : SecondsLiteral}
    (hs : c.seconds = some s) :
    readFields? isoLocal (TimeLiteral.localTime d c).chars = enterTime d c {} := by
  have hseconds := enters_seconds (t := []) .lenient s (by rfl) nofun
  rw [List.append_nil] at hseconds
  have h := (enters_isoHead d c s.chars).append <| .blank (by rfl) <|
    hseconds.append <| .blank (by rfl) <| enters_nil []
  rw [chars_localTime, hs, isoLocal_eq]
  refine h.readFields?_eq.trans ?_
  simp only [enterTime, hs, Option.bind_fun_some]

theorem readFields?_isoLocal_eq_none (d : DateLiteral) {c : ClockLiteral} (hs : c.seconds = none) :
    readFields? isoLocal (TimeLiteral.localTime d c).chars = none := by
  rw [chars_localTime, hs, isoLocal_eq]
  exact (enters_isoHead d c []).readFields?_append fun _ => rfl

theorem readFields?_isoLocalMinutes (d : DateLiteral) {c : ClockLiteral} (hs : c.seconds = none) :
    readFields? isoLocalMinutes (TimeLiteral.localTime d c).chars = enterTime d c {} := by
  rw [chars_localTime, hs]
  rw [enterTime_of_seconds_eq_none d hs]
  exact (enters_isoLocalMinutes d c []).readFields?_eq

theorem readFields?_isoLocalMinutes_eq_none (d : DateLiteral) {c : ClockLiteral}
    {s : SecondsLiteral} (hs : c.seconds = some s) :
    readFields? isoLocalMinutes (TimeLiteral.localTime d c).chars = none := by
  rw [chars_localTime, hs]
  exact (enters_isoLocalMinutes d c s.chars).readFields?_eq_none

theorem startsWith_isDigit_zone (z : ZoneLiteral) : startsWith Char.isDigit z.chars = false := by
  cases z <;> rfl

theorem zone_ne_point (z : ZoneLiteral) : ∀ r, z.chars ≠ '.' :: r := by
  cases z <;> nofun

theorem readFields?_rfc3339 (d : DateLiteral) {c : ClockLiteral} {s : SecondsLiteral}
    (hs : c.seconds = some s) (z : ZoneLiteral) :
    readFields? rfc3339 (TimeLiteral.offsetTime d c z).chars =
      (enterTime d c {}).bind (enterZone z) := by
  have h := (enters_strictHead d c (s.chars ++ z.chars)).append <|
    (enters_seconds .strict s (startsWith_isDigit_zone z) (zone_ne_point z)).append <|
    enters_strictZone z
  rw [chars_offsetTime, hs, rfc3339_eq]
  refine h.readFields?_eq.trans ?_
  simp only [enterTime, hs, Option.bind_assoc]

theorem readFields?_rfc3339_eq_none (d : DateLiteral) {c : ClockLiteral} (hs : c.seconds = none)
    (z : ZoneLiteral) : readFields? rfc3339 (TimeLiteral.offsetTime d c z).chars = none := by
  rw [chars_offsetTime, hs, rfc3339_eq]
  refine (enters_strictHead d c z.chars).readFields?_append fun f => ?_
  cases z <;> rfl

theorem spellZulu_offsetTime (d : DateLiteral) (c : ClockLiteral) (z : ZoneLiteral) :
    spellZulu (TimeLiteral.offsetTime d c z).chars =
      headChars d c (ClockLiteral.secondsChars c.seconds ++ (spelled z).chars) := by
  rw [TimeLiteral.chars, spellZulu_append_zone, ← chars_offsetTime, TimeLiteral.chars]

theorem readFields?_isoOffsetMinutes (d : DateLiteral) {c : ClockLiteral} (hs : c.seconds = none)
    (z : ZoneLiteral) :
    readFields? isoOffsetMinutes (spellZulu (TimeLiteral.offsetTime d c z).chars) =
      (enterTime d c {}).bind (enterZone z) := by
  rw [spellZulu_offsetTime, hs]
  rw [enterTime_of_seconds_eq_none d hs]
  exact ((enters_isoLocalMinutes d c _).append (enters_zone z)).readFields?_eq

theorem readFields?_isoOffsetMinutes_eq_none (d : DateLiteral) {c : ClockLiteral}
    {s : SecondsLiteral} (hs : c.seconds = some s) (z : ZoneLiteral) :
    readFields? isoOffsetMinutes (spellZulu (TimeLiteral.offsetTime d c z).chars) = none := by
  rw [spellZulu_offsetTime, hs]
  exact (enters_isoLocalMinutes d c _).readFields?_append fun _ => rfl

end Formats

/-! ## What the fields say -/

section Values

variable {d : DateLiteral} {c : ClockLiteral} {z : ZoneLiteral}

/-- Month and day are numbers that a calendar shows. -/
def IsShown (d : DateLiteral) : Prop :=
  (1 ≤ (d.month : ℕ) ∧ (d.month : ℕ) ≤ 12) ∧ 1 ≤ (d.day : ℕ) ∧ (d.day : ℕ) ≤ 31

instance (d : DateLiteral) : Decidable (IsShown d) :=
  inferInstanceAs (Decidable (_ ∧ _))

/-- The fields of a date. -/
def fieldsOfDate (d : DateLiteral) : Fields :=
  { year := some (d.year : ℕ), month := some d.month, day := some d.day }

/-- The fields of a date and a time of day up to the minute. -/
def fieldsOfHead (d : DateLiteral) (c : ClockLiteral) : Fields :=
  { fieldsOfDate d with
    afternoon := some (decide (12 ≤ (c.hour : ℕ)))
    hourOfHalf := some (c.hour % 12)
    minute := some c.minute }

/-- The fields with the second and its fraction, as far as they are written. -/
def withSeconds (f : Fields) : Option SecondsLiteral → Fields
  | none => f
  | some s =>
    if s.fraction.isSome then { f with second := some s.second, nano := some s.nano }
    else { f with second := some s.second }

/-- The fields of a date and a time of day. -/
def fieldsOfTime (d : DateLiteral) (c : ClockLiteral) : Fields :=
  withSeconds (fieldsOfHead d c) c.seconds

theorem enterDate_eq (d : DateLiteral) :
    enterDate d {} = if IsShown d then some (fieldsOfDate d) else none := by
  have hyear : ({} : Fields).set .year (d.year : ℕ) = some { year := some (d.year : ℕ) } := rfl
  rw [enterDate, hyear, Option.bind_some, set_month rfl]
  by_cases hmonth : 1 ≤ (d.month : ℕ) ∧ (d.month : ℕ) ≤ 12
  · rw [if_pos hmonth, Option.bind_some, set_day rfl]
    by_cases hday : 1 ≤ (d.day : ℕ) ∧ (d.day : ℕ) ≤ 31
    · rw [if_pos hday, if_pos ⟨hmonth, hday⟩]
      rfl
    · rw [if_neg hday, if_neg fun h => hday h.2]
  · rw [if_neg hmonth, if_neg fun h => hmonth h.1, Option.bind_none]

theorem enterSeconds_eq {f : Fields} (hsecond : f.second = none) (hnano : f.nano = none) :
    enterSeconds c.seconds f = if c.second ≤ 60 then some (withSeconds f c.seconds) else none := by
  cases hs : c.seconds with
  | none => rw [enterSeconds, withSeconds, ClockLiteral.second_eq_zero hs, if_pos (by decide)]
  | some s =>
    rw [enterSeconds, withSeconds, set_second hsecond, ClockLiteral.second_eq hs]
    by_cases h : (s.second : ℕ) ≤ 60
    · rw [if_pos h, if_pos h, Option.bind_some]
      by_cases hfraction : s.fraction.isSome = true
      · have hlt := nano_lt s
        rw [if_pos hfraction, if_pos hfraction, set_nano (by exact hnano) (by omega)]
      · rw [if_neg hfraction, if_neg hfraction]
    · rw [if_neg h, if_neg h, Option.bind_none]

theorem enterTime_eq (d : DateLiteral) (c : ClockLiteral) :
    enterTime d c {} =
      if IsShown d ∧ c.IsPossible then some (fieldsOfTime d c) else none := by
  rw [enterTime, enterHead, enterDate_eq]
  by_cases hd : IsShown d
  · rw [if_pos hd, Option.bind_some, enterMinutes, set_hour (by rfl) (by rfl)]
    by_cases hhour : (c.hour : ℕ) ≤ 23
    · rw [if_pos hhour, Option.bind_some, set_minute (by rfl)]
      by_cases hminute : (c.minute : ℕ) ≤ 59
      · rw [if_pos hminute, Option.bind_some, enterSeconds_eq (by rfl) (by rfl)]
        by_cases hsecond : c.second ≤ 60
        · rw [if_pos hsecond, if_pos ⟨hd, hhour, hminute, hsecond⟩]
          rfl
        · rw [if_neg hsecond, if_neg fun h => hsecond h.2.2.2]
      · rw [if_neg hminute, Option.bind_none, if_neg fun h => hminute h.2.2.1]
    · rw [if_neg hhour, Option.bind_none, Option.bind_none, if_neg fun h => hhour h.2.1]
  · rw [if_neg hd, Option.bind_none, Option.bind_none, if_neg fun h => hd h.1]

theorem date?_fieldsOfDate (d : DateLiteral) :
    (fieldsOfDate d).date? = if d.toDate.isValid then some d.toDate else none := by
  cases h : d.toDate.isValid <;> rw [DateLiteral.toDate] at h <;>
    simp [Fields.date?, Fields.year?, fieldsOfDate, Fields.allows, DateLiteral.toDate, h]

theorem date?_fieldsOfTime (d : DateLiteral) (c : ClockLiteral) :
    (fieldsOfTime d c).date? = (fieldsOfDate d).date? := by
  rw [fieldsOfTime]
  cases c.seconds with
  | none => rfl
  | some s =>
    rw [withSeconds]
    split <;> rfl

theorem hour_eq {hour : ℕ} (h : hour ≤ 23) :
    (if decide (12 ≤ hour) = true then hour % 12 + 12 else hour % 12) = hour := by
  simp only [decide_eq_true_eq]
  split <;> omega

/-- A second numbered 60 is an inserted one. -/
theorem time?_second (d : DateLiteral) (h : (c.hour : ℕ) ≤ 23) (second : ℕ) (nano : Option ℕ) :
    ({ fieldsOfHead d c with second := some second, nano := nano } : Fields).time? =
      some (c.hour * 3600 + c.minute * 60 + (if second = 60 then 59 else second),
        nano.getD 0 + if second = 60 then 1000000000 else 0) := by
  simp only [Fields.time?, fieldsOfHead, Option.bind_eq_bind, Option.bind_some, Option.getD_some,
    hour_eq h]
  by_cases hsecond : second = 60
  · simp only [hsecond, if_true]
  · simp only [hsecond, if_false, Nat.add_zero]

theorem time?_fieldsOfTime (d : DateLiteral) (h : (c.hour : ℕ) ≤ 23) :
    (fieldsOfTime d c).time? = some (c.secondOfDay, c.nano) := by
  rw [fieldsOfTime, ClockLiteral.secondOfDay, ClockLiteral.nano]
  cases hs : c.seconds with
  | none =>
    rw [withSeconds, ClockLiteral.second_eq_zero hs, ClockLiteral.fraction_eq_zero hs]
    simp only [Fields.time?, fieldsOfHead, fieldsOfDate, Option.bind_eq_bind, Option.bind_some,
      hour_eq h]
    rfl
  | some s =>
    rw [withSeconds, ClockLiteral.second_eq hs, ClockLiteral.fraction_eq hs]
    by_cases hfraction : s.fraction.isSome = true
    · rw [if_pos hfraction, time?_second d h, Option.getD_some]
    · have hnano : s.nano = 0 :=
        SecondsLiteral.nano_eq_zero (Option.not_isSome_iff_eq_none.mp hfraction)
      rw [if_neg hfraction, hnano]
      exact time?_second d h s.second none

/-- The calendar has the date if it has the numbers of month and day and the day is one of the
    month. -/
theorem isPossible_iff (d : DateLiteral) :
    d.IsPossible ↔ IsShown d ∧ d.toDate.isValid = true := by
  have hyear := d.year.isLt
  have hle := Date.daysInMonth_le (d.year : ℕ) d.month
  rw [Date.isValid_iff, Date.firstYear, Date.lastYear]
  simp only [DateLiteral.IsPossible, IsShown, DateLiteral.toDate]
  omega

theorem local?_fieldsOfTime (d : DateLiteral) (h : (c.hour : ℕ) ≤ 23) :
    (fieldsOfTime d c).local? =
      if d.toDate.isValid then some (.ofDate d.toDate c.secondOfDay c.nano) else none := by
  rw [Fields.local?, date?_fieldsOfTime, date?_fieldsOfDate, time?_fieldsOfTime d h]
  split <;> rfl

/-- The point in time of a literal without an offset. -/
theorem local?_enterTime (d : DateLiteral) (c : ClockLiteral) :
    (enterTime d c {}).bind Fields.local? = (TimeLiteral.localTime d c).instant? := by
  rw [enterTime_eq]
  by_cases h : (TimeLiteral.localTime d c).IsPossible
  · obtain ⟨hshown, hvalid⟩ := (isPossible_iff d).mp h.1
    rw [if_pos ⟨hshown, h.2⟩, Option.bind_some, local?_fieldsOfTime d h.2.1, if_pos hvalid,
      TimeLiteral.instant?, if_pos h]
    rfl
  · rw [TimeLiteral.instant?, if_neg h]
    by_cases hentered : IsShown d ∧ c.IsPossible
    · have hnot : ¬ d.toDate.isValid = true :=
        fun hvalid => h ⟨(isPossible_iff d).mpr ⟨hentered.1, hvalid⟩, hentered.2⟩
      rw [if_pos hentered, Option.bind_some, local?_fieldsOfTime d hentered.2.1, if_neg hnot]
    · rw [if_neg hentered, Option.bind_none]

theorem date?_enterDate (d : DateLiteral) :
    ((enterDate d {}).bind Fields.date?).map (fun date => Instant.ofDate date 0 0) =
      (TimeLiteral.date d).instant? := by
  rw [enterDate_eq]
  by_cases h : (TimeLiteral.date d).IsPossible
  · obtain ⟨hshown, hvalid⟩ := (isPossible_iff d).mp h
    rw [if_pos hshown, Option.bind_some, date?_fieldsOfDate, if_pos hvalid, TimeLiteral.instant?,
      if_pos h]
    rfl
  · rw [TimeLiteral.instant?, if_neg h]
    by_cases hshown : IsShown d
    · have hnot : ¬ d.toDate.isValid = true :=
        fun hvalid => h ((isPossible_iff d).mpr ⟨hshown, hvalid⟩)
      rw [if_pos hshown, Option.bind_some, date?_fieldsOfDate, if_neg hnot]
      rfl
    · rw [if_neg hshown]
      rfl

/-! ## Offsets -/

/-- Offsets of less than a day do not lead out of the calendar. -/
theorem inRange_addSeconds (h : d.IsPossible) {secondOfDay : ℕ} (nano : ℕ) {offset : Int}
    (hsecond : secondOfDay < 86400) (hlow : -86400 < offset) (hhigh : offset < 86400) :
    ((Instant.ofDate d.toDate secondOfDay nano).addSeconds (-offset)).inRange = true := by
  obtain ⟨-, -, hpos, hlast⟩ := h
  have hyear := d.year.isLt
  have hmonth := Date.daysBeforeMonth_le (d.year : ℕ) d.month
  have hday := hlast.trans (Date.daysInMonth_le (d.year : ℕ) d.month)
  have hlength : Date.daysInYear (d.year : ℕ) ≤ 366 := by
    rw [Date.daysInYear]
    split <;> decide
  -- a year of four digits is far from the ends of the calendar, a day more or less does no harm
  have hnumber : Date.daysBeforeYear Date.firstYear < d.toDate.dayNumber ∧
      d.toDate.dayNumber + 1 < Date.daysBeforeYear (Date.lastYear + 1) := by
    simp only [Date.dayNumber, Date.ordinal, Date.daysBeforeYear, Date.leapYearsBefore,
      Date.firstYear, Date.lastYear, DateLiteral.toDate]
    omega
  rw [Instant.inRange, Date.dayInRange, Bool.and_eq_true, decide_eq_true_iff, decide_eq_true_iff]
  simp only [Instant.ofDate, Instant.addSeconds]
  omega

/-- An offset is less than a day if its hours and minutes are those of a clock. -/
theorem offset_lt_iff (h : z.minutes ≤ 59) :
    (-86400 < z.offset ∧ z.offset < 86400) ↔ z.hours ≤ 23 := by
  cases z <;> simp only [ZoneLiteral.offset, ZoneLiteral.hours, ZoneLiteral.minutes] at h ⊢ <;>
    omega

theorem enterZone_fieldsOfTime (d : DateLiteral) (c : ClockLiteral) (h : z.minutes ≤ 59) :
    enterZone z (fieldsOfTime d c) = some { fieldsOfTime d c with offset := some z.offset } := by
  have hfree : (fieldsOfTime d c).offset = none := by
    rw [fieldsOfTime]
    cases c.seconds with
    | none => rfl
    | some s =>
      rw [withSeconds]
      split <;> rfl
  rw [enterZone, if_pos h, Fields.setOffset, hfree]
  rfl

theorem zoned?_fieldsOfTime (d : DateLiteral) (hhour : (c.hour : ℕ) ≤ 23) (offset : Int) :
    ({ fieldsOfTime d c with offset := some offset } : Fields).zoned? =
      (if d.toDate.isValid then some (Instant.ofDate d.toDate c.secondOfDay c.nano) else none).bind
        fun reading => ZonedTime.ofLocal? reading offset := by
  rw [← local?_fieldsOfTime d hhour]
  rfl

theorem secondOfDay_lt (h : c.IsPossible) : c.secondOfDay < 86400 := by
  obtain ⟨hhour, hminute, hsecond⟩ := h
  rw [ClockLiteral.secondOfDay]
  split <;> omega

/-- The point in time of a literal with an offset. -/
theorem zoned?_enterTime (d : DateLiteral) (c : ClockLiteral) (z : ZoneLiteral) :
    (((enterTime d c {}).bind (enterZone z)).bind Fields.zoned?).map ZonedTime.instant =
      (TimeLiteral.offsetTime d c z).instant? := by
  rw [enterTime_eq]
  -- the cases are those of reading: all numbers are entered, then the month has the day, and last
  -- the offset is less than a day
  by_cases hentered : (IsShown d ∧ c.IsPossible) ∧ z.minutes ≤ 59
  · obtain ⟨⟨hshown, hc⟩, hminutes⟩ := hentered
    rw [if_pos ⟨hshown, hc⟩, Option.bind_some, enterZone_fieldsOfTime d c hminutes,
      Option.bind_some, zoned?_fieldsOfTime d hc.1]
    by_cases hd : d.IsPossible
    · rw [if_pos ((isPossible_iff d).mp hd).2, Option.bind_some, ZonedTime.ofLocal?]
      by_cases hz : z.hours ≤ 23
      · obtain ⟨hlow, hhigh⟩ := (offset_lt_iff hminutes).mpr hz
        have hrange := inRange_addSeconds hd c.nano (secondOfDay_lt hc) hlow hhigh
        have hpossible : (TimeLiteral.offsetTime d c z).IsPossible := ⟨hd, hc, hz, hminutes⟩
        rw [if_pos ⟨hlow, hhigh, hrange⟩, TimeLiteral.instant?, if_pos hpossible]
        rfl
      · have hnot : ¬ (TimeLiteral.offsetTime d c z).IsPossible := fun h => hz h.2.2.1
        rw [if_neg fun h => hz ((offset_lt_iff hminutes).mp ⟨h.1, h.2.1⟩), TimeLiteral.instant?,
          if_neg hnot]
        rfl
    · have hnot : ¬ (TimeLiteral.offsetTime d c z).IsPossible := fun h => hd h.1
      rw [if_neg fun hvalid => hd ((isPossible_iff d).mpr ⟨hshown, hvalid⟩), TimeLiteral.instant?,
        if_neg hnot]
      rfl
  · have hnot : ¬ (TimeLiteral.offsetTime d c z).IsPossible :=
      fun h => hentered ⟨⟨((isPossible_iff d).mp h.1).1, h.2.1⟩, h.2.2.2⟩
    rw [TimeLiteral.instant?, if_neg hnot]
    by_cases htime : IsShown d ∧ c.IsPossible
    · rw [if_pos htime, Option.bind_some, enterZone, if_neg fun h => hentered ⟨htime, h⟩]
      rfl
    · rw [if_neg htime]
      rfl

end Values

/-! ## Literals that are read -/

theorem readDate?_literal (d : DateLiteral) :
    readDate? (TimeLiteral.date d).chars = (TimeLiteral.date d).instant? := by
  rw [readDate?, TimeLiteral.chars, readFields?_isoDate]
  exact date?_enterDate d

theorem readLocalTime?_literal (d : DateLiteral) (c : ClockLiteral) :
    readLocalTime? (TimeLiteral.localTime d c).chars = (TimeLiteral.localTime d c).instant? := by
  rw [readLocalTime?]
  cases hs : c.seconds with
  | none =>
    rw [readFields?_isoLocal_eq_none d hs, readFields?_isoLocalMinutes d hs, local?_enterTime]
    rfl
  | some s =>
    rw [readFields?_isoLocal d hs, readFields?_isoLocalMinutes_eq_none d hs, local?_enterTime]
    cases (TimeLiteral.localTime d c).instant? <;> rfl

theorem readOffsetTime?_literal (d : DateLiteral) (c : ClockLiteral) (z : ZoneLiteral) :
    readOffsetTime? (TimeLiteral.offsetTime d c z).chars =
      (TimeLiteral.offsetTime d c z).instant? := by
  rw [readOffsetTime?, readRfc3339?, ← zoned?_enterTime]
  cases hs : c.seconds with
  | none =>
    rw [readFields?_rfc3339_eq_none d hs, readFields?_isoOffsetMinutes d hs]
    rfl
  | some s =>
    rw [readFields?_rfc3339 d hs, readFields?_isoOffsetMinutes_eq_none d hs]
    cases ((enterTime d c {}).bind (enterZone z)).bind Fields.zoned? <;> rfl

end Calendar

/-! ## Points in time in filters -/

theorem Expr.parse_timeLiteral {path symbol : String} {op : Operator} (hpath : IsPath path.toList)
    (hsymbol : symbol ∈ op.symbols) (t : TimeLiteral) :
    parse (testText path symbol t.text) = .ok (.compare op (.property path) t.expr) := by
  have hrenders : Renders (.operand t.expr) t.text.toList false := by
    cases t with
    | date d => exact .date
    | localTime d c => exact .localTime
    | offsetTime d c z => exact .offsetTime
  have hgo : ¬ t.expr.GoesOn := by
    cases t <;> exact id
  have hparse := parse_testText hpath hsymbol t.isOperand_expr hgo hrenders
  rwa [String.ofList_toList] at hparse

theorem Context.compileValue_timeLiteral (c : Context) (t : TimeLiteral) :
    c.compileValue t.expr = timeLiteral t.instant? := by
  cases t with
  | date d =>
    rw [TimeLiteral.expr, compileValue, TimeLiteral.text, String.toList_ofList,
      Calendar.readDate?_literal]
  | localTime d clock =>
    rw [TimeLiteral.expr, compileValue, TimeLiteral.text, String.toList_ofList,
      Calendar.readLocalTime?_literal]
  | offsetTime d clock z =>
    rw [TimeLiteral.expr, compileValue, TimeLiteral.text, String.toList_ofList,
      Calendar.readOffsetTime?_literal]

/-- The points in time of filters are the literals: each lexeme is one of them, and each of them may
    be an operand. It is the constant point in time that the calendar has for it, or no value if
    there is none. The calendar counts its days from the first one of 1970. -/
theorem Context.compile_timeLiterals :
    (∀ (text : String) (e x : Expr) (lexeme : String), Expr.parse text = .ok e → x.OccursIn e →
      x.timeLexeme? = some lexeme → ∃ t : TimeLiteral, t.expr = x ∧ t.text = lexeme) ∧
    (∀ (path symbol : String) (op : Operator) (t : TimeLiteral), IsPath path.toList →
      symbol ∈ op.symbols →
      Expr.parse (testText path symbol t.text) = .ok (.compare op (.property path) t.expr)) ∧
    (∀ (c : Context) (t : TimeLiteral),
      (t.IsPossible → c.compileValue t.expr = .constant (.instant t.instant)) ∧
      (¬ t.IsPossible → c.compileValue t.expr = .constant .absent)) ∧
    Date.dayNumber ⟨1970, 1, 1⟩ = 0 ∧
    ∀ d : Date, 1 ≤ d.day → d.day ≤ Date.daysInMonth d.year d.month →
      d.next.dayNumber = d.dayNumber + 1 := by
  refine ⟨fun text e x lexeme h hx hlexeme => exists_timeLiteral_of_parse h hx hlexeme,
    fun path symbol op t hpath hsymbol => parse_timeLiteral hpath hsymbol t, ?_, by decide,
    fun d hday hlast => Date.dayNumber_next hday hlast⟩
  intro c t
  rw [c.compileValue_timeLiteral t]
  constructor
  · intro h
    rw [TimeLiteral.instant?, if_pos h]
    rfl
  · intro h
    rw [TimeLiteral.instant?, if_neg h]
    rfl

/-- `2016-12-31T23:59:60.1234567898-00:30`: an inserted second, and a fraction of ten digits. -/
def TimeLiteral.leapSecond : TimeLiteral :=
  .offsetTime ⟨2016, 12, 31⟩
    ⟨23, 59, some ⟨60, some ⟨"1234567898".toList, by decide, by decide⟩⟩⟩ (.behind 0 30)

/-- A point in time half an hour into the next year, and a day that only leap years have. -/
theorem Context.compile_timeLiterals_leapSecond :
    let t := TimeLiteral.leapSecond
    let e := Expr.compare .less (.property "created") t.expr
    Expr.parse "[created] < 2016-12-31T23:59:60.1234567898-00:30" = .ok e ∧ t.expr.OccursIn e ∧
    t.expr.timeLexeme? = some t.text ∧ (∃ t' : TimeLiteral, t'.expr = t.expr ∧ t'.text = t.text) ∧
    IsPath "created".toList ∧ "<" ∈ Operator.less.symbols ∧ t.IsPossible ∧
    standard.compileValue t.expr = .constant (.instant ⟨1483230599, 1123456789⟩) ∧
    ¬ (TimeLiteral.date ⟨1900, 2, 29⟩).IsPossible ∧
    standard.compileValue (TimeLiteral.date ⟨1900, 2, 29⟩).expr = .constant .absent ∧
    Date.next ⟨1900, 2, 28⟩ = ⟨1900, 3, 1⟩ ∧
    Date.dayNumber ⟨1900, 3, 1⟩ = Date.dayNumber ⟨1900, 2, 28⟩ + 1 := by
  intro t e
  have hpath : IsPath "created".toList := ⟨by decide, by decide, by decide⟩
  have hsymbol : "<" ∈ Operator.less.symbols := by decide
  have hpossible : t.IsPossible := by decide
  have hnot : ¬ (TimeLiteral.date ⟨1900, 2, 29⟩).IsPossible := by decide
  obtain ⟨hlexemes, hparse, hvalue, -, hnext⟩ := compile_timeLiterals
  have htext : Expr.parse "[created] < 2016-12-31T23:59:60.1234567898-00:30" = .ok e :=
    hparse "created" "<" .less t hpath hsymbol
  have hoccurs : t.expr.OccursIn e := .right .here
  have hinstant : t.instant = ⟨1483230599, 1123456789⟩ := by decide +kernel
  refine ⟨htext, hoccurs, rfl, hlexemes _ e _ _ htext hoccurs rfl, hpath, hsymbol, hpossible,
    hinstant ▸ (hvalue standard t).1 hpossible, hnot, (hvalue standard _).2 hnot, by decide,
    hnext ⟨1900, 2, 28⟩ (by decide) (by decide)⟩

end ContentFilter
