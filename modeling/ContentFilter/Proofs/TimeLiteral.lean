import ContentFilter.Proofs.DateFormat
import ContentFilter.Proofs.WellFormed

/-!
# Points in time as filters write them

A date, a date with a time of day and one with an offset too are written by numbers with a fixed
count of digits; only the fraction of a second has as many as one likes. So the lexemes are those of
`TimeLiteral`, whose numbers may be anything their digits can say, and the calendar makes a point in
time of some of them: those that are possible.
-/

namespace ContentFilter

open Text ContentFilter.Expr

/-! ## Literals -/

/-- A date: `2020-02-29`. -/
structure DateLiteral where
  /-- The year. -/
  year : Fin 10000
  /-- The month. -/
  month : Fin 100
  /-- The day of the month. -/
  day : Fin 100

/-- The seconds of a time of day: `30.250`. -/
structure SecondsLiteral where
  /-- The second. -/
  second : Fin 100
  /-- The digits after the point, if there is one. -/
  fraction : Option Numeral.Digits

/-- A time of day: `10:15` or `10:15:30.250`. -/
structure ClockLiteral where
  /-- The hour. -/
  hour : Fin 100
  /-- The minute. -/
  minute : Fin 100
  /-- The seconds, if there are any. -/
  seconds : Option SecondsLiteral

/-- An offset. -/
inductive ZoneLiteral where
  /-- Universal time: `Z`. -/
  | utc
  /-- Ahead of it: `+02:00`. -/
  | ahead (hours minutes : Fin 100)
  /-- Behind it: `-02:00`. -/
  | behind (hours minutes : Fin 100)

/-- A point in time. -/
inductive TimeLiteral where
  /-- A date. -/
  | date (d : DateLiteral)
  /-- A date and a time of day. -/
  | localTime (d : DateLiteral) (c : ClockLiteral)
  /-- A date and a time of day with an offset. -/
  | offsetTime (d : DateLiteral) (c : ClockLiteral) (z : ZoneLiteral)

namespace DateLiteral

/-- The characters of the date. -/
def chars (d : DateLiteral) : List Char :=
  paddedDigits 4 d.year ++ '-' :: (paddedDigits 2 d.month ++ '-' :: paddedDigits 2 d.day)

/-- The date that is written. -/
def toDate (d : DateLiteral) : Date :=
  ⟨(d.year : ℕ), d.month, d.day⟩

/-- The calendar has the date. -/
def IsPossible (d : DateLiteral) : Prop :=
  1 ≤ (d.month : ℕ) ∧ (d.month : ℕ) ≤ 12 ∧
    1 ≤ (d.day : ℕ) ∧ (d.day : ℕ) ≤ Date.daysInMonth (d.year : ℕ) d.month

instance (d : DateLiteral) : Decidable d.IsPossible :=
  inferInstanceAs (Decidable (_ ∧ _))

end DateLiteral

namespace SecondsLiteral

/-- The characters of the seconds, with the colon before them. -/
def chars (s : SecondsLiteral) : List Char :=
  ':' :: (paddedDigits 2 s.second ++ Numeral.fractionText s.fraction)

/-- The digits after the point. -/
def places (s : SecondsLiteral) : List Char :=
  (s.fraction.map Numeral.Digits.chars).getD []

/-- The fraction in nanoseconds, cut off below them. -/
def nano (s : SecondsLiteral) : ℕ :=
  valueOf s.places * 10 ^ 9 / 10 ^ s.places.length

theorem nano_eq_zero {s : SecondsLiteral} (h : s.fraction = none) : s.nano = 0 := by
  have hplaces : s.places = [] := by
    rw [places, h]
    rfl
  rw [nano, hplaces]
  rfl

end SecondsLiteral

namespace ClockLiteral

/-- The characters of the seconds, if there are any. -/
def secondsChars : Option SecondsLiteral → List Char
  | none => []
  | some s => s.chars

/-- The characters of the time of day, with the letter before it. -/
def chars (c : ClockLiteral) : List Char :=
  'T' :: (paddedDigits 2 c.hour ++ ':' :: (paddedDigits 2 c.minute ++ secondsChars c.seconds))

/-- The second; without one the minute begins. -/
def second (c : ClockLiteral) : ℕ :=
  (c.seconds.map fun s => (s.second : ℕ)).getD 0

/-- The nanoseconds into the second. -/
def fraction (c : ClockLiteral) : ℕ :=
  (c.seconds.map SecondsLiteral.nano).getD 0

section Seconds

variable {c : ClockLiteral} {s : SecondsLiteral}

theorem second_eq_zero (h : c.seconds = none) : c.second = 0 := by
  rw [second, h]
  rfl

theorem second_eq (h : c.seconds = some s) : c.second = s.second := by
  rw [second, h]
  rfl

theorem fraction_eq_zero (h : c.seconds = none) : c.fraction = 0 := by
  rw [fraction, h]
  rfl

theorem fraction_eq (h : c.seconds = some s) : c.fraction = s.nano := by
  rw [fraction, h]
  rfl

end Seconds

/-- The second of the day. An inserted second is kept as nanoseconds beyond the one before it. -/
def secondOfDay (c : ClockLiteral) : ℕ :=
  c.hour * 3600 + c.minute * 60 + if c.second = 60 then 59 else c.second

/-- The nanoseconds into the second of the day. -/
def nano (c : ClockLiteral) : ℕ :=
  c.fraction + if c.second = 60 then 1000000000 else 0

/-- A clock can show the time; the second numbered 60 is an inserted one. -/
def IsPossible (c : ClockLiteral) : Prop :=
  (c.hour : ℕ) ≤ 23 ∧ (c.minute : ℕ) ≤ 59 ∧ c.second ≤ 60

instance (c : ClockLiteral) : Decidable c.IsPossible :=
  inferInstanceAs (Decidable (_ ∧ _))

end ClockLiteral

namespace ZoneLiteral

/-- The characters of hours and minutes. -/
def hourChars (hours minutes : Fin 100) : List Char :=
  paddedDigits 2 hours ++ ':' :: paddedDigits 2 minutes

/-- The characters of the offset. -/
def chars : ZoneLiteral → List Char
  | utc => ['Z']
  | ahead hours minutes => '+' :: hourChars hours minutes
  | behind hours minutes => '-' :: hourChars hours minutes

/-- The hours of the offset. -/
def hours : ZoneLiteral → ℕ
  | utc => 0
  | ahead hours _ | behind hours _ => hours

/-- The minutes beside them. -/
def minutes : ZoneLiteral → ℕ
  | utc => 0
  | ahead _ minutes | behind _ minutes => minutes

/-- The seconds by which local time is ahead. -/
def offset (z : ZoneLiteral) : Int :=
  match z with
  | utc | ahead _ _ => z.hours * 3600 + z.minutes * 60
  | behind _ _ => -(z.hours * 3600 + z.minutes * 60)

/-- The offset is less than a day. -/
def IsPossible (z : ZoneLiteral) : Prop :=
  z.hours ≤ 23 ∧ z.minutes ≤ 59

instance (z : ZoneLiteral) : Decidable z.IsPossible :=
  inferInstanceAs (Decidable (_ ∧ _))

end ZoneLiteral

namespace TimeLiteral

/-- The characters of the literal. -/
def chars : TimeLiteral → List Char
  | date d => d.chars
  | localTime d c => d.chars ++ c.chars
  | offsetTime d c z => d.chars ++ c.chars ++ z.chars

/-- The lexeme. -/
def text (t : TimeLiteral) : String :=
  String.ofList t.chars

/-- The node of the lexeme. -/
def expr (t : TimeLiteral) : Expr :=
  match t with
  | date _ => .date t.text
  | localTime _ _ => .localTime t.text
  | offsetTime _ _ _ => .offsetTime t.text

/-- There is such a point in time. -/
def IsPossible : TimeLiteral → Prop
  | date d => d.IsPossible
  | localTime d c => d.IsPossible ∧ c.IsPossible
  | offsetTime d c z => d.IsPossible ∧ c.IsPossible ∧ z.IsPossible

instance (t : TimeLiteral) : Decidable t.IsPossible := by
  cases t <;> exact inferInstanceAs (Decidable (_ ∧ _))

/-- The point in time: what is written, less the offset. Without an offset universal time is meant,
    and without a time of day the beginning of the day. -/
def instant : TimeLiteral → Instant
  | date d => .ofDate d.toDate 0 0
  | localTime d c => .ofDate d.toDate c.secondOfDay c.nano
  | offsetTime d c z => (Instant.ofDate d.toDate c.secondOfDay c.nano).addSeconds (-z.offset)

/-- The point in time, if there is one. -/
def instant? (t : TimeLiteral) : Option Instant :=
  if t.IsPossible then some t.instant else none

end TimeLiteral

/-! ## Shapes spelled out -/

namespace Expr

variable {s shape front back : List Char} {width : ℕ} {y : Char}

theorem fits_append_iff :
    Fits (front ++ back) s ↔ ∃ t u, s = t ++ u ∧ Fits front t ∧ Fits back u := by
  constructor
  · intro h
    have htake := List.forall₂_take front.length h
    have hdrop := List.forall₂_drop front.length h
    rw [List.take_left] at htake
    rw [List.drop_left] at hdrop
    exact ⟨_, _, (List.take_append_drop front.length s).symm, htake, hdrop⟩
  · rintro ⟨t, u, rfl, ht, hu⟩
    exact List.rel_append ht hu

theorem fits_cons_iff (hy : y ≠ '9') : Fits (y :: shape) s ↔ ∃ r, s = y :: r ∧ Fits shape r := by
  constructor
  · rintro (_ | ⟨hc, h⟩)
    rw [if_neg hy] at hc
    exact ⟨_, by rw [hc], h⟩
  · rintro ⟨r, rfl, h⟩
    exact .cons (by rw [if_neg hy]) h

theorem fits_replicate_iff : Fits (List.replicate width '9') s ↔
    s.length = width ∧ ∀ c ∈ s, c.isDigit = true := by
  induction width generalizing s with
  | zero =>
    rw [List.replicate_zero, Fits, List.forall₂_nil_left_iff, List.length_eq_zero_iff]
    exact ⟨fun h => ⟨h, by rw [h]; nofun⟩, fun h => h.1⟩
  | succ width ih =>
    cases s with
    | nil => exact ⟨nofun, nofun⟩
    | cons c s =>
      rw [List.replicate_succ, Fits, List.forall₂_cons, if_pos rfl, ← Fits, ih, List.length_cons,
        Nat.add_right_cancel_iff, List.forall_mem_cons]
      exact and_left_comm

/-- Digits fit if they are a number of so many digits. -/
theorem fits_digits_iff (hwidth : 0 < width) : Fits (List.replicate width '9') s ↔
    ∃ n : Fin (10 ^ width), s = paddedDigits width n := by
  rw [fits_replicate_iff]
  constructor
  · rintro ⟨rfl, h⟩
    exact ⟨⟨valueOf s, valueOf_lt h⟩,
      (paddedDigits_valueOf ⟨List.length_pos_iff.mp hwidth, h⟩).symm⟩
  · rintro ⟨n, rfl⟩
    exact ⟨length_paddedDigits hwidth n.isLt, fun _ => isDigit_of_mem_paddedDigits⟩

/-- Two digits after a separator. -/
theorem fits_field_iff (hy : y ≠ '9') : Fits (y :: '9' :: '9' :: shape) s ↔
    ∃ (n : Fin 100) (r : List Char), s = y :: (paddedDigits 2 n ++ r) ∧ Fits shape r := by
  rw [fits_cons_iff hy]
  constructor
  · rintro ⟨r, rfl, h⟩
    change Fits (List.replicate 2 '9' ++ shape) r at h
    obtain ⟨t, u, rfl, ht, hu⟩ := fits_append_iff.mp h
    obtain ⟨n, rfl⟩ := (fits_digits_iff (by decide)).mp ht
    exact ⟨n, u, rfl, hu⟩
  · rintro ⟨n, r, rfl, h⟩
    have hdigits : Fits (List.replicate 2 '9') (paddedDigits 2 n) :=
      (fits_digits_iff (by decide)).mpr ⟨n, rfl⟩
    exact ⟨_, rfl, fits_append_iff.mpr ⟨_, _, rfl, hdigits, h⟩⟩

theorem fits_lastField_iff (hy : y ≠ '9') :
    Fits [y, '9', '9'] s ↔ ∃ n : Fin 100, s = y :: paddedDigits 2 n := by
  rw [fits_field_iff hy]
  constructor
  · rintro ⟨n, _, rfl, hnil⟩
    rw [Fits, List.forall₂_nil_left_iff] at hnil
    exact ⟨n, by rw [hnil, List.append_nil]⟩
  · rintro ⟨n, rfl⟩
    exact ⟨n, [], by rw [List.append_nil], .nil⟩

/-- Two numbers of two digits with a colon between them. -/
theorem fits_hour_iff (hy : y ≠ '9') : Fits (y :: "99:99".toList) s ↔
    ∃ hour minute : Fin 100, s = y :: (paddedDigits 2 hour ++ ':' :: paddedDigits 2 minute) := by
  have hcolon : ':' ≠ '9' := by decide
  refine (fits_field_iff hy).trans ?_
  constructor
  · rintro ⟨hour, _, rfl, hrest⟩
    obtain ⟨minute, rfl⟩ := (fits_lastField_iff hcolon).mp hrest
    exact ⟨hour, minute, rfl⟩
  · rintro ⟨hour, minute, rfl⟩
    exact ⟨hour, _, rfl, (fits_lastField_iff hcolon).mpr ⟨minute, rfl⟩⟩

theorem isDate_iff : IsDate s ↔ ∃ d : DateLiteral, d.chars = s := by
  have hshape : "9999-99-99".toList =
      List.replicate 4 '9' ++ ['-', '9', '9', '-', '9', '9'] := rfl
  have hhyphen : '-' ≠ '9' := by decide
  rw [IsDate, hshape, fits_append_iff]
  constructor
  · rintro ⟨_, _, rfl, hyear, hmonth⟩
    obtain ⟨year, rfl⟩ := (fits_digits_iff (by decide)).mp hyear
    obtain ⟨month, _, rfl, hday⟩ := (fits_field_iff hhyphen).mp hmonth
    obtain ⟨day, rfl⟩ := (fits_lastField_iff hhyphen).mp hday
    exact ⟨⟨year, month, day⟩, rfl⟩
  · rintro ⟨d, rfl⟩
    have hday := (fits_lastField_iff hhyphen).mpr ⟨d.day, rfl⟩
    have hmonth := (fits_field_iff hhyphen).mpr ⟨d.month, _, rfl, hday⟩
    exact ⟨_, _, rfl, (fits_digits_iff (by decide)).mpr ⟨d.year, rfl⟩, hmonth⟩

theorem isSeconds_iff : IsSeconds s ↔ ∃ o, ClockLiteral.secondsChars o = s := by
  have hcolon : ':' ≠ '9' := by decide
  constructor
  · rintro (_ | ⟨h, hfraction⟩)
    · exact ⟨none, rfl⟩
    · obtain ⟨second, rfl⟩ := (fits_lastField_iff hcolon).mp h
      obtain ⟨fraction, rfl⟩ := Numeral.isFraction_iff.mp hfraction
      exact ⟨some ⟨second, fraction⟩, rfl⟩
  · rintro ⟨_ | s, rfl⟩
    · exact .none
    · exact .some ((fits_lastField_iff hcolon).mpr ⟨s.second, rfl⟩)
        (Numeral.isFraction_iff.mpr ⟨s.fraction, rfl⟩)

theorem isTime_iff : IsTime s ↔ ∃ c : ClockLiteral, c.chars = s := by
  have hletter : 'T' ≠ '9' := by decide
  constructor
  · rintro ⟨h, hseconds⟩
    obtain ⟨hour, minute, rfl⟩ := (fits_hour_iff hletter).mp h
    obtain ⟨seconds, rfl⟩ := isSeconds_iff.mp hseconds
    refine ⟨⟨hour, minute, seconds⟩, ?_⟩
    simp [ClockLiteral.chars]
  · rintro ⟨c, rfl⟩
    have htime : c.chars = 'T' :: (paddedDigits 2 c.hour ++ ':' :: paddedDigits 2 c.minute) ++
        ClockLiteral.secondsChars c.seconds := by
      simp [ClockLiteral.chars]
    rw [htime]
    exact .mk ((fits_hour_iff hletter).mpr ⟨c.hour, c.minute, rfl⟩)
      (isSeconds_iff.mpr ⟨c.seconds, rfl⟩)

theorem isLocalTime_iff : IsLocalTime s ↔
    ∃ (d : DateLiteral) (c : ClockLiteral), d.chars ++ c.chars = s := by
  constructor
  · rintro ⟨hdate, htime⟩
    obtain ⟨d, rfl⟩ := isDate_iff.mp hdate
    obtain ⟨c, rfl⟩ := isTime_iff.mp htime
    exact ⟨d, c, rfl⟩
  · rintro ⟨d, c, rfl⟩
    exact .mk (isDate_iff.mpr ⟨d, rfl⟩) (isTime_iff.mpr ⟨c, rfl⟩)

theorem isZone_iff : IsZone s ↔ ∃ z : ZoneLiteral, z.chars = s := by
  have hplus : '+' ≠ '9' := by decide
  have hminus : '-' ≠ '9' := by decide
  constructor
  · rintro (_ | h | h)
    · exact ⟨.utc, rfl⟩
    · obtain ⟨hours, minutes, rfl⟩ := (fits_hour_iff hplus).mp h
      exact ⟨.ahead hours minutes, rfl⟩
    · obtain ⟨hours, minutes, rfl⟩ := (fits_hour_iff hminus).mp h
      exact ⟨.behind hours minutes, rfl⟩
  · rintro ⟨_ | ⟨hours, minutes⟩ | ⟨hours, minutes⟩, rfl⟩
    · exact .utc
    · exact .ahead ((fits_hour_iff hplus).mpr ⟨hours, minutes, rfl⟩)
    · exact .behind ((fits_hour_iff hminus).mpr ⟨hours, minutes, rfl⟩)

theorem isOffsetTime_iff : IsOffsetTime s ↔
    ∃ (d : DateLiteral) (c : ClockLiteral) (z : ZoneLiteral),
      d.chars ++ c.chars ++ z.chars = s := by
  constructor
  · rintro ⟨htime, hzone⟩
    obtain ⟨d, c, rfl⟩ := isLocalTime_iff.mp htime
    obtain ⟨z, rfl⟩ := isZone_iff.mp hzone
    exact ⟨d, c, z, rfl⟩
  · rintro ⟨d, c, z, rfl⟩
    exact .mk (isLocalTime_iff.mpr ⟨d, c, rfl⟩) (isZone_iff.mpr ⟨z, rfl⟩)

/-! ## Lexemes in filters -/

/-- `x.OccursIn e`: the expression `x` is `e` or a part of it. -/
inductive OccursIn (x : Expr) : Expr → Prop where
  /-- It is the whole expression. -/
  | here : OccursIn x x
  /-- It is in an operand of a conjunction. -/
  | conjunct {e : Expr} {es : List Expr} (he : e ∈ es) (h : OccursIn x e) : OccursIn x (.all es)
  /-- It is in an operand of a disjunction. -/
  | disjunct {e : Expr} {es : List Expr} (he : e ∈ es) (h : OccursIn x e) : OccursIn x (.any es)
  /-- It is in the left operand of a comparison. -/
  | left {op : Operator} {left right : Expr} (h : OccursIn x left) :
      OccursIn x (.compare op left right)
  /-- It is in the right operand of a comparison. -/
  | right {op : Operator} {left right : Expr} (h : OccursIn x right) :
      OccursIn x (.compare op left right)
  /-- It is in an argument of a call. -/
  | argument {name : String} {e : Expr} {es : List Expr} (he : e ∈ es) (h : OccursIn x e) :
      OccursIn x (.call name es)

/-- The lexeme of a point in time. -/
def timeLexeme? : Expr → Option String
  | date lexeme | localTime lexeme | offsetTime lexeme => some lexeme
  | _ => none

section Occurrences

variable {x e : Expr} {l text : String}

/-- The parts of well-formed expressions are well-formed. -/
theorem OccursIn.wellFormed (hx : x.OccursIn e) :
    (e.IsFilter → x.IsFilter ∨ x.IsOperand) ∧ (e.IsOperand → x.IsOperand) := by
  induction hx with
  | here => exact ⟨.inl, id⟩
  | conjunct he _ ih =>
    refine ⟨fun h => ?_, nofun⟩
    cases h with
    | all _ hes => exact ih.1 (hes _ he)
  | disjunct he _ ih =>
    refine ⟨fun h => ?_, nofun⟩
    cases h with
    | any _ hes => exact ih.1 (hes _ he)
  | left _ ih =>
    refine ⟨fun h => ?_, nofun⟩
    cases h with
    | compare hleft => exact .inr (ih.2 hleft)
  | right _ ih =>
    refine ⟨fun h => ?_, nofun⟩
    cases h with
    | compare _ hright => exact .inr (ih.2 hright)
  | argument he _ ih =>
    refine ⟨nofun, fun h => ?_⟩
    cases h with
    | call _ hes => exact ih.2 (hes _ he)

theorem IsOperand.exists_timeLiteral (h : x.IsOperand) (hl : x.timeLexeme? = some l) :
    ∃ t : TimeLiteral, t.expr = x ∧ t.text = l := by
  cases h with
  | date h =>
    cases hl
    obtain ⟨d, hd⟩ := isDate_iff.mp h
    have htext : (TimeLiteral.date d).text = l := by
      rw [TimeLiteral.text, TimeLiteral.chars, hd, String.ofList_toList]
    exact ⟨.date d, congrArg Expr.date htext, htext⟩
  | localTime h =>
    cases hl
    obtain ⟨d, c, hs⟩ := isLocalTime_iff.mp h
    have htext : (TimeLiteral.localTime d c).text = l := by
      rw [TimeLiteral.text, TimeLiteral.chars, hs, String.ofList_toList]
    exact ⟨.localTime d c, congrArg Expr.localTime htext, htext⟩
  | offsetTime h =>
    cases hl
    obtain ⟨d, c, z, hs⟩ := isOffsetTime_iff.mp h
    have htext : (TimeLiteral.offsetTime d c z).text = l := by
      rw [TimeLiteral.text, TimeLiteral.chars, hs, String.ofList_toList]
    exact ⟨.offsetTime d c z, congrArg Expr.offsetTime htext, htext⟩
  | _ => cases hl

/-- The lexemes of points in time in a filter are those of the literals. -/
theorem exists_timeLiteral_of_parse (h : parse text = .ok e) (hx : x.OccursIn e)
    (hl : x.timeLexeme? = some l) : ∃ t : TimeLiteral, t.expr = x ∧ t.text = l := by
  rcases hx.wellFormed.1 (isFilter_of_parse h) with hfilter | hoperand
  · cases hfilter <;> cases hl
  · exact hoperand.exists_timeLiteral hl

end Occurrences

end Expr

namespace TimeLiteral

/-- Each literal is an operand that filters may have. -/
theorem isOperand_expr (t : TimeLiteral) : t.expr.IsOperand := by
  cases t with
  | date d => exact .date (isDate_iff.mpr ⟨d, String.toList_ofList.symm⟩)
  | localTime d c => exact .localTime (isLocalTime_iff.mpr ⟨d, c, String.toList_ofList.symm⟩)
  | offsetTime d c z =>
    exact .offsetTime (isOffsetTime_iff.mpr ⟨d, c, z, String.toList_ofList.symm⟩)

end TimeLiteral

end ContentFilter
