import ContentFilter.Proofs.TimeReading

/-!
# Three ways to write a point in time

A lexeme of a point in time may stand in a filter as it is, as the text that `date` is called with,
or as a text that is compared with others. The first is read by the reader for its kind. The others
are read by whatever reader takes them: numbers come first, then date-times with an offset, local
date-times and dates. But no lexeme is a number, and none is taken by a reader for another kind: it
ends too early for that, or it goes on where the format does not. So all three are one point in
time, or none of them is one.
-/

namespace ContentFilter

open Text ContentFilter.Expr

/-! ## The characters of literals -/

/-- A digit or one of the signs and separators of points in time. -/
def IsClockChar (c : Char) : Prop :=
  c.isDigit = true ∨ c ∈ ['+', '-', '.', ':', 'T', 'Z']

section Characters

variable {a : Char} {s : List Char}

theorem isClockChar_of_mem_paddedDigits {width n : ℕ} (ha : a ∈ paddedDigits width n) :
    IsClockChar a :=
  .inl (isDigit_of_mem_paddedDigits ha)

theorem isBlank_of_isClockChar (h : IsClockChar a) : isBlank a = false := by
  rcases h with h | h
  · exact isBlank_of_isDigit h
  · have hsymbols : ∀ c ∈ ['+', '-', '.', ':', 'T', 'Z'], isBlank c = false := by decide
    exact hsymbols a h

/-- No power of ten begins with one of them. -/
theorem not_isPower_of_isClockChar (h : IsClockChar a) : (a == 'e' || a == 'E') = false := by
  rcases h with h | h
  · rw [Bool.or_eq_false_iff, beq_eq_false_iff_ne, beq_eq_false_iff_ne]
    constructor <;> rintro rfl <;> cases h
  · have hsymbols : ∀ c ∈ ['+', '-', '.', ':', 'T', 'Z'], (c == 'e' || c == 'E') = false := by
      decide
    exact hsymbols a h

theorem trimBlanks_of_isClockChar (h : ∀ a ∈ s, IsClockChar a) : trimBlanks s = s :=
  Numeral.trimBlanks_of_forall fun a ha => isBlank_of_isClockChar (h a ha)

namespace TimeLiteral

theorem isClockChar_of_mem_date {d : DateLiteral} (ha : a ∈ d.chars) : IsClockChar a := by
  simp only [DateLiteral.chars, List.mem_append, List.mem_cons] at ha
  rcases ha with hyear | rfl | hmonth | rfl | hday
  · exact isClockChar_of_mem_paddedDigits hyear
  · exact .inr (by decide)
  · exact isClockChar_of_mem_paddedDigits hmonth
  · exact .inr (by decide)
  · exact isClockChar_of_mem_paddedDigits hday

theorem isClockChar_of_mem_seconds {o : Option SecondsLiteral}
    (ha : a ∈ ClockLiteral.secondsChars o) : IsClockChar a := by
  cases o with
  | none => cases ha
  | some s =>
    rw [ClockLiteral.secondsChars, SecondsLiteral.chars, List.mem_cons, List.mem_append] at ha
    rcases ha with rfl | hsecond | hfraction
    · exact .inr (by decide)
    · exact isClockChar_of_mem_paddedDigits hsecond
    · cases hs : s.fraction with
      | none =>
        rw [hs] at hfraction
        cases hfraction
      | some ds =>
        rw [hs] at hfraction
        rcases List.mem_cons.mp hfraction with rfl | hdigit
        · exact .inr (by decide)
        · exact .inl (ds.isDigits.isDigit a hdigit)

theorem isClockChar_of_mem_clock {c : ClockLiteral} (ha : a ∈ c.chars) : IsClockChar a := by
  simp only [ClockLiteral.chars, List.mem_cons, List.mem_append] at ha
  rcases ha with rfl | hhour | rfl | hminute | hseconds
  · exact .inr (by decide)
  · exact isClockChar_of_mem_paddedDigits hhour
  · exact .inr (by decide)
  · exact isClockChar_of_mem_paddedDigits hminute
  · exact isClockChar_of_mem_seconds hseconds

theorem isClockChar_of_mem_zone {z : ZoneLiteral} (ha : a ∈ z.chars) : IsClockChar a := by
  have hhours : ∀ hours minutes, a ∈ ZoneLiteral.hourChars hours minutes → IsClockChar a := by
    intro hours minutes ha
    simp only [ZoneLiteral.hourChars, List.mem_append, List.mem_cons] at ha
    rcases ha with hhours | rfl | hminutes
    · exact isClockChar_of_mem_paddedDigits hhours
    · exact .inr (by decide)
    · exact isClockChar_of_mem_paddedDigits hminutes
  cases z with
  | utc =>
    rw [ZoneLiteral.chars, List.mem_singleton] at ha
    exact .inr (by rw [ha]; decide)
  | ahead hours minutes =>
    rcases List.mem_cons.mp ha with rfl | ha
    · exact .inr (by decide)
    · exact hhours hours minutes ha
  | behind hours minutes =>
    rcases List.mem_cons.mp ha with rfl | ha
    · exact .inr (by decide)
    · exact hhours hours minutes ha

theorem isClockChar_of_mem_chars {t : TimeLiteral} (ha : a ∈ t.chars) : IsClockChar a := by
  cases t with
  | date d => exact isClockChar_of_mem_date ha
  | localTime d c =>
    rcases List.mem_append.mp ha with ha | ha
    · exact isClockChar_of_mem_date ha
    · exact isClockChar_of_mem_clock ha
  | offsetTime d c z =>
    rw [chars, List.append_assoc, List.mem_append, List.mem_append] at ha
    rcases ha with ha | ha | ha
    · exact isClockChar_of_mem_date ha
    · exact isClockChar_of_mem_clock ha
    · exact isClockChar_of_mem_zone ha

end TimeLiteral

end Characters

/-! ## No lexeme is a number -/

section NoNumber

variable {ds r s : List Char}

theorem readDigits?_of_hyphen (ds r : List Char) :
    Decimal.readDigits? (ds ++ '-' :: r) = none := by
  have hmem : '-' ∈ (ds ++ '-' :: r).filter (· ≠ '_') := List.mem_filter.mpr ⟨by simp, by decide⟩
  unfold Decimal.readDigits?
  split
  · rfl
  · rw [readNat?, if_neg]
    rintro ⟨-, hall⟩
    exact absurd (List.all_eq_true.mp hall '-' hmem) (by decide)

/-- A hyphen behind digits belongs to no integer. -/
theorem readInteger?_of_hyphen (hds : IsDigits ds) (r : List Char) :
    Decimal.readInteger? (ds ++ '-' :: r) = none := by
  have hread := readDigits?_of_hyphen ds r
  have hstart := startsWith_of_isDigits hds ('-' :: r)
  unfold Decimal.readInteger?
  split
  · rename_i heq
    rw [heq] at hstart
    cases hstart
  · rename_i heq
    rw [heq] at hstart
    cases hstart
  · rw [hread]
    rfl

theorem readInt?_of_hyphen (hds : IsDigits ds) (r : List Char) :
    readInt? (ds ++ '-' :: r) = none := by
  have hread : readNat? (ds ++ '-' :: r) = none := by
    rw [readNat?, if_neg]
    rintro ⟨-, hall⟩
    exact absurd (List.all_eq_true.mp hall '-' (by simp)) (by decide)
  have hstart := startsWith_of_isDigits hds ('-' :: r)
  unfold readInt?
  split
  · rename_i heq
    rw [heq] at hstart
    cases hstart
  · rename_i heq
    rw [heq] at hstart
    cases hstart
  · rw [hread]
    rfl

theorem exists_splitAtFirst_point (hds : IsDigits ds) (r : List Char) : ∃ front back,
    Decimal.splitAtFirst (· == '.') (ds ++ '-' :: r) = (ds ++ '-' :: front, back) := by
  have hkept : ∀ a ∈ ds, (!(a == '.')) = true := by
    intro a ha
    rw [Bool.not_eq_true', beq_eq_false_iff_ne]
    rintro rfl
    cases hds.isDigit _ ha
  rw [Decimal.splitAtFirst, List.takeWhile_append_of_pos hkept, List.takeWhile_cons_of_pos (by rfl)]
  exact ⟨_, _, rfl⟩

theorem ofChars?_of_hyphen (hds : IsDigits ds) (hr : ∀ a ∈ r, IsClockChar a) :
    Decimal.ofChars? (ds ++ '-' :: r) = none := by
  have hpower : ∀ a ∈ ds ++ '-' :: r, (a == 'e' || a == 'E') = false := by
    intro a ha
    refine not_isPower_of_isClockChar ?_
    rcases List.mem_append.mp ha with ha | ha
    · exact .inl (hds.isDigit a ha)
    · rcases List.mem_cons.mp ha with rfl | ha
      · exact .inr (by decide)
      · exact hr a ha
  -- the hyphen is in the part before the point, and that part is read together with the places
  obtain ⟨front, back, hsplit⟩ := exists_splitAtFirst_point hds r
  have hread := readInteger?_of_hyphen hds (front ++ back.getD [])
  rw [← List.cons_append, ← List.append_assoc] at hread
  simp only [Decimal.ofChars?, Numeral.splitAtFirst_eq_none hpower, hsplit, hread]
  rfl

/-- Every lexeme has a hyphen behind its year. -/
theorem TimeLiteral.exists_chars_eq (t : TimeLiteral) :
    ∃ ds r, IsDigits ds ∧ t.chars = ds ++ '-' :: r := by
  have hyear : ∀ d : DateLiteral, ∃ ds r, IsDigits ds ∧ d.chars = ds ++ '-' :: r :=
    fun d => ⟨_, _, isDigits_paddedDigits 4 d.year, rfl⟩
  cases t with
  | date d => exact hyear d
  | localTime d c =>
    obtain ⟨ds, r, hds, hd⟩ := hyear d
    exact ⟨ds, r ++ c.chars, hds, by rw [chars, hd, List.append_assoc, List.cons_append]⟩
  | offsetTime d c z =>
    obtain ⟨ds, r, hds, hd⟩ := hyear d
    refine ⟨ds, r ++ (c.chars ++ z.chars), hds, ?_⟩
    rw [chars, hd, List.append_assoc, List.append_assoc, List.cons_append]

theorem TimeLiteral.trimBlanks_chars (t : TimeLiteral) : trimBlanks t.chars = t.chars :=
  trimBlanks_of_isClockChar fun _ => isClockChar_of_mem_chars

theorem TimeLiteral.readNumber?_text (t : TimeLiteral) : Value.readNumber? t.text = none := by
  obtain ⟨ds, r, hds, ht⟩ := t.exists_chars_eq
  have hr : ∀ a ∈ r, IsClockChar a := by
    intro a ha
    exact isClockChar_of_mem_chars (t := t) (by rw [ht]; simp [ha])
  rw [Value.readNumber?, text, String.toList_ofList, t.trimBlanks_chars, ht,
    readInt?_of_hyphen hds, ofChars?_of_hyphen hds hr]
  rfl

end NoNumber

/-! ## No lexeme is of another kind -/

namespace Calendar

variable (d : DateLiteral) (c : ClockLiteral) (z : ZoneLiteral)

/-- Behind a date there is no time of day in the format. -/
theorem readDate?_of_time (r : List Char) : readDate? (d.chars ++ 'T' :: r) = none := by
  rw [readDate?, (enters_isoDate (t := 'T' :: r) d (by rfl)).readFields?_eq_none]
  rfl

theorem readLocalTime?_date : readLocalTime? (TimeLiteral.date d).chars = none := by
  have hdate := enters_isoDate (t := []) d (by rfl)
  have hminutes := enters_date .lenient .lenient .lenient d []
  rw [List.append_nil] at hdate hminutes
  have hiso : readFields? isoLocal d.chars = none := hdate.readFields?_append fun _ => rfl
  have hisoMinutes : readFields? isoLocalMinutes d.chars = none :=
    hminutes.readFields?_append fun _ => rfl
  rw [readLocalTime?, TimeLiteral.chars, hiso, hisoMinutes]
  rfl

theorem readOffsetTime?_date : readOffsetTime? (TimeLiteral.date d).chars = none := by
  have hstrict := enters_date .strict .strict .strict d []
  have hminutes := enters_date .lenient .lenient .lenient d []
  rw [List.append_nil] at hstrict hminutes
  have hrfc : readFields? rfc3339 d.chars = none := hstrict.readFields?_append fun _ => rfl
  have hiso : readFields? isoOffsetMinutes d.chars = none :=
    hminutes.readFields?_append fun _ => rfl
  have hspell : spellZulu d.chars = d.chars := by
    have hchars : d.chars = paddedDigits 4 d.year ++ '-' :: (paddedDigits 2 d.month ++ ['-']) ++
        paddedDigits 2 d.day := by
      simp [DateLiteral.chars]
    rw [hchars, spellZulu_append_digits _ (isDigits_paddedDigits 2 d.day)]
  rw [readOffsetTime?, readRfc3339?, TimeLiteral.chars, hspell, hrfc, hiso]
  rfl

theorem spellZulu_localTime :
    spellZulu (TimeLiteral.localTime d c).chars = (TimeLiteral.localTime d c).chars := by
  have hends : ∃ front ds, IsDigits ds ∧ (TimeLiteral.localTime d c).chars = front ++ ds := by
    rw [chars_localTime]
    cases c.seconds with
    | none =>
      refine ⟨d.chars ++ 'T' :: (paddedDigits 2 c.hour ++ [':']), _,
        isDigits_paddedDigits 2 c.minute, ?_⟩
      simp [headChars, ClockLiteral.secondsChars]
    | some s =>
      cases hs : s.fraction with
      | none =>
        refine ⟨headChars d c [':'], _, isDigits_paddedDigits 2 s.second, ?_⟩
        simp [headChars, ClockLiteral.secondsChars, SecondsLiteral.chars, hs, Numeral.fractionText]
      | some ds =>
        refine ⟨headChars d c (':' :: (paddedDigits 2 s.second ++ ['.'])), _, ds.isDigits, ?_⟩
        simp [headChars, ClockLiteral.secondsChars, SecondsLiteral.chars, hs, Numeral.fractionText]
  obtain ⟨front, ds, hds, hchars⟩ := hends
  rw [hchars, spellZulu_append_digits front hds]

theorem readFields?_rfc3339_localTime :
    readFields? rfc3339 (TimeLiteral.localTime d c).chars = none := by
  rw [chars_localTime]
  cases c.seconds with
  | none => exact (enters_strictHead d c []).readFields?_append fun _ => rfl
  | some s =>
    have hseconds := enters_seconds (t := []) .strict s (by rfl) nofun
    rw [List.append_nil] at hseconds
    rw [rfc3339_eq, ← List.append_assoc]
    exact ((enters_strictHead d c s.chars).append hseconds).readFields?_append fun _ => rfl

theorem readFields?_isoOffsetMinutes_localTime :
    readFields? isoOffsetMinutes (TimeLiteral.localTime d c).chars = none := by
  rw [chars_localTime]
  refine (enters_isoLocalMinutes d c _).readFields?_append ?_
  cases c.seconds <;> exact fun _ => rfl

/-- A local date-time ends before the offset. -/
theorem readOffsetTime?_localTime : readOffsetTime? (TimeLiteral.localTime d c).chars = none := by
  rw [readOffsetTime?, readRfc3339?, spellZulu_localTime, readFields?_rfc3339_localTime,
    readFields?_isoOffsetMinutes_localTime]
  rfl

theorem exists_zone_eq : ∃ a r, z.chars = a :: r := by
  cases z with
  | utc | ahead | behind => exact ⟨_, _, rfl⟩

theorem readFields?_isoLocal_offsetTime :
    readFields? isoLocal (TimeLiteral.offsetTime d c z).chars = none := by
  rw [chars_offsetTime]
  cases c.seconds with
  | none =>
    -- the sign stands where the colon should
    refine (enters_isoHead d c z.chars).readFields?_append fun f => ?_
    cases z <;> rfl
  | some s =>
    have hblank : startsWith isBlank z.chars = false := by
      cases z <;> rfl
    have h := (enters_isoHead d c (s.chars ++ z.chars)).append <| .blank (by rfl) <|
      (enters_seconds .lenient s (startsWith_isDigit_zone z) (zone_ne_point z)).append <|
      .blank hblank <| enters_nil z.chars
    obtain ⟨a, r, hz⟩ := exists_zone_eq z
    rw [hz] at h
    rw [isoLocal_eq, ClockLiteral.secondsChars, hz]
    exact h.readFields?_eq_none

theorem readFields?_isoLocalMinutes_offsetTime :
    readFields? isoLocalMinutes (TimeLiteral.offsetTime d c z).chars = none := by
  obtain ⟨a, r, hz⟩ := exists_zone_eq z
  have hrest : ∃ a r, ClockLiteral.secondsChars c.seconds ++ z.chars = a :: r := by
    cases c.seconds with
    | none => exact ⟨a, r, hz⟩
    | some s => exact ⟨_, _, rfl⟩
  obtain ⟨a, r, hrest⟩ := hrest
  rw [chars_offsetTime, hrest]
  exact (enters_isoLocalMinutes d c _).readFields?_eq_none

/-- The offset is left over by the formats of local date-times. -/
theorem readLocalTime?_offsetTime :
    readLocalTime? (TimeLiteral.offsetTime d c z).chars = none := by
  rw [readLocalTime?, readFields?_isoLocal_offsetTime, readFields?_isoLocalMinutes_offsetTime]
  rfl

/-- A literal is read by the reader for its kind, and by no other one. -/
theorem readInstant?_literal (t : TimeLiteral) : readInstant? t.chars = t.instant? := by
  rw [readInstant?, t.trimBlanks_chars]
  cases t with
  | date d =>
    simp only [readOffsetTime?_date, readLocalTime?_date, readDate?_literal]
  | localTime d c =>
    have hdate : readDate? (TimeLiteral.localTime d c).chars = none := readDate?_of_time d _
    simp only [readOffsetTime?_localTime, readLocalTime?_literal, hdate]
    cases (TimeLiteral.localTime d c).instant? <;> rfl
  | offsetTime d c z =>
    have hdate : readDate? (TimeLiteral.offsetTime d c z).chars = none := by
      rw [TimeLiteral.chars, List.append_assoc]
      exact readDate?_of_time d _
    simp only [readOffsetTime?_literal, readLocalTime?_offsetTime, hdate]
    cases (TimeLiteral.offsetTime d c z).instant? <;> rfl

end Calendar

/-! ## Texts in filters -/

namespace Expr

theorem escaped_eq_self {q : Char} {cs : List Char} (h : ∀ a ∈ cs, a ≠ q ∧ a ≠ '\\') :
    escaped q cs = cs := by
  induction cs with
  | nil => rfl
  | cons a cs ih =>
    obtain ⟨ha, hcs⟩ := List.forall_mem_cons.mp h
    have hkept : ¬ (a = q ∨ a = '\\') := not_or.mpr ha
    rw [escaped, List.flatMap_cons, if_neg hkept]
    exact congrArg (a :: ·) (ih hcs)

theorem renders_timeText (t : TimeLiteral) :
    Renders (.operand (.text t.text)) ('\'' :: (t.chars ++ ['\''])) false := by
  have hplain : ∀ a ∈ t.chars, a ≠ '\'' ∧ a ≠ '\\' := by
    intro a ha
    rcases TimeLiteral.isClockChar_of_mem_chars ha with h | h
    · constructor <;> rintro rfl <;> cases h
    · have hsymbols : ∀ c ∈ ['+', '-', '.', ':', 'T', 'Z'], c ≠ '\'' ∧ c ≠ '\\' := by decide
      exact hsymbols a h
  have h := Renders.text (s := t.text) (q := '\'') (.inl rfl)
  rwa [TimeLiteral.text, String.toList_ofList, escaped_eq_self hplain] at h

variable {path symbol : String} {op : Operator}

/-- A literal in quotes is a text. -/
theorem parse_timeText (hpath : IsPath path.toList) (hsymbol : symbol ∈ op.symbols)
    (t : TimeLiteral) : parse (testText path symbol ("'" ++ t.text ++ "'")) =
      .ok (.compare op (.property path) (.text t.text)) := by
  have hparse := parse_testText hpath hsymbol (.text t.text) id (renders_timeText t)
  have htext : String.ofList ('\'' :: (t.chars ++ ['\''])) = "'" ++ t.text ++ "'" := by
    rw [← String.toList_inj]
    simp [TimeLiteral.text]
  rwa [htext] at hparse

/-- The call of a function with the literal in quotes. -/
theorem parse_timeCall (hpath : IsPath path.toList) (hsymbol : symbol ∈ op.symbols)
    (t : TimeLiteral) : parse (testText path symbol ("date('" ++ t.text ++ "')")) =
      .ok (.compare op (.property path) (.call "date" [.text t.text])) := by
  have hnone : IsGap [] := by decide
  have hname : IsFunctionName "date".toList := ⟨⟨by decide, by decide⟩, by decide, by decide⟩
  have hcall : Renders (.operand (.call "date" [.text t.text])) _ false :=
    .call hnone (.first hnone (renders_timeText t) (.close hnone))
  have hoperand : (Expr.call "date" [.text t.text]).IsOperand :=
    .call hname (List.forall_mem_singleton.mpr (.text t.text))
  have hgo : ¬ (InAnyCase "not" "date".toList ∨ InAnyCase "any" "date".toList) := by decide
  have hparse := parse_testText hpath hsymbol hoperand hgo hcall
  have htext : String.ofList ("date".toList ++ ([] ++ '(' :: ([] ++
      ('\'' :: (t.chars ++ ['\'']) ++ ([] ++ [')']))))) = "date('" ++ t.text ++ "')" := by
    rw [← String.toList_inj]
    simp [TimeLiteral.text]
  rwa [htext] at hparse

end Expr

/-! ## One point in time -/

theorem Calendar.readInstant?_text (t : TimeLiteral) : readInstant? t.text.toList = t.instant? := by
  rw [TimeLiteral.text, String.toList_ofList, readInstant?_literal]

/-- The text counts as the point in time wherever values are ordered. -/
theorem Value.ordinal?_timeLiteral (t : TimeLiteral) :
    (text t.text).ordinal? = t.instant?.map .instant := by
  rw [ordinal?, t.readNumber?_text, Calendar.readInstant?_text]

theorem Context.compileValue_date {c : Context} (hc : c.registry.find? "date" = some Function.date)
    (t : TimeLiteral) :
    c.compileValue (.call "date" [.text t.text]) = timeLiteral t.instant? := by
  have hcall : c.compileValue (.call "date" [.text t.text]) =
      .constant (Function.timeOf (.text t.text) none) := by
    simp only [compileValue, compileValues, callProvider, hc]
    rfl
  have htime : Function.timeOf (.text t.text) none =
      (t.instant?.map Value.instant).getD .absent := by
    simp only [Function.timeOf, Value.toInstant?, Value.toText?, Function.readTime?,
      Option.bind_some, Calendar.readInstant?_text]
    cases t.instant? <;> rfl
  rw [hcall, htime, timeLiteral]

/-- A point in time may be written as it is, as the text that `date` is called with, or as a text
    that is compared. All three are the same point in time; or the first two have no value, and the
    text is ordered against none. -/
theorem Context.timeLiterals_agree :
    (∀ (path symbol : String) (op : Operator) (t : TimeLiteral), IsPath path.toList →
      symbol ∈ op.symbols →
      Expr.parse (testText path symbol t.text) = .ok (.compare op (.property path) t.expr) ∧
      Expr.parse (testText path symbol ("date('" ++ t.text ++ "')")) =
        .ok (.compare op (.property path) (.call "date" [.text t.text])) ∧
      Expr.parse (testText path symbol ("'" ++ t.text ++ "'")) =
        .ok (.compare op (.property path) (.text t.text))) ∧
    ∀ (c : Context) (text : String) (e x : Expr) (lexeme : String),
      c.registry.find? "date" = some Function.date → Expr.parse text = .ok e → x.OccursIn e →
      x.timeLexeme? = some lexeme →
      (∃ i, c.compileValue x = .constant (.instant i) ∧
        c.compileValue (.call "date" [.text lexeme]) = .constant (.instant i) ∧
        ∀ v, (Value.text lexeme).compare? v = (Value.instant i).compare? v ∧
          v.compare? (.text lexeme) = v.compare? (.instant i)) ∨
      (c.compileValue x = .constant .absent ∧
        c.compileValue (.call "date" [.text lexeme]) = .constant .absent ∧
        ∀ v, (Value.text lexeme).compare? v = none ∧ v.compare? (.text lexeme) = none) := by
  refine ⟨fun path symbol op t hpath hsymbol => ⟨parse_timeLiteral hpath hsymbol t,
    parse_timeCall hpath hsymbol t, parse_timeText hpath hsymbol t⟩, ?_⟩
  intro c text e x lexeme hc hparse hx hlexeme
  obtain ⟨t, rfl, rfl⟩ := exists_timeLiteral_of_parse hparse hx hlexeme
  -- all three depend on the literal by the point in time that it is read as, and on nothing else
  have hordinal := Value.ordinal?_timeLiteral t
  rw [c.compileValue_timeLiteral t, compileValue_date hc t]
  cases hi : t.instant? with
  | some i =>
    rw [hi] at hordinal
    have hsame : (Value.text t.text).ordinal? = (Value.instant i).ordinal? := hordinal
    refine .inl ⟨i, rfl, rfl, fun v => ?_⟩
    rw [Value.compare?, Value.compare?, Value.compare?, Value.compare?, hsame]
    exact ⟨rfl, rfl⟩
  | none =>
    rw [hi] at hordinal
    refine .inr ⟨rfl, rfl, fun v => ?_⟩
    rw [Value.compare?, Value.compare?, hordinal]
    cases v.ordinal? <;> exact ⟨rfl, rfl⟩

/-- The 29th of February in a year that is none of the leap years, and in one that is. -/
theorem Context.timeLiterals_agree_february :
    let t := TimeLiteral.date ⟨1900, 2, 29⟩
    let u := TimeLiteral.date ⟨2000, 2, 29⟩
    let e := Expr.compare .less (.property "created") t.expr
    let f := Expr.compare .less (.property "created") u.expr
    IsPath "created".toList ∧ "<" ∈ Operator.less.symbols ∧
    standard.registry.find? "date" = some Function.date ∧
    (Expr.parse "[created] < 1900-02-29" = .ok e ∧
      Expr.parse "[created] < date('1900-02-29')" =
        .ok (.compare .less (.property "created") (.call "date" [.text "1900-02-29"])) ∧
      t.expr.OccursIn e ∧ t.expr.timeLexeme? = some "1900-02-29" ∧
      standard.compileValue t.expr = .constant .absent ∧
      standard.compileValue (.call "date" [.text "1900-02-29"]) = .constant .absent ∧
      ∀ v : Value, v.compare? (.text "1900-02-29") = none) ∧
    Expr.parse "[created] < 2000-02-29" = .ok f ∧
    Expr.parse "[created] < date('2000-02-29')" =
      .ok (.compare .less (.property "created") (.call "date" [.text "2000-02-29"])) ∧
    u.expr.OccursIn f ∧ u.expr.timeLexeme? = some "2000-02-29" ∧
    standard.compileValue u.expr = .constant (.instant ⟨951782400, 0⟩) ∧
    standard.compileValue (.call "date" [.text "2000-02-29"]) =
      .constant (.instant ⟨951782400, 0⟩) ∧
    ∀ v : Value, v.compare? (.text "2000-02-29") = v.compare? (.instant ⟨951782400, 0⟩) := by
  intro t u e f
  have hpath : IsPath "created".toList := ⟨by decide, by decide, by decide⟩
  have hsymbol : "<" ∈ Operator.less.symbols := by decide
  have hdate : standard.registry.find? "date" = some Function.date := rfl
  have ht : t.expr.OccursIn e := .right .here
  have hu : u.expr.OccursIn f := .right .here
  obtain ⟨hparse, hagree⟩ := timeLiterals_agree
  obtain ⟨htparse, htcall, -⟩ := hparse "created" "<" .less t hpath hsymbol
  obtain ⟨huparse, hucall, -⟩ := hparse "created" "<" .less u hpath hsymbol
  refine ⟨hpath, hsymbol, hdate, ⟨htparse, htcall, ht, rfl, ?_⟩, huparse, hucall, hu, rfl, ?_⟩
  · rcases hagree standard _ e t.expr _ hdate htparse ht rfl with
      ⟨i, hi, -⟩ | ⟨hliteral, habsent, hnone⟩
    · have hnot : t.instant? = none := if_neg (by decide)
      rw [standard.compileValue_timeLiteral t, hnot] at hi
      cases hi
    · exact ⟨hliteral, habsent, fun v => (hnone v).2⟩
  · have hinstant : u.instant? = some ⟨951782400, 0⟩ := by
      rw [TimeLiteral.instant?, if_pos (by decide)]
      rfl
    rcases hagree standard _ f u.expr _ hdate huparse hu rfl with
      ⟨i, hi, hcall, hsame⟩ | ⟨habsent, -⟩
    · obtain rfl : i = ⟨951782400, 0⟩ := by
        rw [standard.compileValue_timeLiteral u, hinstant] at hi
        cases hi
        rfl
      exact ⟨hi, hcall, fun v => (hsame v).2⟩
    · rw [standard.compileValue_timeLiteral u, hinstant] at habsent
      cases habsent

end ContentFilter
