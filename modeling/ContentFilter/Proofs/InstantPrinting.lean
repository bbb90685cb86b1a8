import ContentFilter.Proofs.ClockTime
import ContentFilter.Proofs.TimeAgreement
import ContentFilter.Proofs.ZuluText

/-!
# Written instants read back

The text of an instant is a literal with the offset `Z`, as long as its year has four digits, and so
it is read back. A year with a sign does not fit: the strict format does not begin with one, and the
lenient formats stop before the seconds or before the `Z`. So an instant is read back from its text,
or nothing is. The exception is an instant that holds an inserted second within a minute: its text
is that of the second after, and is read as that one.
-/

namespace ContentFilter

open Text ContentFilter.Expr

namespace Instant

variable {i j : Instant} {c : Char}

/-! ## The literal of an instant -/

/-- A fraction that is written at all is a point and up to nine digits. -/
theorem exists_fractionChars {nano : ℕ} (h : nano < 1000000000) (hnano : nano ≠ 0) :
    ∃ width n, 0 < width ∧ width ≤ 9 ∧ n < 10 ^ width ∧ n * 10 ^ (9 - width) = nano ∧
      fractionChars nano = '.' :: paddedDigits width n := by
  rw [fractionChars, if_neg hnano]
  by_cases hmilli : nano % 1000000 = 0
  · rw [if_pos hmilli]
    exact ⟨3, nano / 1000000, by omega, by omega, by omega, by omega, rfl⟩
  · rw [if_neg hmilli]
    by_cases hmicro : nano % 1000 = 0
    · rw [if_pos hmicro]
      exact ⟨6, nano / 1000, by omega, by omega, by omega, by omega, rfl⟩
    · rw [if_neg hmicro]
      exact ⟨9, nano, by omega, by omega, h, by omega, rfl⟩

theorem exists_seconds (second : Fin 100) {nano : ℕ} (h : nano < 1000000000) :
    ∃ s : SecondsLiteral, s.second = second ∧ s.nano = nano ∧
      s.chars = ':' :: (paddedDigits 2 second ++ fractionChars nano) := by
  by_cases hnano : nano = 0
  · refine ⟨⟨second, none⟩, rfl, ?_, ?_⟩
    · rw [SecondsLiteral.nano_eq_zero rfl, hnano]
    · rw [hnano]
      rfl
  · obtain ⟨width, n, hwidth, hle, hn, hvalue, htext⟩ := exists_fractionChars h hnano
    let s : SecondsLiteral := ⟨second, some ⟨_, isDigits_paddedDigits width n⟩⟩
    have hplaces : s.places = paddedDigits width n := rfl
    refine ⟨s, rfl, ?_, ?_⟩
    · have hpow : 10 ^ 9 = 10 ^ (9 - width) * 10 ^ width := by
        rw [← Nat.pow_add, Nat.sub_add_cancel hle]
      rw [SecondsLiteral.nano, hplaces, valueOf_paddedDigits, length_paddedDigits hwidth hn, hpow,
        ← Nat.mul_assoc, Nat.mul_div_cancel _ (Nat.pow_pos (by decide)), hvalue]
    · rw [htext]
      rfl

theorem secondOfDay_lt (i : Instant) : i.secondOfDay < 86400 := by
  rw [secondOfDay]
  omega

/-- An instant is put together again from its date and its time of day. -/
theorem ofDate_date (i : Instant) : ofDate i.date i.secondOfDay i.nano = i := by
  have hsecond : i.date.dayNumber * 86400 + (i.secondOfDay : Int) = i.second := by
    rw [date, Date.dayNumber_ofDayNumber, secondOfDay]
    omega
  rw [ofDate, hsecond]

/-- What a clock shows of the time of day. -/
theorem IsClockTime.exists_timeChars (h : i.IsClockTime) : ∃ second nano,
    second ≤ 60 ∧ nano < 1000000000 ∧
    timeChars i.secondOfDay i.nano = paddedDigits 2 (i.secondOfDay / 3600) ++
      ':' :: paddedDigits 2 (i.secondOfDay / 60 % 60) ++ ':' :: paddedDigits 2 second ++
      fractionChars nano ∧
    i.secondOfDay / 3600 * 3600 + i.secondOfDay / 60 % 60 * 60 +
      (if second = 60 then 59 else second) = i.secondOfDay ∧
    (if second = 60 then nano + 1000000000 else nano) = i.nano := by
  have hday := i.secondOfDay_lt
  by_cases hinserted : 1000000000 ≤ i.nano
  · have hsecond : i.secondOfDay % 60 = 59 := by
      have : i.second % 60 = 59 := by
        rcases h with h | h
        · omega
        · exact h.2
      rw [secondOfDay]
      omega
    have hnano : i.nano < 2000000000 := by
      rcases h with h | h
      · omega
      · exact h.1
    refine ⟨60, i.nano - 1000000000, le_rfl, by omega, ?_, ?_, ?_⟩
    · rw [timeChars, hsecond]
      simp only [hinserted, if_true]
    · rw [if_pos rfl]
      omega
    · rw [if_pos rfl]
      omega
  · have hne : i.secondOfDay % 60 ≠ 60 := by omega
    refine ⟨i.secondOfDay % 60, i.nano, by omega, by omega, ?_, ?_, ?_⟩
    · rw [timeChars]
      simp only [hinserted, if_false, Nat.add_zero]
    · rw [if_neg hne]
      omega
    · rw [if_neg hne]

/-- The text of an instant whose year has four digits is a literal of this instant. -/
theorem exists_timeLiteral (hclock : i.IsClockTime)
    (hyear : 0 ≤ i.date.year ∧ i.date.year ≤ 9999) :
    ∃ t : TimeLiteral, t.chars = i.toText.toList ∧ t.instant? = some i := by
  obtain ⟨hmonth, hday⟩ : (1 ≤ i.date.month ∧ i.date.month ≤ 12) ∧
      1 ≤ i.date.day ∧ i.date.day ≤ 31 := Date.ofDayNumber_bounds _
  have hvalid : i.date.isValid = true :=
    Date.isValid_ofDayNumber ((by decide : Date.firstYear ≤ 0).trans hyear.1)
      (hyear.2.trans (by decide))
  have hsecondOfDay := i.secondOfDay_lt
  obtain ⟨second, nano, hsecond, hnano, htext, hshown, hshownNano⟩ := hclock.exists_timeChars
  obtain ⟨s, hs, hsnano, hschars⟩ := exists_seconds ⟨second, by omega⟩ hnano
  let d : DateLiteral :=
    ⟨⟨i.date.year.toNat, by omega⟩, ⟨i.date.month, by omega⟩, ⟨i.date.day, by omega⟩⟩
  let c : ClockLiteral :=
    ⟨⟨i.secondOfDay / 3600, by omega⟩, ⟨i.secondOfDay / 60 % 60, by omega⟩, some s⟩
  have hcsecond : c.second = second := by
    rw [ClockLiteral.second_eq (s := s) rfl, hs]
  have hcnano : c.fraction = nano := by
    rw [ClockLiteral.fraction_eq (s := s) rfl, hsnano]
  have hdate : d.toDate = i.date := by
    show (⟨(i.date.year.toNat : ℕ), i.date.month, i.date.day⟩ : Date) = i.date
    rw [Int.toNat_of_nonneg hyear.1]
  refine ⟨.offsetTime d c .utc, ?_, ?_⟩
  · have hdchars : d.chars = i.date.chars := by
      rw [Date.chars, Date.yearChars, if_pos hyear, List.append_assoc]
      rfl
    have hcchars : c.chars = 'T' :: timeChars i.secondOfDay i.nano := by
      rw [htext, ClockLiteral.chars]
      simp [ClockLiteral.secondsChars, hschars, c]
    rw [TimeLiteral.chars, hdchars, hcchars, toText, String.toList_ofList]
    rfl
  · have hd : d.IsPossible := (Calendar.isPossible_iff d).mpr ⟨⟨hmonth, hday⟩, hdate ▸ hvalid⟩
    have hc : c.IsPossible := by
      rw [ClockLiteral.IsPossible, hcsecond]
      show i.secondOfDay / 3600 ≤ 23 ∧ i.secondOfDay / 60 % 60 ≤ 59 ∧ second ≤ 60
      omega
    have hz : ZoneLiteral.utc.IsPossible := by decide
    have hpossible : (TimeLiteral.offsetTime d c .utc).IsPossible := ⟨hd, hc, hz⟩
    have hcsecondOfDay : c.secondOfDay = i.secondOfDay := by
      rw [ClockLiteral.secondOfDay, hcsecond]
      exact hshown
    have hcnanos : c.nano = i.nano := by
      rw [ClockLiteral.nano, hcsecond, hcnano, ← hshownNano]
      split <;> rfl
    have hzero : ∀ j : Instant, j.addSeconds (-ZoneLiteral.utc.offset) = j :=
      fun j => by rw [addSeconds, show ZoneLiteral.utc.offset = 0 from rfl, neg_zero, add_zero]
    rw [TimeLiteral.instant?, if_pos hpossible, TimeLiteral.instant, hzero, hdate, hcsecondOfDay,
      hcnanos, ofDate_date]

/-- An instant whose year has four digits is read back from its text. -/
theorem readInstant?_toText (hclock : i.IsClockTime)
    (hyear : 0 ≤ i.date.year ∧ i.date.year ≤ 9999) :
    Calendar.readInstant? i.toText.toList = some i := by
  obtain ⟨t, hchars, hinstant⟩ := exists_timeLiteral hclock hyear
  rw [← hchars, Calendar.readInstant?_literal, hinstant]

end Instant

/-! ## Signed years -/

namespace Calendar

/-- A signed year is taken with all its digits. -/
theorem exists_enters_signedYear {year : Int} (h : ¬ (0 ≤ year ∧ year ≤ 9999)) (r : List Char) :
    ∃ enter,
      Enters [.field (.number .year)] (Date.yearChars year ++ '-' :: r) ('-' :: r) enter := by
  have hle : (paddedDigits 4 year.natAbs).length ≤
      (paddedDigits 4 year.natAbs ++ '-' :: r).length := by
    rw [List.length_append]
    exact Nat.le_add_right _ _
  have hread :=
    readNumber?_digits (r := '-' :: r) (isDigits_paddedDigits 4 year.natAbs) hle (by rfl)
  have hquantity : ∃ n, readQuantity? .year (Date.yearChars year ++ '-' :: r) =
      some (n, '-' :: r) := by
    rw [Date.yearChars, if_neg h]
    have hminus : isBlank '-' = false := by rfl
    have hplus : isBlank '+' = false := by rfl
    split
    · simp only [List.cons_append, readQuantity?, skipBlanks_cons_of_not_blank hminus, hread]
      exact ⟨_, rfl⟩
    · simp only [List.cons_append, readQuantity?, skipBlanks_cons_of_not_blank hplus, hread]
      exact ⟨_, rfl⟩
  obtain ⟨n, hn⟩ := hquantity
  have hitem (f : Fields) :
      (FormatItem.field (.number .year)).read? f (Date.yearChars year ++ '-' :: r) =
        (f.set .year n).map fun f => (f, '-' :: r) := by
    simp only [FormatItem.read?, Field.read?, hn, Option.bind_eq_bind, Option.bind_some]
    cases f.set .year n <;> rfl
  exact ⟨_, Enters.cons hitem (enters_nil _)⟩

theorem isoOffsetMinutes_eq : isoOffsetMinutes =
    [.field (.number .year)] ++
      ([.literal '-', .field (.number .month), .literal '-', .field (.number .day), .literal 'T',
        .field (.number .hour), .literal ':', .field (.number .minute)] ++
      [.field (.zone .colon)]) :=
  rfl

/-- After the minutes of an instant its seconds follow and no offset. -/
theorem readFields?_isoOffsetMinutes_signed (i : Instant)
    (h : ¬ (0 ≤ i.date.year ∧ i.date.year ≤ 9999)) (r : List Char) :
    readFields? isoOffsetMinutes (i.localChars ++ r) = none := by
  obtain ⟨⟨-, hmonth⟩, -, hday⟩ : (1 ≤ i.date.month ∧ i.date.month ≤ 12) ∧
      1 ≤ i.date.day ∧ i.date.day ≤ 31 := Date.ofDayNumber_bounds _
  have hsecondOfDay := i.secondOfDay_lt
  have hmonth : i.date.month < 100 := by omega
  have hday : i.date.day < 100 := by omega
  have hhour : i.secondOfDay / 3600 < 100 := by omega
  have hminute : i.secondOfDay / 60 % 60 < 100 := by omega
  rw [isoOffsetMinutes_eq, Instant.localChars, Date.chars, Instant.timeChars]
  simp only [List.append_assoc, List.cons_append]
  obtain ⟨enter, hyear⟩ := exists_enters_signedYear h _
  rw [← List.append_assoc]
  exact (hyear.append <| .literal (by rfl) <| .number .lenient hmonth <| .literal (by rfl) <|
    .number .lenient hday <| .literal (by rfl) <| .number .lenient hhour <| .literal (by rfl) <|
    .number .lenient hminute <| enters_nil _).readFields?_append fun _ => rfl

/-- Four digits do not begin with a sign. -/
theorem readFields?_rfc3339_signed (i : Instant) (h : ¬ (0 ≤ i.date.year ∧ i.date.year ≤ 9999))
    (r : List Char) : readFields? rfc3339 (i.localChars ++ r) = none := by
  have hdigits : ∀ (c : Char) (t : List Char), c.isDigit = false →
      readDigits? 4 (c :: t) = none := by
    intro c t hc
    rw [readDigits?, if_neg]
    rintro ⟨-, hall⟩
    rw [List.take_succ_cons, List.all_cons, hc] at hall
    cases hall
  have hyear : ∀ t, readDigits? 4 (Date.yearChars i.date.year ++ t) = none := by
    intro t
    rw [Date.yearChars, if_neg h]
    split
    · exact hdigits _ _ (by rfl)
    · exact hdigits _ _ (by rfl)
  rw [readFields?, rfc3339, Instant.localChars, Date.chars]
  simp only [List.append_assoc, readItems?, FormatItem.read?, hyear]
  rfl

end Calendar

/-! ## The characters of an instant -/

namespace Instant

variable {i j : Instant} {c : Char}

theorem isClockChar_of_mem_yearChars {year : Int} (hc : c ∈ Date.yearChars year) :
    IsClockChar c := by
  rw [Date.yearChars] at hc
  split at hc
  · exact isClockChar_of_mem_paddedDigits hc
  · rcases List.mem_cons.mp hc with rfl | hc
    · split
      all_goals exact .inr (by decide)
    · exact isClockChar_of_mem_paddedDigits hc

theorem isClockChar_of_mem_fractionChars {nano : ℕ} (hc : c ∈ fractionChars nano) :
    IsClockChar c := by
  have hpoint : ∀ {width n : ℕ}, c ∈ '.' :: paddedDigits width n → IsClockChar c := by
    intro width n hc
    rcases List.mem_cons.mp hc with rfl | hc
    · exact .inr (by decide)
    · exact isClockChar_of_mem_paddedDigits hc
  rw [fractionChars] at hc
  split at hc
  · cases hc
  · split at hc
    · exact hpoint hc
    · split at hc
      all_goals exact hpoint hc

theorem isClockChar_of_mem_chars {d : Date} (hc : c ∈ d.chars) : IsClockChar c := by
  simp only [Date.chars, List.mem_append, List.mem_cons] at hc
  rcases hc with (hyear | rfl | hmonth) | rfl | hday
  · exact isClockChar_of_mem_yearChars hyear
  · exact .inr (by decide)
  · exact isClockChar_of_mem_paddedDigits hmonth
  · exact .inr (by decide)
  · exact isClockChar_of_mem_paddedDigits hday

theorem isClockChar_of_mem_timeChars {secondOfDay nano : ℕ}
    (hc : c ∈ timeChars secondOfDay nano) : IsClockChar c := by
  simp only [timeChars, List.mem_append, List.mem_cons] at hc
  rcases hc with ((hhour | rfl | hminute) | rfl | hsecond) | hfraction
  · exact isClockChar_of_mem_paddedDigits hhour
  · exact .inr (by decide)
  · exact isClockChar_of_mem_paddedDigits hminute
  · exact .inr (by decide)
  · exact isClockChar_of_mem_paddedDigits hsecond
  · exact isClockChar_of_mem_fractionChars hfraction

theorem isClockChar_of_mem_toText (hc : c ∈ i.toText.toList) : IsClockChar c := by
  rw [toText, String.toList_ofList, localChars] at hc
  simp only [List.mem_append, List.mem_cons] at hc
  rcases hc with (hdate | rfl | htime) | rfl | hnil
  · exact isClockChar_of_mem_chars hdate
  · exact .inr (by decide)
  · exact isClockChar_of_mem_timeChars htime
  · exact .inr (by decide)
  · cases hnil

theorem trimBlanks_toText (i : Instant) : trimBlanks i.toText.toList = i.toText.toList :=
  trimBlanks_of_isClockChar fun _ => isClockChar_of_mem_toText

/-! ## Instants read back -/

theorem zulu_mem_toText (i : Instant) : 'Z' ∈ i.toText.toList := by
  rw [toText, String.toList_ofList]
  exact List.mem_append_right _ (by decide)

theorem readNumber?_toText (i : Instant) : Value.readNumber? i.toText = none :=
  readNumber?_of_zulu_mem i.zulu_mem_toText

open Calendar

/-- The text of an instant whose year has a sign is not read at all. -/
theorem readInstant?_toText_signed (h : ¬ (0 ≤ i.date.year ∧ i.date.year ≤ 9999)) :
    readInstant? i.toText.toList = none := by
  have hspell : spellZulu i.toText.toList = i.localChars ++ "+00:00".toList := by
    simp [toText, spellZulu]
  have hoffset : readOffsetTime? i.toText.toList = none := by
    rw [readOffsetTime?, hspell, readFields?_isoOffsetMinutes_signed i h, readRfc3339?, toText,
      String.toList_ofList, readFields?_rfc3339_signed i h]
    rfl
  rw [readInstant?, trimBlanks_toText, hoffset, readLocalTime?_of_zulu_mem i.zulu_mem_toText,
    readDate?_of_zulu_mem i.zulu_mem_toText]

/-- If the text of an instant is read as a point in time, then as this instant. -/
theorem eq_of_readInstant?_toText
    (hclock : 0 ≤ i.date.year → i.date.year ≤ 9999 → i.IsClockTime)
    (h : readInstant? i.toText.toList = some j) : j = i := by
  by_cases hyear : 0 ≤ i.date.year ∧ i.date.year ≤ 9999
  · rw [readInstant?_toText (hclock hyear.1 hyear.2) hyear] at h
    exact (Option.some.inj h).symm
  · rw [readInstant?_toText_signed hyear] at h
    cases h

/-! ## Inserted seconds within a minute -/

/-- The instant with its inserted second counted as the second after. -/
def countInserted (i : Instant) : Instant :=
  ⟨i.second + 1, i.nano - 1000000000⟩

section Inserted

variable (hnano : i.nano < 2000000000) (hstray : ¬ i.IsClockTime)

include hnano hstray

theorem bounds_of_not_isClockTime : 1000000000 ≤ i.nano ∧ i.second % 60 ≠ 59 := by
  rw [IsClockTime, not_or] at hstray
  exact ⟨not_lt.mp hstray.1, fun hsecond => hstray.2 ⟨hnano, hsecond⟩⟩

theorem isClockTime_countInserted : i.countInserted.IsClockTime := by
  obtain ⟨hinserted, -⟩ := bounds_of_not_isClockTime hnano hstray
  exact .inl (show i.nano - 1000000000 < 1000000000 by omega)

/-- Within a minute the second after is on the same day. -/
theorem date_countInserted : i.countInserted.date = i.date := by
  obtain ⟨-, hsecond⟩ := bounds_of_not_isClockTime hnano hstray
  have hday : (i.second + 1) / 86400 = i.second / 86400 := by omega
  rw [date, date, countInserted, hday]

theorem secondOfDay_countInserted : i.countInserted.secondOfDay = i.secondOfDay + 1 := by
  obtain ⟨-, hsecond⟩ := bounds_of_not_isClockTime hnano hstray
  show ((i.second + 1) % 86400).toNat = (i.second % 86400).toNat + 1
  omega

/-- Within a minute an inserted second is written as the second after. -/
theorem toText_countInserted : i.countInserted.toText = i.toText := by
  obtain ⟨hinserted, hsecond⟩ := bounds_of_not_isClockTime hnano hstray
  have htime : timeChars i.countInserted.secondOfDay i.countInserted.nano =
      timeChars i.secondOfDay i.nano := by
    have hinside : i.secondOfDay % 60 ≠ 59 := by
      rw [secondOfDay]
      omega
    have hhours : (i.secondOfDay + 1) / 3600 = i.secondOfDay / 3600 := by omega
    have hminutes : (i.secondOfDay + 1) / 60 % 60 = i.secondOfDay / 60 % 60 := by omega
    have hseconds : (i.secondOfDay + 1) % 60 = i.secondOfDay % 60 + 1 := by omega
    have hbelow : ¬ 1000000000 ≤ i.nano - 1000000000 := by omega
    rw [secondOfDay_countInserted hnano hstray, countInserted, timeChars, timeChars, hhours,
      hminutes, hseconds]
    simp only [hinserted, hbelow, if_true, if_false, Nat.add_zero]
  rw [toText, toText, localChars, localChars, date_countInserted hnano hstray, htime]

/-- An inserted second within a minute is read as the second after. -/
theorem readInstant?_toText_inserted (hyear : 0 ≤ i.date.year ∧ i.date.year ≤ 9999) :
    readInstant? i.toText.toList = some i.countInserted := by
  rw [← date_countInserted hnano hstray] at hyear
  rw [← toText_countInserted hnano hstray]
  exact readInstant?_toText (isClockTime_countInserted hnano hstray) hyear

end Inserted

end Instant

end ContentFilter
