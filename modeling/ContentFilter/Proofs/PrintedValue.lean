import ContentFilter.Proofs.Equality

/-!
# Values and their texts

Against a text, equality looks at the text of the other value, and the order at what the text can be
read as. The two agree because values read back from their texts: a number is read as the same
number, a point in time as the same one, and a text that is not read at all has no order. Between
other values they agree because what a number or a point in time is decides both.

They disagree in one place. A point in time can hold an inserted second within a minute, where no
clock shows one. It has the text of the second after, equals this text, and is less than it.
-/

namespace ContentFilter

namespace Value

variable {v w : Value} {d : Decimal} {i : Instant} {o : Ordering} {p q : Place} {s : String}

/-- The value, if it is a point in time of the years 0 to 9999, is one that a clock shows. Of other
    years no text is read. -/
def ShowsClockTime (v : Value) : Prop :=
  ∀ i, v.toInstant? = some i → 0 ≤ i.date.year → i.date.year ≤ 9999 → i.IsClockTime

/-! ## Places of texts -/

theorem eq_of_place?_text_number {x : ℚ} (hv : v.toDecimal? = some d) (hs : v.toText? = some s)
    (h : (text s).place? = some (.inl x)) : x = d.toRat := by
  have hnumeric : (text s).IsNumeric := isNumeric_iff.mpr ⟨x, h⟩
  obtain _ | _ | hread := hnumeric
  obtain ⟨e, he, hvalue⟩ := exists_toRat_of_readNumber? hv hs hread
  rw [place?_of_readNumber? hread he] at h
  cases h
  exact hvalue

theorem eq_of_place?_text_instant {x : ℤ ×ₗ ℕ}
    (hclock : 0 ≤ i.date.year → i.date.year ≤ 9999 → i.IsClockTime)
    (h : (text i.toText).place? = some (.inr x)) : x = toLex (i.second, i.nano) := by
  have htemporal : (text i.toText).IsTemporal := isTemporal_iff.mpr ⟨x, h⟩
  obtain _ | _ | ⟨hnumber, hread⟩ := htemporal
  obtain rfl := Instant.eq_of_readInstant?_toText hclock hread
  rw [place?_of_readInstant? hnumber hread] at h
  cases h
  rfl

/-- A text and a value with this text that are comparable have the same place. -/
theorem place_eq_of_toText? (hclock : v.ShowsClockTime) (hs : v.toText? = some s)
    (hv : v.place? = some p) (ht : (text s).place? = some q) (h : o.Compares p q) : p = q := by
  have hnumber : ∀ d, v.toDecimal? = some d → p = q := by
    intro d hd
    rw [place?_of_toDecimal? hd] at hv
    cases hv
    cases q with
    | inl x => rw [eq_of_place?_text_number hd hs ht]
    | inr x => exact absurd h not_compares_inl_inr
  have hinstant : ∀ i, v.toInstant? = some i → p = q := by
    intro i hi
    obtain rfl := Option.some.inj (hs.symm.trans (toText?_of_toInstant? hi))
    rw [place?_of_toInstant? hi] at hv
    cases hv
    cases q with
    | inl x => exact absurd h not_compares_inr_inl
    | inr x => rw [eq_of_place?_text_instant (hclock i hi) ht]
  cases v with
  | integer | decimal => exact hnumber _ rfl
  | instant | calendar => exact hinstant _ rfl
  | text t =>
    cases hs
    exact Option.some.inj (hv.symm.trans ht)
  | absent | null | boolean | list => cases hv

/-! ## Places of other values -/

/-- The place of what a value is; truth values have none. -/
def Essence.place? : Essence → Option Place
  | .number x => some (.inl x)
  | .instant i => some (.inr (toLex (i.second, i.nano)))
  | .boolean _ => none

theorem Essence.eq_of_place? {x y : Essence} (hx : x.place? = some p) (hy : y.place? = some p) :
    x = y := by
  cases x with
  | boolean => cases hx
  | number a =>
    cases hx
    cases y with
    | number b =>
      cases hy
      rfl
    | instant | boolean => cases hy
  | instant i =>
    cases hx
    cases y with
    | instant j =>
      obtain ⟨hsecond, hnano⟩ := Prod.mk.inj (toLex_inj.mp (Sum.inr.inj (Option.some.inj hy)))
      cases i
      cases j
      cases hsecond
      cases hnano
      rfl
    | number | boolean => cases hy

theorem place?_of_essence? {x : Essence} (h : v.essence? = some x) : v.place? = x.place? := by
  cases v with
  | integer | decimal | instant | calendar | boolean =>
    cases h
    rfl
  | _ => cases h

theorem exists_essence?_of_place? (htext : ∀ s, v ≠ text s) (h : v.place? = some p) :
    ∃ x, v.essence? = some x := by
  cases v with
  | text s => exact absurd rfl (htext s)
  | absent | null | list => cases h
  | _ => exact ⟨_, rfl⟩

theorem isScalar_of_place? (h : v.place? = some p) : v.isScalar = true := by
  cases v with
  | absent | null | list => cases h
  | _ => rfl

/-! ## Equality and order -/

/-- Against a text with which it is equal, a value compares as equal or not at all. -/
theorem eq_of_compare?_text (hclock : v.ShowsClockTime) (hequal : v.isEqual (text s) = true)
    (h : v.compare? (text s) = some o) : o = .eq := by
  obtain ⟨p, q, hv, ht, hcompares⟩ := compare?_eq_some_iff.mp h
  obtain ⟨-, hsame⟩ := isScalar_of_isEqual (isScalar_of_place? hv) hequal
  obtain ⟨t, hs, hst⟩ := (sameScalar_iff_toText? (.inr rfl) (.inr rfl)).mp hsame
  cases hst
  exact (Ordering.Compares.eq_eq hcompares).mpr (place_eq_of_toText? hclock hs hv ht hcompares)

/-- Comparable values other than texts are equal if they compare as equal. -/
theorem isEqual_iff_of_compare? (hv : ∀ s, v ≠ text s) (hw : ∀ s, w ≠ text s)
    (h : v.compare? w = some o) : v.isEqual w = true ↔ o = .eq := by
  obtain ⟨p, q, hp, hq, hcompares⟩ := compare?_eq_some_iff.mp h
  obtain ⟨x, hx⟩ := exists_essence?_of_place? hv hp
  obtain ⟨y, hy⟩ := exists_essence?_of_place? hw hq
  rw [isEqual_of_isScalar (isScalar_of_place? hp), isScalar_of_place? hq, Bool.true_and,
    sameScalar_iff_essence? hx hy, Ordering.Compares.eq_eq hcompares]
  rw [place?_of_essence? hx] at hp
  rw [place?_of_essence? hy] at hq
  constructor
  · rintro rfl
    exact Option.some.inj (hp.symm.trans hq)
  · rintro rfl
    exact Essence.eq_of_place? hp hq

theorem eq_of_compare?_of_isEqual (hclock : v.ShowsClockTime) (hclock' : w.ShowsClockTime)
    (hequal : v.isEqual w = true) (h : v.compare? w = some o) : o = .eq := by
  by_cases hright : ∃ s, w = text s
  · obtain ⟨s, rfl⟩ := hright
    exact eq_of_compare?_text hclock hequal h
  · by_cases hleft : ∃ s, v = text s
    · -- With the text on the left both relations are turned round.
      obtain ⟨s, rfl⟩ := hleft
      have hswap : w.compare? (text s) = some o.swap := by
        rw [compare?_swap, h]
        rfl
      rw [isEqual_comm] at hequal
      rw [← o.swap_swap, eq_of_compare?_text hclock' hequal hswap]
      rfl
    · exact (isEqual_iff_of_compare? (fun s hs => hleft ⟨s, hs⟩) (fun s hs => hright ⟨s, hs⟩)
        h).mp hequal

/-- A value equals its text. -/
theorem isEqual_text (hs : v.toText? = some s) : v.isEqual (text s) = true := by
  have hscalar : v.isScalar = true := by
    cases v with
    | absent | null | list => cases hs
    | _ => rfl
  rw [isEqual_of_isScalar hscalar, Bool.and_eq_true]
  exact ⟨rfl, (sameScalar_iff_toText? (.inr rfl) (.inr rfl)).mpr ⟨s, hs, rfl⟩⟩

/-- An inserted second within a minute is less than its text, which is read as the second after. -/
theorem compare?_toText_inserted (hv : v.toInstant? = some i) (hnano : i.nano < 2000000000)
    (hstray : ¬ i.IsClockTime) (hyear : 0 ≤ i.date.year ∧ i.date.year ≤ 9999) :
    v.compare? (text i.toText) = some .lt := by
  have hread := Instant.readInstant?_toText_inserted hnano hstray hyear
  refine compare?_eq_some_iff.mpr ⟨_, _, place?_of_toInstant? hv,
    place?_of_readInstant? i.readNumber?_toText hread, compares_inr_iff.mpr ?_⟩
  have hsecond : i.second < i.countInserted.second := Int.lt_succ i.second
  exact Prod.Lex.toLex_lt_toLex.mpr (.inl hsecond)

/-- Half a second into an inserted second after 1970-01-01T00:00:00Z, where no clock shows one. -/
theorem not_isClockTime_epoch :
    (⟨0, 1500000000⟩ : Instant).nano < 2000000000 ∧ ¬ Instant.IsClockTime ⟨0, 1500000000⟩ ∧
    0 ≤ (Instant.date ⟨0, 1500000000⟩).year ∧ (Instant.date ⟨0, 1500000000⟩).year ≤ 9999 := by
  have hyear : (Instant.date ⟨0, 1500000000⟩).year = 1970 := by decide +kernel
  rw [Instant.IsClockTime, hyear]
  norm_num

open Operator in
/-- Equality and order do not contradict each other. Two values that are equal and comparable
    compare as equal, so that none is less or greater than the other, also if one is a text. Two
    comparable values other than texts are equal if and only if they compare as equal. A point in
    time of the years 0 to 9999 that a text is compared with has to be one that a clock shows, and
    only such are read; every other one equals its text and is less than it. -/
theorem equality_agrees_with_order :
    (∀ (v w : Value) (o : Ordering), v.ShowsClockTime → w.ShowsClockTime → v.isEqual w = true →
      v.compare? w = some o → o = .eq) ∧
    (∀ v w : Value, v.ShowsClockTime → w.ShowsClockTime → equal.holds v w = true →
      less.holds v w = false ∧ greater.holds v w = false) ∧
    (∀ (v w : Value) (o : Ordering), (∀ s, v ≠ text s) → (∀ s, w ≠ text s) →
      v.compare? w = some o → (v.isEqual w = true ↔ o = .eq)) ∧
    (∀ (v : Value) (i : Instant), v.toInstant? = some i → i.nano < 2000000000 →
      ¬ i.IsClockTime → 0 ≤ i.date.year → i.date.year ≤ 9999 →
      v.isEqual (text i.toText) = true ∧ v.compare? (text i.toText) = some .lt) ∧
    ∀ i, Calendar.IsRead i → i.IsClockTime := by
  refine ⟨fun v w o => eq_of_compare?_of_isEqual, ?_, fun v w o => isEqual_iff_of_compare?, ?_,
    fun i => Calendar.IsRead.isClockTime⟩
  · intro v w hv hw hequal
    cases hcompare : v.compare? w with
    | none =>
      rw [Operator.holds, Operator.holds, hcompare]
      exact ⟨rfl, rfl⟩
    | some o =>
      obtain rfl := eq_of_compare?_of_isEqual hv hw hequal hcompare
      rw [Operator.holds, Operator.holds, hcompare]
      exact ⟨rfl, rfl⟩
  · intro v i hv hnano hstray hfirst hlast
    exact ⟨isEqual_text (toText?_of_toInstant? hv),
      compare?_toText_inserted hv hnano hstray ⟨hfirst, hlast⟩⟩

open Operator in
/-- An inserted second at the end of a minute and its text are equal, and neither is less; an
    integer and a decimal that compare as equal are equal; an inserted second within a minute is
    less than its text. -/
theorem equality_agrees_with_order_inserted_second :
    ShowsClockTime (text "2016-12-31T23:59:60.500Z") ∧
    ShowsClockTime (instant ⟨1483228799, 1500000000⟩) ∧
    equal.holds (text "2016-12-31T23:59:60.500Z") (instant ⟨1483228799, 1500000000⟩) = true ∧
    less.holds (text "2016-12-31T23:59:60.500Z") (instant ⟨1483228799, 1500000000⟩) = false ∧
    (integer 5).isEqual (decimal ⟨500, 2⟩) = true ∧
    (instant ⟨0, 1500000000⟩).compare? (text (Instant.toText ⟨0, 1500000000⟩)) = some .lt := by
  have htext : ShowsClockTime (text "2016-12-31T23:59:60.500Z") := by
    intro i h
    cases h
  have hinstant : ShowsClockTime (instant ⟨1483228799, 1500000000⟩) := by
    intro i h _ _
    rw [← Option.some.inj h]
    exact .inr ⟨by decide, by decide⟩
  have hequal : equal.holds (text "2016-12-31T23:59:60.500Z")
      (instant ⟨1483228799, 1500000000⟩) = true := by cbv
  have hcompare : (integer 5).compare? (decimal ⟨500, 2⟩) = some .eq := by cbv
  obtain ⟨hnano, hstray, hfirst, hlast⟩ := not_isClockTime_epoch
  obtain ⟨-, hholds, hsame, hinserted, -⟩ := equality_agrees_with_order
  refine ⟨htext, hinstant, hequal, (hholds _ _ htext hinstant hequal).1, ?_, ?_⟩
  · refine (hsame _ _ _ (fun s h => ?_) (fun s h => ?_) hcompare).mpr rfl
    · cases h
    · cases h
  · exact (hinserted (instant ⟨0, 1500000000⟩) _ rfl hnano hstray hfirst hlast).2

/-- Without the condition on points in time this is false: the inserted second after
    1970-01-01T00:00:00Z equals the text "1970-01-01T00:00:01.500Z" and is less than it. -/
theorem not_forall_eq_of_compare?_of_isEqual :
    ¬ ∀ (v w : Value) (o : Ordering), v.isEqual w = true → v.compare? w = some o → o = .eq := by
  intro h
  obtain ⟨hnano, hstray, hyear⟩ := not_isClockTime_epoch
  have htext : Instant.toText ⟨0, 1500000000⟩ = "1970-01-01T00:00:01.500Z" := by cbv
  have hequal : (instant ⟨0, 1500000000⟩).isEqual (text "1970-01-01T00:00:01.500Z") = true :=
    isEqual_text (congrArg some htext)
  have hcompare := compare?_toText_inserted (v := instant ⟨0, 1500000000⟩) rfl hnano hstray hyear
  rw [htext] at hcompare
  cases h _ _ _ hequal hcompare

/-- Numbers and points in time read back from their texts. The text of an integer or of a decimal,
    whose scale is a number of 64 bits, is read as a number with the same value. The text of a point
    in time is never read as a number, and that of one of the years 0 to 9999 that a clock shows is
    read as this point in time. No other point in time is read back, and one with an inserted second
    within a minute is read as the second after. A text that is read back is ordered against every
    value as the value that was written. -/
theorem printed_values_read_back :
    (∀ (v : Value) (d : Decimal), v.toDecimal? = some d → Decimal.scaleFits d.scale = true →
      ∃ s w e, v.toText? = some s ∧ readNumber? s = some w ∧ w.toDecimal? = some e ∧
        e.toRat = d.toRat ∧ ∀ u, (text s).compare? u = v.compare? u) ∧
    (∀ (v : Value) (i : Instant), v.toInstant? = some i →
      v.toText? = some i.toText ∧ readNumber? i.toText = none ∧
      (i.IsClockTime → 0 ≤ i.date.year → i.date.year ≤ 9999 →
        Calendar.readInstant? i.toText.toList = some i ∧
        ∀ u, (text i.toText).compare? u = v.compare? u)) ∧
    (∀ i : Instant, Calendar.readInstant? i.toText.toList = some i →
      i.IsClockTime ∧ 0 ≤ i.date.year ∧ i.date.year ≤ 9999) ∧
    ∀ i : Instant, i.nano < 2000000000 → ¬ i.IsClockTime → 0 ≤ i.date.year →
      i.date.year ≤ 9999 →
      Calendar.readInstant? i.toText.toList = some ⟨i.second + 1, i.nano - 1000000000⟩ := by
  refine ⟨?_, ?_, ?_, ?_⟩
  · intro v d hv hscale
    obtain ⟨s, w, hs, hread⟩ := exists_readNumber?_toText hv hscale
    obtain ⟨e, he, hvalue⟩ := exists_toRat_of_readNumber? hv hs hread
    refine ⟨s, w, e, hs, hread, he, hvalue, compare?_congr_left ?_⟩
    rw [place?_of_readNumber? hread he, place?_of_toDecimal? hv, hvalue]
  · intro v i hv
    refine ⟨toText?_of_toInstant? hv, i.readNumber?_toText, fun hclock hfirst hlast => ?_⟩
    have hread := Instant.readInstant?_toText hclock ⟨hfirst, hlast⟩
    refine ⟨hread, compare?_congr_left ?_⟩
    rw [place?_of_readInstant? i.readNumber?_toText hread, place?_of_toInstant? hv]
  · intro i h
    refine ⟨Calendar.isClockTime_of_readInstant? h, ?_⟩
    by_contra hyear
    rw [Instant.readInstant?_toText_signed hyear] at h
    cases h
  · intro i hnano hstray hfirst hlast
    exact Instant.readInstant?_toText_inserted hnano hstray ⟨hfirst, hlast⟩

/-- A decimal that is written with an exponent, an inserted second in the middle of it at the end of
    a minute, and one within a minute. -/
theorem printed_values_read_back_exponent :
    (decimal ⟨-123, -20⟩).toText? = some "-123e+20" ∧
    (∃ s w e, (decimal ⟨-123, -20⟩).toText? = some s ∧ readNumber? s = some w ∧
      w.toDecimal? = some e ∧ e.toRat = Decimal.toRat ⟨-123, -20⟩ ∧
      ∀ u, (text s).compare? u = (decimal ⟨-123, -20⟩).compare? u) ∧
    Instant.toText ⟨1483228799, 1500000000⟩ = "2016-12-31T23:59:60.500Z" ∧
    readNumber? (Instant.toText ⟨1483228799, 1500000000⟩) = none ∧
    Calendar.readInstant? (Instant.toText ⟨1483228799, 1500000000⟩).toList =
      some ⟨1483228799, 1500000000⟩ ∧
    Instant.IsClockTime ⟨1483228799, 1500000000⟩ ∧
    Calendar.readInstant? (Instant.toText ⟨0, 1500000000⟩).toList = some ⟨1, 500000000⟩ := by
  have hscale : Decimal.scaleFits (-20) = true := by decide
  have hclock : Instant.IsClockTime ⟨1483228799, 1500000000⟩ := .inr ⟨by decide, by decide⟩
  have hyear : (Instant.date ⟨1483228799, 1500000000⟩).year = 2016 := by decide +kernel
  obtain ⟨hnano, hstray, hfirst, hlast⟩ := not_isClockTime_epoch
  obtain ⟨hnumbers, hinstants, hclocks, hinserted⟩ := printed_values_read_back
  obtain ⟨-, hnumber, hback⟩ := hinstants (instant ⟨1483228799, 1500000000⟩) _ rfl
  obtain ⟨hread, -⟩ := hback hclock (by rw [hyear]; decide) (by rw [hyear]; decide)
  exact ⟨by cbv, hnumbers _ _ rfl hscale, by cbv, hnumber, hread, (hclocks _ hread).1,
    hinserted _ hnano hstray hfirst hlast⟩

/-- Not every point in time of the years 0 to 9999 is read back: the inserted second after
    1970-01-01T00:00:00Z is read as the second after. -/
theorem not_forall_readInstant?_toText :
    ¬ ∀ i : Instant, 0 ≤ i.date.year → i.date.year ≤ 9999 →
      Calendar.readInstant? i.toText.toList = some i := by
  intro h
  obtain ⟨hnano, hstray, hyear⟩ := not_isClockTime_epoch
  have hread := h ⟨0, 1500000000⟩ hyear.1 hyear.2
  rw [Instant.readInstant?_toText_inserted hnano hstray hyear] at hread
  cases hread

end Value

end ContentFilter
