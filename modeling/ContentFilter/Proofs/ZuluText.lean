import ContentFilter.Calendar.Iso
import ContentFilter.Proofs.Numeral

/-!
# Texts with a `Z`

Universal time is marked with a `Z`, and nothing else that is read from digits has this letter: a
local date-time and a date leave it over, and no number has it. Each item of their formats keeps the
letter in what it leaves, so a run over all items does, and does not come to the end of the text.
-/

namespace ContentFilter

open Text ContentFilter.Expr

/-! ## Blanks -/

section Blanks

variable {s : List Char} {c : Char}

theorem mem_skipBlanks (hs : c ∈ s) (hc : isBlank c = false) : c ∈ skipBlanks s := by
  rw [← List.takeWhile_append_dropWhile (p := isBlank) (l := s)] at hs
  refine (List.mem_append.mp hs).resolve_left fun h => ?_
  rw [List.mem_takeWhile_imp h] at hc
  cases hc

theorem mem_trimBlanks (hs : c ∈ s) (hc : isBlank c = false) : c ∈ trimBlanks s :=
  List.mem_reverse.mpr (mem_skipBlanks (List.mem_reverse.mpr (mem_skipBlanks hs hc)) hc)

end Blanks

namespace Calendar

/-! ## Formats without an offset -/

/-- Whether the item never takes a `Z` from a text. -/
def sparesZulu : FormatItem → Bool
  | .literal c => c ≠ 'Z'
  | .field (.number _) | .optionalFraction => true
  | _ => false

section Zulu

variable {f f' : Fields} {item : FormatItem} {format : List FormatItem} {s r : List Char}

/-- A `Z` stays when digits at the front are taken away. -/
theorem zulu_mem_drop {ds : List Char} (hds : ds <+: s) (hdigit : ∀ c ∈ ds, c.isDigit = true)
    (hs : 'Z' ∈ s) : 'Z' ∈ s.drop ds.length := by
  obtain ⟨t, rfl⟩ := hds
  rw [List.drop_left]
  refine (List.mem_append.mp hs).resolve_left fun h => ?_
  exact absurd (hdigit _ h) (by decide)

theorem zulu_mem_of_readNumber? {width n : ℕ} (h : readNumber? width s = some (n, r))
    (hs : 'Z' ∈ s) : 'Z' ∈ r := by
  simp only [readNumber?] at h
  split at h
  · cases h
  · cases h
    exact zulu_mem_drop ((List.takeWhile_prefix _).trans (List.take_prefix width s))
      (fun c hc => List.mem_takeWhile_imp hc) hs

theorem zulu_mem_of_readFraction? {n : ℕ} (h : readFraction? s = some (n, r)) (hs : 'Z' ∈ s) :
    'Z' ∈ r := by
  simp only [readFraction?] at h
  split at h
  · cases h
  · cases h
    exact zulu_mem_drop (List.takeWhile_prefix _) (fun c hc => List.mem_takeWhile_imp hc) hs

theorem zulu_mem_of_readQuantity? {q : Quantity} {n : Int} (h : readQuantity? q s = some (n, r))
    (hs : 'Z' ∈ s) : 'Z' ∈ r := by
  have hs := mem_skipBlanks hs (by rfl)
  simp only [readQuantity?] at h
  split at h
  · rename_i hskip
    obtain ⟨⟨m, t⟩, hm, h⟩ := Option.map_eq_some_iff.mp h
    cases h
    rw [hskip] at hs
    exact zulu_mem_of_readNumber? hm ((List.mem_cons.mp hs).resolve_left (by decide))
  · rename_i hskip
    obtain ⟨⟨m, t⟩, hm, h⟩ := Option.map_eq_some_iff.mp h
    cases h
    rw [hskip] at hs
    exact zulu_mem_of_readNumber? hm ((List.mem_cons.mp hs).resolve_left (by decide))
  · obtain ⟨⟨m, t⟩, hm, h⟩ := Option.map_eq_some_iff.mp h
    cases h
    exact zulu_mem_of_readNumber? hm hs

theorem zulu_mem_of_literal {c : Char} (hc : c ≠ 'Z')
    (h : (FormatItem.literal c).read? f s = some (f', r)) (hs : 'Z' ∈ s) : 'Z' ∈ r := by
  simp only [FormatItem.read?] at h
  split at h
  · cases h
    exact mem_skipBlanks hs (by rfl)
  · split at h
    · rw [Option.ite_none_right_eq_some] at h
      obtain ⟨rfl, h⟩ := h
      cases h
      exact (List.mem_cons.mp hs).resolve_left hc.symm
    · cases h

theorem zulu_mem_of_optionalFraction (h : FormatItem.optionalFraction.read? f s = some (f', r))
    (hs : 'Z' ∈ s) : 'Z' ∈ r := by
  simp only [FormatItem.read?] at h
  split at h
  · obtain ⟨⟨m, t⟩, hm, h⟩ := Option.bind_eq_some_iff.mp h
    obtain ⟨g, -, h⟩ := Option.bind_eq_some_iff.mp h
    cases h
    exact zulu_mem_of_readFraction? hm ((List.mem_cons.mp hs).resolve_left (by decide))
  · cases h
    exact hs

/-- What an item leaves still has the `Z` of the text. -/
theorem zulu_mem_of_read? (hitem : sparesZulu item = true) (h : item.read? f s = some (f', r))
    (hs : 'Z' ∈ s) : 'Z' ∈ r := by
  cases item with
  | literal c => exact zulu_mem_of_literal (of_decide_eq_true hitem) h hs
  | field field =>
    cases field with
    | number q =>
      obtain ⟨⟨n, t⟩, hn, h⟩ := Option.bind_eq_some_iff.mp h
      obtain ⟨g, -, h⟩ := Option.bind_eq_some_iff.mp h
      cases h
      exact zulu_mem_of_readQuantity? hn hs
    | _ => cases hitem
  | optionalFraction => exact zulu_mem_of_optionalFraction h hs
  | _ => cases hitem

theorem zulu_mem_of_readItems? (hformat : ∀ item ∈ format, sparesZulu item = true)
    (h : readItems? format f s = some (f', r)) (hs : 'Z' ∈ s) : 'Z' ∈ r := by
  induction format generalizing f s with
  | nil =>
    cases h
    exact hs
  | cons item items ih =>
    rw [List.forall_mem_cons] at hformat
    rw [readItems?] at h
    split at h
    · cases h
    · rename_i hitem
      exact ih hformat.2 h (zulu_mem_of_read? hformat.1 hitem hs)

theorem readFields?_of_zulu_mem (hformat : ∀ item ∈ format, sparesZulu item = true)
    (hs : 'Z' ∈ s) : readFields? format s = none := by
  rw [readFields?]
  split
  · rename_i h
    cases zulu_mem_of_readItems? hformat h hs
  · rfl

/-- A text with a `Z` is no local date-time. -/
theorem readLocalTime?_of_zulu_mem (hs : 'Z' ∈ s) : readLocalTime? s = none := by
  have hseconds : readFields? isoLocal s = none := readFields?_of_zulu_mem (by decide) hs
  have hminutes : readFields? isoLocalMinutes s = none := readFields?_of_zulu_mem (by decide) hs
  rw [readLocalTime?, hseconds, hminutes]
  rfl

/-- A text with a `Z` is no date. -/
theorem readDate?_of_zulu_mem (hs : 'Z' ∈ s) : readDate? s = none := by
  have hfields : readFields? isoDate s = none := readFields?_of_zulu_mem (by decide) hs
  rw [readDate?, hfields]
  rfl

end Zulu

end Calendar

/-! ## Numbers -/

section NoNumber

variable {s : List Char}

theorem readInteger?_of_zulu_mem (hs : 'Z' ∈ s) : Decimal.readInteger? s = none := by
  have hdigits : ∀ t : List Char, 'Z' ∈ t → Decimal.readDigits? t = none := by
    intro t ht
    have hmem : 'Z' ∈ t.filter (· ≠ '_') := List.mem_filter.mpr ⟨ht, by decide⟩
    unfold Decimal.readDigits?
    split
    · rfl
    · rw [readNat?, if_neg]
      rintro ⟨-, hall⟩
      exact absurd (List.all_eq_true.mp hall 'Z' hmem) (by decide)
  unfold Decimal.readInteger?
  split
  · rw [hdigits _ ((List.mem_cons.mp hs).resolve_left (by decide))]
    rfl
  · rw [hdigits _ ((List.mem_cons.mp hs).resolve_left (by decide))]
    rfl
  · rw [hdigits _ hs]
    rfl

/-- Where a text is split at other characters, its `Z` stands on one of the two sides. -/
theorem zulu_mem_splitAtFirst {p : Char → Bool} (hp : p 'Z' = false) (hs : 'Z' ∈ s) :
    'Z' ∈ (Decimal.splitAtFirst p s).1 ∨
      ∃ r, (Decimal.splitAtFirst p s).2 = some r ∧ 'Z' ∈ r := by
  rw [← List.takeWhile_append_dropWhile (p := fun c => !p c) (l := s)] at hs
  rcases List.mem_append.mp hs with hs | hs
  · exact .inl hs
  · cases hrest : s.dropWhile (!p ·) with
    | nil =>
      rw [hrest] at hs
      cases hs
    | cons c r =>
      have hstop := startsWith_dropWhile (!p ·) s
      rw [hrest] at hs hstop
      refine .inr ⟨r, by rw [Decimal.splitAtFirst, hrest]; rfl, ?_⟩
      refine (List.mem_cons.mp hs).resolve_left ?_
      rintro rfl
      rw [startsWith, hp] at hstop
      cases hstop

theorem ofChars?_of_zulu_mem (hs : 'Z' ∈ s) : Decimal.ofChars? s = none := by
  rw [Decimal.ofChars?]
  obtain hbase | ⟨e, he, hexponent⟩ :=
    zulu_mem_splitAtFirst (p := fun c => c == 'e' || c == 'E') (by rfl) hs
  · generalize Decimal.splitAtFirst _ s = split at hbase
    obtain ⟨base, exponent⟩ := split
    have hdigits : 'Z' ∈ (Decimal.splitAtFirst (· == '.') base).1 ++
        (Decimal.splitAtFirst (· == '.') base).2.getD [] := by
      obtain hlead | ⟨t, ht, htrail⟩ := zulu_mem_splitAtFirst (p := (· == '.')) (by rfl) hbase
      · exact List.mem_append_left _ hlead
      · rw [ht]
        exact List.mem_append_right _ htrail
    cases exponent with
    | none => simp [readInteger?_of_zulu_mem hdigits]
    | some e => simp [readInteger?_of_zulu_mem hdigits]
  · have hpower : readInt? e = none :=
      Numeral.readInt?_eq_none hexponent (by rfl) (by decide) (by decide)
    simp only [he, hpower]
    rfl

/-- A text with a `Z` is no number. -/
theorem readNumber?_of_zulu_mem {s : String} (hs : 'Z' ∈ s.toList) :
    Value.readNumber? s = none := by
  have hs : 'Z' ∈ trimBlanks s.toList := mem_trimBlanks hs (by rfl)
  rw [Value.readNumber?, Numeral.readInt?_eq_none hs (by rfl) (by decide) (by decide),
    ofChars?_of_zulu_mem hs]
  rfl

end NoNumber

end ContentFilter
