import ContentFilter.Proofs.Meaning
import ContentFilter.Proofs.Ordering
import ContentFilter.Proofs.Path
import ContentFilter.Proofs.PlainComparison
import ContentFilter.Proofs.RoundTrip
import Mathlib.Tactic.FieldSimp
import Mathlib.Tactic.NormNum.Ineq

/-!
# Numbers as they are written

A numeral is a number as a filter text has it, taken apart into its sign, its digits and its
exponent, so that its value can be said without reading it. It is read as an integer of 64 bits if
it is one, else as a decimal; the value is the same. With the order of decimals it follows that
comparing a property with a numeral compares the two numbers, however the one is held and the other
written.
-/

namespace ContentFilter

open Text ContentFilter.Expr

/-! ## Numerals -/

namespace Numeral

/-- The sign of a number; it may be left out. -/
inductive Sign where
  | none
  | plus
  | minus

/-- One or more digits. -/
structure Digits where
  /-- The digits. -/
  chars : List Char
  isDigits : IsDigits chars

/-- An exponent. -/
structure Exponent where
  /-- The letter in front of it. -/
  letter : Char
  isLetter : letter = 'e' ∨ letter = 'E'
  /-- Its sign. -/
  sign : Sign
  /-- Its digits. -/
  digits : Digits

/-- How the sign is written. -/
def Sign.text : Sign → List Char
  | none => []
  | plus => ['+']
  | minus => ['-']

/-- What the sign multiplies by. -/
def Sign.factor : Sign → ℤ
  | none => 1
  | plus => 1
  | minus => -1

/-- The number that the digits denote. -/
def Digits.value (ds : Digits) : ℕ :=
  valueOf ds.chars

/-- How the exponent is written. -/
def Exponent.text (e : Exponent) : List Char :=
  e.letter :: (e.sign.text ++ e.digits.chars)

/-- The power of ten that the exponent multiplies by. -/
def Exponent.power (e : Exponent) : ℤ :=
  e.sign.factor * e.digits.value

end Numeral

/-- A number as it is written: `-1.5e3`. -/
structure Numeral where
  /-- The sign. -/
  sign : Numeral.Sign
  /-- The digits before the point. -/
  whole : Numeral.Digits
  /-- The digits after the point, if there is one. -/
  fraction : Option Numeral.Digits
  /-- The exponent, if there is one. -/
  exponent : Option Numeral.Exponent

namespace Numeral

/-- How a fraction is written, if there is one. -/
def fractionText : Option Digits → List Char
  | none => []
  | some ds => '.' :: ds.chars

/-- How an exponent is written, if there is one. -/
def exponentText : Option Exponent → List Char
  | none => []
  | some e => e.text

/-- The characters of the number. -/
def text (n : Numeral) : List Char :=
  n.sign.text ++ (n.whole.chars ++ fractionText n.fraction ++ exponentText n.exponent)

/-- The digits after the point. -/
def places (n : Numeral) : List Char :=
  (n.fraction.map Digits.chars).getD []

/-- The power of ten that the exponent multiplies by. -/
def power (n : Numeral) : ℤ :=
  (n.exponent.map Exponent.power).getD 0

/-- The number that is written: the digits after the point count for their places, and the exponent
    multiplies by a power of ten. -/
def value (n : Numeral) : ℚ :=
  n.sign.factor * (n.whole.value + valueOf n.places / 10 ^ n.places.length) * 10 ^ n.power

/-- How far behind the point the last digit stands once the exponent is carried out. -/
def scale (n : Numeral) : ℤ :=
  n.places.length - n.power

theorem isSign_iff {s : List Char} : IsSign s ↔ ∃ sign : Sign, sign.text = s := by
  constructor
  · rintro (_ | _ | _)
    · exact ⟨.none, rfl⟩
    · exact ⟨.plus, rfl⟩
    · exact ⟨.minus, rfl⟩
  · rintro ⟨_ | _ | _, rfl⟩
    · exact .none
    · exact .plus
    · exact .minus

theorem isFraction_iff {s : List Char} : IsFraction s ↔ ∃ f, fractionText f = s := by
  constructor
  · rintro (_ | h)
    · exact ⟨none, rfl⟩
    · exact ⟨some ⟨_, h⟩, rfl⟩
  · rintro ⟨_ | ds, rfl⟩
    · exact .none
    · exact .point ds.isDigits

theorem isExponent_iff {s : List Char} : IsExponent s ↔ ∃ e, exponentText e = s := by
  constructor
  · rintro (_ | ⟨hc, hsign, h⟩)
    · exact ⟨none, rfl⟩
    · obtain ⟨sign, rfl⟩ := isSign_iff.mp hsign
      exact ⟨some ⟨_, hc, sign, ⟨_, h⟩⟩, rfl⟩
  · rintro ⟨_ | e, rfl⟩
    · exact .none
    · exact .power e.isLetter (isSign_iff.mpr ⟨e.sign, rfl⟩) e.digits.isDigits

/-- The numerals are the texts with the shape of a number. -/
theorem isNumber_iff {s : List Char} : IsNumber s ↔ ∃ n : Numeral, n.text = s := by
  constructor
  · rintro ⟨hsign, hdigits, hfraction, hexponent⟩
    obtain ⟨sign, rfl⟩ := isSign_iff.mp hsign
    obtain ⟨f, rfl⟩ := isFraction_iff.mp hfraction
    obtain ⟨e, rfl⟩ := isExponent_iff.mp hexponent
    exact ⟨⟨sign, ⟨_, hdigits⟩, f, e⟩, rfl⟩
  · rintro ⟨n, rfl⟩
    exact .mk (isSign_iff.mpr ⟨_, rfl⟩) n.whole.isDigits (isFraction_iff.mpr ⟨_, rfl⟩)
      (isExponent_iff.mpr ⟨_, rfl⟩)

/-! ## Reading numerals -/

section Reading

variable {ds s : List Char}

theorem readNat?_of_isDigits (h : IsDigits ds) : readNat? ds = some (valueOf ds) := by
  have hall : ds.all Char.isDigit = true := List.all_eq_true.mpr h.isDigit
  rw [readNat?, if_pos ⟨h.ne_nil, hall⟩]

/-- A character that is neither a digit nor a sign makes a text no integer. -/
theorem readInt?_eq_none {c : Char} (hc : c ∈ s) (hdigit : c.isDigit = false) (hplus : c ≠ '+')
    (hminus : c ≠ '-') : readInt? s = none := by
  have hnat : ∀ t : List Char, c ∈ t → readNat? t = none := by
    intro t ht
    rw [readNat?, if_neg]
    rintro ⟨-, hall⟩
    rw [List.all_eq_true.mp hall c ht] at hdigit
    cases hdigit
  unfold readInt?
  split
  · rw [hnat _ ((List.mem_cons.mp hc).resolve_left hminus)]
    rfl
  · rw [hnat _ ((List.mem_cons.mp hc).resolve_left hplus)]
    rfl
  · rw [hnat _ hc]
    rfl

theorem ne_cons_of_isDigits (h : IsDigits ds) (c : Char) (hc : c.isDigit = false) (r : List Char) :
    ds ≠ c :: r := by
  rintro rfl
  have hdigit := h.isDigit c (by simp)
  rw [hc] at hdigit
  cases hdigit

theorem readInt?_signed (sign : Sign) (h : IsDigits ds) :
    readInt? (sign.text ++ ds) = some (sign.factor * valueOf ds) := by
  have hnat := readNat?_of_isDigits h
  cases sign with
  | none =>
    rw [Sign.text, List.nil_append, readInt?, hnat, Sign.factor, one_mul]
    · rfl
    · exact ne_cons_of_isDigits h '-' rfl
    · exact ne_cons_of_isDigits h '+' rfl
  | plus =>
    rw [Sign.text, List.singleton_append, readInt?, hnat, Sign.factor, one_mul]
    rfl
  | minus =>
    rw [Sign.text, List.singleton_append, readInt?, hnat, Sign.factor, neg_one_mul]
    rfl

theorem readInteger?_signed (sign : Sign) (h : IsDigits ds) :
    Decimal.readInteger? (sign.text ++ ds) = some (sign.factor * valueOf ds) := by
  have hfilter : ds.filter (· ≠ '_') = ds := by
    refine List.filter_eq_self.mpr fun c hc => decide_eq_true ?_
    rintro rfl
    exact absurd (h.isDigit _ hc) (by decide)
  have hdigits : Decimal.readDigits? ds = some (valueOf ds) := by
    rw [Decimal.readDigits?, hfilter, readNat?_of_isDigits h]
    exact ne_cons_of_isDigits h '_' rfl
  cases sign with
  | none =>
    rw [Sign.text, List.nil_append, Decimal.readInteger?, hdigits, Sign.factor, one_mul]
    · rfl
    · exact ne_cons_of_isDigits h '-' rfl
    · exact ne_cons_of_isDigits h '+' rfl
  | plus =>
    rw [Sign.text, List.singleton_append, Decimal.readInteger?, hdigits, Sign.factor, one_mul]
    rfl
  | minus =>
    rw [Sign.text, List.singleton_append, Decimal.readInteger?, hdigits, Sign.factor, neg_one_mul]
    rfl

theorem splitAtFirst_eq_none {p : Char → Bool} (h : ∀ c ∈ s, p c = false) :
    Decimal.splitAtFirst p s = (s, none) := by
  have hall : ∀ c ∈ s, (!p c) = true := fun c hc => by rw [h c hc]; rfl
  rw [Decimal.splitAtFirst, List.takeWhile_eq_self_iff.mpr hall, List.dropWhile_eq_nil_iff.mpr hall]
  rfl

theorem splitAtFirst_eq_some {p : Char → Bool} {c : Char} (h : ∀ c ∈ s, p c = false)
    (hc : p c = true) (r : List Char) : Decimal.splitAtFirst p (s ++ c :: r) = (s, some r) := by
  have hall : ∀ c ∈ s, (!p c) = true := fun c hc => by rw [h c hc]; rfl
  have hstop : startsWith (!p ·) (c :: r) = false := by
    rw [startsWith_cons, hc]
    rfl
  rw [Decimal.splitAtFirst, takeWhile_run hall hstop, dropWhile_run hall hstop]
  rfl

theorem of_mem_signed {sign : Sign} {c : Char} (h : IsDigits ds) (hc : c ∈ sign.text ++ ds) :
    c.isDigit = true ∨ c = '+' ∨ c = '-' := by
  rcases List.mem_append.mp hc with hsign | hdigit
  · cases sign with
    | none => cases hsign
    | plus => exact .inr (.inl (List.mem_singleton.mp hsign))
    | minus => exact .inr (.inr (List.mem_singleton.mp hsign))
  · exact .inl (h.isDigit c hdigit)

/-- The characters before the exponent. -/
def mantissa (n : Numeral) : List Char :=
  n.sign.text ++ n.whole.chars ++ fractionText n.fraction

theorem text_eq (n : Numeral) : n.text = n.mantissa ++ exponentText n.exponent := by
  rw [text, mantissa, List.append_assoc, List.append_assoc, List.append_assoc]

theorem of_mem_mantissa {n : Numeral} {c : Char} (hc : c ∈ n.mantissa) :
    c.isDigit = true ∨ c = '+' ∨ c = '-' ∨ c = '.' := by
  rcases List.mem_append.mp hc with hsigned | hfraction
  · rcases of_mem_signed n.whole.isDigits hsigned with h | h | h
    · exact .inl h
    · exact .inr (.inl h)
    · exact .inr (.inr (.inl h))
  · rcases n with ⟨sign, whole, - | ds, exponent⟩
    · cases hfraction
    · rcases List.mem_cons.mp hfraction with h | h
      · exact .inr (.inr (.inr h))
      · exact .inl (ds.isDigits.isDigit c h)

theorem splitAtFirst_exponent (n : Numeral) :
    Decimal.splitAtFirst (fun c => c == 'e' || c == 'E') n.text =
      (n.mantissa, n.exponent.map fun e => e.sign.text ++ e.digits.chars) := by
  have hbefore : ∀ c ∈ n.mantissa, (c == 'e' || c == 'E') = false := by
    intro c hc
    rw [Bool.or_eq_false_iff, beq_eq_false_iff_ne, beq_eq_false_iff_ne]
    rcases of_mem_mantissa hc with h | rfl | rfl | rfl
    · constructor
      all_goals
        rintro rfl
        cases h
    all_goals decide
  rw [text_eq]
  cases n.exponent with
  | none =>
    rw [exponentText, List.append_nil, splitAtFirst_eq_none hbefore]
    rfl
  | some e =>
    have hletter : (e.letter == 'e' || e.letter == 'E') = true := by
      rw [Bool.or_eq_true, beq_iff_eq, beq_iff_eq]
      exact e.isLetter
    rw [exponentText, Exponent.text, splitAtFirst_eq_some hbefore hletter]
    rfl

theorem splitAtFirst_point (n : Numeral) :
    Decimal.splitAtFirst (· == '.') n.mantissa =
      (n.sign.text ++ n.whole.chars, n.fraction.map Digits.chars) := by
  have hbefore : ∀ c ∈ n.sign.text ++ n.whole.chars, (c == '.') = false := by
    intro c hc
    rw [beq_eq_false_iff_ne]
    rintro rfl
    rcases of_mem_signed n.whole.isDigits hc with h | h | h
    all_goals cases h
  rw [mantissa]
  cases n.fraction with
  | none =>
    rw [fractionText, List.append_nil, splitAtFirst_eq_none hbefore]
    rfl
  | some ds =>
    rw [fractionText, splitAtFirst_eq_some hbefore rfl]
    rfl

theorem isDigit_of_mem_places {n : Numeral} {c : Char} (hc : c ∈ n.places) : c.isDigit = true := by
  rcases n with ⟨sign, whole, - | ds, exponent⟩
  · cases hc
  · exact ds.isDigits.isDigit c hc

/-- The decimal that a numeral is read as; its scale has to be a number of 64 bits. -/
theorem ofChars?_text_eq_some_iff {n : Numeral} {d : Decimal} : Decimal.ofChars? n.text = some d ↔
    Decimal.scaleFits n.scale = true ∧
      ⟨n.sign.factor * valueOf (n.whole.chars ++ n.places), n.scale⟩ = d := by
  have hdigits : IsDigits (n.whole.chars ++ n.places) := by
    refine ⟨List.append_ne_nil_of_left_ne_nil n.whole.isDigits.ne_nil _, fun c hc => ?_⟩
    rcases List.mem_append.mp hc with hwhole | hplaces
    · exact n.whole.isDigits.isDigit c hwhole
    · exact isDigit_of_mem_places hplaces
  have hinteger := readInteger?_signed n.sign hdigits
  rw [← List.append_assoc] at hinteger
  have hplaces : (n.fraction.map Digits.chars).getD [] = n.places := rfl
  have hfilter : n.places.filter (· ≠ '_') = n.places := by
    refine List.filter_eq_self.mpr fun c hc => decide_eq_true ?_
    rintro rfl
    exact absurd (isDigit_of_mem_places hc) (by decide)
  have hscale : (n.places.length : ℤ) - n.power = n.scale := rfl
  rw [Decimal.ofChars?, splitAtFirst_exponent]
  simp only [splitAtFirst_point, hplaces, hfilter]
  cases hexponent : n.exponent with
  | none =>
    have hpower : n.power = 0 := by
      rw [power, hexponent]
      rfl
    rw [hpower] at hscale
    simp only [Option.map_none]
    rw [Option.bind_eq_bind, Option.bind_some, hinteger, Option.bind_some, hscale,
      Option.ite_none_right_eq_some, Option.some.injEq]
  | some e =>
    have hpower : readInt? (e.sign.text ++ e.digits.chars) = some n.power := by
      rw [readInt?_signed e.sign e.digits.isDigits, power, hexponent]
      rfl
    simp only [Option.map_some]
    rw [Option.bind_eq_bind, hpower, Option.bind_some, hinteger, Option.bind_some, hscale,
      Option.ite_none_right_eq_some, Option.some.injEq]

/-- The decimal that a numeral is read as is its value. -/
theorem toRat_digits (n : Numeral) :
    (⟨n.sign.factor * valueOf (n.whole.chars ++ n.places), n.scale⟩ : Decimal).toRat =
      n.value := by
  have hten : (10 : ℚ) ^ n.places.length ≠ 0 := pow_ne_zero _ (by norm_num)
  have hpower : (10 : ℚ) ^ (-n.scale) = 10 ^ n.power / 10 ^ n.places.length := by
    rw [scale, neg_sub, zpow_sub₀ (by norm_num), zpow_natCast]
  rw [Decimal.toRat, value, hpower, valueOf_append, Nat.pow_eq, Digits.value]
  push_cast
  field_simp

theorem eq_value_of_readInt? {n : Numeral} {m : ℤ} (h : readInt? n.text = some m) :
    (m : ℚ) = n.value := by
  have hnone : ∀ c ∈ n.text, c.isDigit = false → c ≠ '+' → c ≠ '-' → False := by
    intro c hc hdigit hplus hminus
    rw [readInt?_eq_none hc hdigit hplus hminus] at h
    cases h
  rcases n with ⟨sign, whole, fraction, exponent⟩
  cases fraction with
  | some ds =>
    refine absurd (hnone '.' ?_ rfl (by decide) (by decide)) id
    simp [text, fractionText]
  | none =>
    cases exponent with
    | some e =>
      have hmem : e.letter ∈ (⟨sign, whole, none, some e⟩ : Numeral).text := by
        simp [text, exponentText, Exponent.text]
      rcases e.isLetter with hletter | hletter
      all_goals
        rw [hletter] at hmem
        exact absurd (hnone _ hmem rfl (by decide) (by decide)) id
    | none =>
      have htext : (⟨sign, whole, none, none⟩ : Numeral).text = sign.text ++ whole.chars := by
        simp [text, fractionText, exponentText]
      rw [htext, readInt?_signed sign whole.isDigits] at h
      rw [← Option.some.inj h]
      simp [value, places, power, Digits.value, valueOf]

theorem of_mem_text {n : Numeral} {c : Char} (hc : c ∈ n.text) :
    c.isDigit = true ∨ c ∈ ['+', '-', '.', 'e', 'E'] := by
  rw [text_eq] at hc
  rcases List.mem_append.mp hc with hmantissa | hexponent
  · rcases of_mem_mantissa hmantissa with h | rfl | rfl | rfl
    · exact .inl h
    all_goals exact .inr (by decide)
  · rcases n with ⟨sign, whole, fraction, - | e⟩
    · cases hexponent
    · rcases List.mem_cons.mp hexponent with rfl | h
      · rcases e.isLetter with hletter | hletter
        all_goals exact .inr (by rw [hletter]; decide)
      · rcases of_mem_signed e.digits.isDigits h with h | rfl | rfl
        · exact .inl h
        all_goals exact .inr (by decide)

theorem isBlank_of_mem_text {n : Numeral} {c : Char} (hc : c ∈ n.text) : isBlank c = false := by
  rcases of_mem_text hc with h | h
  · exact isBlank_of_isWordChar (isWordChar_of_isDigit h)
  · have hsymbols : ∀ c ∈ ['+', '-', '.', 'e', 'E'], isBlank c = false := by decide
    exact hsymbols c h

theorem trimBlanks_of_forall (h : ∀ c ∈ s, isBlank c = false) : trimBlanks s = s := by
  have hskip : ∀ t : List Char, (∀ c ∈ t, isBlank c = false) → skipBlanks t = t := by
    intro t ht
    cases t with
    | nil => rfl
    | cons c t => exact skipBlanks_cons_of_not_blank (ht c (by simp)) t
  rw [trimBlanks, hskip s h, hskip s.reverse fun c hc => h c (List.mem_reverse.mp hc),
    List.reverse_reverse]

/-- A numeral that is read as a number is read as its value: as an integer of 64 bits if it can be
    one, else as a decimal. -/
theorem exists_of_readNumber?_text {n : Numeral} {v : Value}
    (h : Value.readNumber? (String.ofList n.text) = some v) :
    ∃ d, v.toDecimal? = some d ∧ d.toRat = n.value := by
  rw [Value.readNumber?, String.toList_ofList,
    trimBlanks_of_forall fun c hc => isBlank_of_mem_text hc] at h
  cases hread : (readInt? n.text).filter (Value.fitsInt64 ·) with
  | some m =>
    obtain ⟨hint, hfits⟩ := Option.filter_eq_some_iff.mp hread
    simp only [hread] at h
    cases h
    refine ⟨_, rfl, ?_⟩
    rw [Value.toInt_ofInt_of_fitsInt64 hfits, Decimal.toRat_ofInt]
    exact eq_value_of_readInt? hint
  | none =>
    simp only [hread] at h
    obtain ⟨d, hd, rfl⟩ := Option.map_eq_some_iff.mp h
    obtain ⟨-, rfl⟩ := ofChars?_text_eq_some_iff.mp hd
    exact ⟨_, rfl, toRat_digits n⟩

/-- A numeral whose scale is a number of 64 bits is read as its value. -/
theorem readNumber?_text {n : Numeral} (h : Decimal.scaleFits n.scale = true) :
    ∃ v d, Value.readNumber? (String.ofList n.text) = some v ∧ v.toDecimal? = some d ∧
      d.toRat = n.value := by
  have hread : ∃ v, Value.readNumber? (String.ofList n.text) = some v := by
    rw [Value.readNumber?, String.toList_ofList,
      trimBlanks_of_forall fun c hc => isBlank_of_mem_text hc,
      ofChars?_text_eq_some_iff.mpr ⟨h, rfl⟩]
    cases (readInt? n.text).filter (Value.fitsInt64 ·) with
    | some m => exact ⟨_, rfl⟩
    | none => exact ⟨_, rfl⟩
  obtain ⟨v, hv⟩ := hread
  obtain ⟨d, hd, hvalue⟩ := exists_of_readNumber?_text hv
  exact ⟨v, d, hv, hd, hvalue⟩

end Reading

end Numeral

/-! ## Operators between numbers -/

namespace Operator

/-- The relation between numbers that an operator stands for; not every operator does. -/
def relation? : Operator → Option (ℚ → ℚ → Prop)
  | equal => some (· = ·)
  | notEqual => some (· ≠ ·)
  | less => some (· < ·)
  | lessEqual => some (· ≤ ·)
  | greater => some (· > ·)
  | greaterEqual => some (· ≥ ·)
  | _ => none

end Operator

namespace Value

variable {v w : Value} {a b : Decimal}

/-- Numbers are equal as numbers, whichever of them are integers. -/
theorem isEqual_of_toDecimal? (hv : v.toDecimal? = some a) (hw : w.toDecimal? = some b) :
    v.isEqual w = (a.compare b == .eq) := by
  cases v with
  | integer m =>
    cases hv
    cases w with
    | integer n =>
      cases hw
      exact (Decimal.compare_ofInt_beq_eq m n).symm
    | decimal =>
      cases hw
      rfl
    | _ => cases hw
  | decimal =>
    cases hv
    cases w with
    | integer | decimal =>
      cases hw
      rfl
    | _ => cases hw
  | _ => cases hv

theorem isNotEqual_of_toDecimal? (hv : v.toDecimal? = some a) (hw : w.toDecimal? = some b) :
    v.isNotEqual w = !(a.compare b == .eq) := by
  have hpresent : ∀ {u : Value} {d : Decimal}, u.toDecimal? = some d → u.isAbsent = false := by
    intro u d hu
    cases u with
    | integer | decimal => rfl
    | _ => cases hu
  rw [isNotEqual_eq, hpresent hv, hpresent hw, isEqual_of_toDecimal? hv hw]
  rfl

theorem normalized_of_toDecimal? (hv : v.toDecimal? = some a) : v.normalized = v := by
  cases v with
  | integer | decimal => rfl
  | _ => cases hv

end Value

/-- An operator holds between two numbers if its relation does. -/
theorem Operator.holds_iff_of_toDecimal? {op : Operator} {R : ℚ → ℚ → Prop} {v w : Value}
    {a b : Decimal} (hop : op.relation? = some R) (hv : v.toDecimal? = some a)
    (hw : w.toDecimal? = some b) : op.holds v w = true ↔ R a.toRat b.toRat := by
  have hequal := Value.isEqual_of_toDecimal? hv hw
  have hnotEqual := Value.isNotEqual_of_toDecimal? hv hw
  have hcompare := Value.compare?_of_toDecimal? hv hw
  rw [Decimal.compare_eq_cmp] at hequal hnotEqual hcompare
  cases op with
  | equal =>
    cases hop
    rw [Operator.holds, hequal, beq_iff_eq, cmp_eq_eq_iff]
  | notEqual =>
    cases hop
    rw [Operator.holds, hnotEqual, Bool.not_eq_true', beq_eq_false_iff_ne, ne_eq, cmp_eq_eq_iff]
  | less =>
    cases hop
    rw [Operator.holds, hcompare, beq_iff_eq, Option.some.injEq, cmp_eq_lt_iff]
  | lessEqual =>
    cases hop
    rw [Operator.holds, hcompare, Option.any_some, Ordering.isLE_iff_ne_gt, cmp_eq_gt_iff,
      not_lt]
  | greater =>
    cases hop
    rw [Operator.holds, hcompare, beq_iff_eq, Option.some.injEq, cmp_eq_gt_iff]
  | greaterEqual =>
    cases hop
    rw [Operator.holds, hcompare, Option.any_some, Ordering.isGE_iff_ne_lt, cmp_eq_lt_iff,
      not_lt]
  | _ => cases hop

/-! ## Comparisons in filter texts -/

namespace Expr

/-- The text of a comparison of a property with a number. -/
def comparisonText (path : String) (op : Operator) (number : String) : String :=
  "[" ++ path ++ "] " ++ op.spelling ++ " " ++ number

theorem spelling_mem_symbols {op : Operator} {R : ℚ → ℚ → Prop} (h : op.relation? = some R) :
    op.spelling ∈ op.symbols := by
  cases op with
  | equal | notEqual | less | lessEqual | greater | greaterEqual => decide
  | _ => cases h

theorem parse_comparisonText {path : String} {op : Operator} {R : ℚ → ℚ → Prop} (n : Numeral)
    (hpath : IsPath path.toList) (hop : op.relation? = some R) :
    parse (comparisonText path op (String.ofList n.text)) =
      .ok (.compare op (.property path) (.number (String.ofList n.text))) := by
  have hnumber : IsNumber (String.ofList n.text).toList := by
    rw [String.toList_ofList]
    exact Numeral.isNumber_iff.mpr ⟨n, rfl⟩
  have hparse := parse_testText hpath (spelling_mem_symbols hop) (.number hnumber) id .number
  rw [String.ofList_toList] at hparse
  exact hparse

end Expr

/-- Comparing a property with a numeral. The numerals are the texts with the shape of a number. For
    each whose scale is a number of 64 bits, and each of the six operators between numbers, the text
    of the comparison is a filter. It accepts the resources whose property stands in the relation of
    the operator to the value of the numeral, provided that the property is a number. -/
theorem Context.compile_comparisonText :
    (∀ s, IsNumber s ↔ ∃ n : Numeral, n.text = s) ∧
    ∀ (path : String) (op : Operator) (R : ℚ → ℚ → Prop) (n : Numeral), IsPath path.toList →
      '/' ∉ path.toList → op.relation? = some R → -2 ^ 63 ≤ n.scale → n.scale < 2 ^ 63 →
      ∃ e, parse (comparisonText path op (String.ofList n.text)) = .ok e ∧
        ∀ (c : Context) (s : Subject) (v : Value) (d : Decimal),
          s.resource.visibleProperties.find? path = some v → v.toDecimal? = some d →
          (c.compile e s = true ↔ R d.toRat n.value) := by
  refine ⟨fun s => Numeral.isNumber_iff, ?_⟩
  intro path op R n hpath hslash hop hmin hmax
  refine ⟨_, parse_comparisonText n hpath hop, ?_⟩
  intro c s v d hfind hv
  have hfits : Decimal.scaleFits n.scale = true := by
    rw [Decimal.scaleFits, Bool.and_eq_true, decide_eq_true_iff, decide_eq_true_iff]
    exact ⟨hmin, hmax⟩
  obtain ⟨w, d', hread, hw, hvalue⟩ := Numeral.readNumber?_text hfits
  have hleft : (c.compileValue (.property path)).apply s = v := by
    rw [Context.compileValue, Provider.apply, Resource.property_of_not_mem s.resource hslash, hfind,
      Option.getD_some, Value.normalized_of_toDecimal? hv]
  have hright : (c.compileValue (.number (String.ofList n.text))).apply s = w := by
    rw [Context.compileValue, hread]
    rfl
  rw [Context.compile, Predicate.comparison_apply, hleft, hright,
    Operator.holds_iff_of_toDecimal? hop hv hw, hvalue]

/-- `922337203685477580.8e1`: the first number after the integers of 64 bits. -/
def Numeral.pastInt64 : Numeral where
  sign := .none
  whole := ⟨"922337203685477580".toList, by decide, by decide⟩
  fraction := some ⟨['8'], by decide, by decide⟩
  exponent := some ⟨'e', .inl rfl, .none, ⟨['1'], by decide, by decide⟩⟩

/-- The greatest integer of 64 bits is less than the number after it, written as a decimal. -/
theorem Context.compile_comparisonText_pastInt64 :
    IsPath "size".toList ∧ '/' ∉ "size".toList ∧ Operator.less.relation? = some (· < ·) ∧
    -2 ^ 63 ≤ Numeral.pastInt64.scale ∧ Numeral.pastInt64.scale < 2 ^ 63 ∧
    ∃ e, parse (comparisonText "size" .less (String.ofList Numeral.pastInt64.text)) = .ok e ∧
      Context.standard.compile e ⟨(Resource.new "/").withProperty "size"
        (.integer 9223372036854775807), ⟨0, 0⟩⟩ = true := by
  have hpath : IsPath "size".toList := ⟨by decide, by decide, by decide⟩
  have hslash : '/' ∉ "size".toList := by decide
  have hmin : -2 ^ 63 ≤ Numeral.pastInt64.scale := by decide
  have hmax : Numeral.pastInt64.scale < 2 ^ 63 := by decide
  obtain ⟨e, hparse, hholds⟩ := Context.compile_comparisonText.2 "size" .less (· < ·)
    Numeral.pastInt64 hpath hslash rfl hmin hmax
  refine ⟨hpath, hslash, rfl, hmin, hmax, e, hparse, ?_⟩
  have hfind : ((Resource.new "/").withProperty "size"
      (.integer 9223372036854775807)).visibleProperties.find? "size" =
      some (.integer 9223372036854775807) := by
    show (NameTable.empty.insert "size" _).find? "size" = _
    rw [NameTable.find?_insert, if_pos rfl]
  have hint : (9223372036854775807 : Int64).toInt = 9223372036854775807 := by decide
  refine (hholds Context.standard _ _ (.ofInt (9223372036854775807 : Int64).toInt) hfind rfl).mpr ?_
  have hvalue : Numeral.pastInt64.value = 9223372036854775808 := by
    have hwhole : Numeral.pastInt64.whole.value = 922337203685477580 := by decide +kernel
    have hplaces : valueOf Numeral.pastInt64.places = 8 := by decide +kernel
    have hlength : Numeral.pastInt64.places.length = 1 := by decide +kernel
    have hpower : Numeral.pastInt64.power = 1 := by decide +kernel
    have hsign : Numeral.pastInt64.sign.factor = 1 := rfl
    rw [Numeral.value, hwhole, hplaces, hlength, hpower, hsign]
    norm_num
  rw [hvalue, Decimal.toRat_ofInt, hint]
  norm_num

end ContentFilter
