import ContentFilter.Proofs.Numeral

/-!
# Written decimals read back

A decimal is written as a numeral in one of four layouts: as zero, with an exponent after the first
digit, with an exponent after the last digit, or positionally. Whichever it is, the numeral has the
decimal's digits up to zeros and stands for the same number, and its scale is the decimal's own or
none. So it is read back as this number; only the scale, which the exponent may make as great as the
decimal's, has to be one of 64 bits.
-/

namespace ContentFilter

open Text ContentFilter.Expr

namespace Numeral

variable {ds : List Char}

/-! ## Digits -/

theorem isDigits_digitsOf (n : ℕ) : IsDigits (digitsOf n) :=
  ⟨digitsOf_ne_nil n, fun _ => isDigit_of_mem_digitsOf⟩

theorem valueOf_zeros (k : ℕ) : valueOf (List.replicate k '0') = 0 := by
  induction k with
  | zero => rfl
  | succ k ih =>
    rw [List.replicate_succ', valueOf_append, ih]
    rfl

theorem isDigit_of_mem_zeros {k : ℕ} {c : Char} (hc : c ∈ List.replicate k '0') :
    c.isDigit = true := by
  rw [List.eq_of_mem_replicate hc]
  rfl

theorem isDigits_append_zeros (h : IsDigits ds) (k : ℕ) :
    IsDigits (ds ++ List.replicate k '0') := by
  refine ⟨List.append_ne_nil_of_left_ne_nil h.ne_nil _, fun c hc => ?_⟩
  rcases List.mem_append.mp hc with hc | hc
  · exact h.isDigit c hc
  · exact isDigit_of_mem_zeros hc

theorem isDigits_zeros_append (h : IsDigits ds) (k : ℕ) :
    IsDigits (List.replicate k '0' ++ ds) := by
  refine ⟨List.append_ne_nil_of_right_ne_nil _ h.ne_nil, fun c hc => ?_⟩
  rcases List.mem_append.mp hc with hc | hc
  · exact isDigit_of_mem_zeros hc
  · exact h.isDigit c hc

theorem valueOf_zeros_append (k : ℕ) (ds : List Char) :
    valueOf (List.replicate k '0' ++ ds) = valueOf ds := by
  rw [valueOf_append, valueOf_zeros, Nat.mul_zero, Nat.zero_add]

/-- An integer is written as a sign and digits that stand for it. -/
theorem exists_signed (n : ℤ) : ∃ (sign : Sign) (digits : Digits),
    sign.text ++ digits.chars = signedDigitsOf n ∧ sign.factor * digits.value = n := by
  cases n with
  | ofNat n =>
    refine ⟨.none, ⟨_, isDigits_digitsOf n⟩, rfl, ?_⟩
    rw [Sign.factor, Digits.value, valueOf_digitsOf, one_mul]
    rfl
  | negSucc n =>
    refine ⟨.minus, ⟨_, isDigits_digitsOf (n + 1)⟩, rfl, ?_⟩
    rw [Sign.factor, Digits.value, valueOf_digitsOf, neg_one_mul]
    rfl

/-! ## Layouts -/

/-- `n.Writes sign ds scale`: the numeral is the number with the given sign, digits and scale, and
    has its scale or none. -/
structure Writes (n : Numeral) (sign : Sign) (ds : List Char) (scale : ℤ) : Prop where
  value_eq : n.value = sign.factor * valueOf ds * 10 ^ (-scale)
  scale_eq : n.scale = scale ∨ n.scale = 0

/-- A numeral with the same digits up to zeros in front. -/
theorem writes_of_valueOf {n : Numeral} {scale : ℤ}
    (hvalue : valueOf (n.whole.chars ++ n.places) = valueOf ds) (hscale : n.scale = scale) :
    n.Writes n.sign ds scale := by
  refine ⟨?_, .inl hscale⟩
  rw [← toRat_digits, Decimal.toRat, hvalue, hscale]
  push_cast
  rfl

variable (sign : Sign)

theorem exists_writes_scientific (h : IsDigits ds) (scale : ℤ) :
    ∃ n : Numeral, n.text = sign.text ++ (Decimal.scientificDigits ds ++
      'E' :: signedDigitsOf (ds.length - 1 - scale)) ∧ n.Writes sign ds scale := by
  obtain ⟨esign, edigits, htext, hpower⟩ := exists_signed (ds.length - 1 - scale)
  let exponent : Exponent := ⟨'E', .inr rfl, esign, edigits⟩
  have hexponent : exponent.text = 'E' :: signedDigitsOf (ds.length - 1 - scale) := by
    rw [← htext]
    rfl
  match ds, h with
  | [c], h =>
    refine ⟨⟨sign, ⟨[c], h⟩, none, some exponent⟩, ?_, writes_of_valueOf (by rfl) ?_⟩
    · rw [text, ← hexponent]
      rfl
    · show ((0 : ℕ) : ℤ) - exponent.power = scale
      rw [Exponent.power, hpower, List.length_singleton]
      omega
  | c :: d :: r, h =>
    have hwhole : IsDigits [c] := ⟨by simp, fun x hx => h.isDigit x (by simp_all)⟩
    have hplaces : IsDigits (d :: r) := ⟨by simp, fun x hx => h.isDigit x (by simp_all)⟩
    refine ⟨⟨sign, ⟨[c], hwhole⟩, some ⟨d :: r, hplaces⟩, some exponent⟩, ?_,
      writes_of_valueOf (by rfl) ?_⟩
    · rw [text, ← hexponent]
      simp [fractionText, exponentText, Decimal.scientificDigits]
    · show ((d :: r).length : ℤ) - exponent.power = scale
      rw [Exponent.power, hpower, List.length_cons (a := c)]
      omega

theorem exists_writes_trailing (h : IsDigits ds) {scale : ℤ} (hscale : scale ≤ 0) :
    ∃ n : Numeral, n.text = sign.text ++ (ds ++ 'e' :: '+' :: signedDigitsOf (-scale)) ∧
      n.Writes sign ds scale := by
  obtain ⟨k, hk⟩ := Int.eq_ofNat_of_zero_le (neg_nonneg.mpr hscale)
  let exponent : Exponent := ⟨'e', .inl rfl, .plus, ⟨_, isDigits_digitsOf k⟩⟩
  refine ⟨⟨sign, ⟨ds, h⟩, none, some exponent⟩, ?_, writes_of_valueOf ?_ ?_⟩
  · rw [hk]
    simp [text, fractionText, exponentText, exponent, Exponent.text, Sign.text, signedDigitsOf]
  · simp [places]
  · show ((0 : ℕ) : ℤ) - exponent.power = scale
    rw [Exponent.power, Digits.value, valueOf_digitsOf, Sign.factor]
    omega

theorem writes_zeros_behind (h : IsDigits ds) (k : ℕ) :
    (⟨sign, ⟨_, isDigits_append_zeros h k⟩, none, none⟩ : Numeral).Writes sign ds (-k) := by
  refine ⟨?_, .inr rfl⟩
  have hdigits : valueOf (ds ++ List.replicate k '0' ++ []) = 10 ^ k * valueOf ds := by
    rw [List.append_nil, valueOf_append, valueOf_zeros, List.length_replicate, Nat.add_zero,
      Nat.pow_eq]
  rw [← toRat_digits]
  show ((sign.factor * valueOf (ds ++ List.replicate k '0' ++ []) : ℤ) : ℚ) * 10 ^ (-0 : ℤ) = _
  rw [hdigits, neg_neg, zpow_natCast]
  push_cast
  ring

theorem exists_writes_positional (h : IsDigits ds) (scale : ℤ) :
    ∃ n : Numeral, n.text = sign.text ++ Decimal.positional ds scale ∧ n.Writes sign ds scale := by
  rw [Decimal.positional]
  by_cases hscale : scale ≤ 0
  · obtain ⟨k, hk⟩ := Int.eq_ofNat_of_zero_le (neg_nonneg.mpr hscale)
    obtain rfl : scale = -k := by omega
    refine ⟨_, ?_, writes_zeros_behind sign h k⟩
    rw [if_pos hscale, hk]
    simp [text, fractionText, exponentText]
  · obtain ⟨places, rfl⟩ := Int.eq_ofNat_of_zero_le (le_of_not_ge hscale)
    have hpos : places ≠ 0 := by omega
    rw [if_neg hscale]
    simp only [Int.toNat_natCast]
    by_cases hlt : places < ds.length
    · have hlength : ds.length - places ≠ 0 := by omega
      have hwhole : IsDigits (ds.take (ds.length - places)) :=
        ⟨by simp [hlength, h.ne_nil], fun c hc => h.isDigit c (List.mem_of_mem_take hc)⟩
      have hfraction : IsDigits (ds.drop (ds.length - places)) :=
        ⟨by simp; omega, fun c hc => h.isDigit c (List.mem_of_mem_drop hc)⟩
      refine ⟨⟨sign, ⟨_, hwhole⟩, some ⟨_, hfraction⟩, none⟩, ?_, writes_of_valueOf ?_ ?_⟩
      · rw [if_pos hlt]
        simp [text, fractionText, exponentText]
      · exact congrArg valueOf (List.take_append_drop _ _)
      · show ((ds.drop (ds.length - places)).length : ℤ) - 0 = places
        rw [List.length_drop]
        omega
    · have hwhole : IsDigits ['0'] := ⟨by simp, by simp⟩
      have hfraction := isDigits_zeros_append h (places - ds.length)
      refine ⟨⟨sign, ⟨_, hwhole⟩, some ⟨_, hfraction⟩, none⟩, ?_, writes_of_valueOf ?_ ?_⟩
      · rw [if_neg hlt]
        simp [text, fractionText, exponentText]
      · exact valueOf_zeros_append (places - ds.length + 1) ds
      · show ((List.replicate (places - ds.length) '0' ++ ds).length : ℤ) - 0 = places
        rw [List.length_append, List.length_replicate]
        omega

/-- In every layout a magnitude is written as a numeral. -/
theorem exists_writes (h : IsDigits ds) (scale : ℤ) :
    ∃ n : Numeral, n.text = sign.text ++ Decimal.magnitudeText ds scale ∧
      n.Writes sign ds scale := by
  rw [Decimal.magnitudeText]
  split
  · exact exists_writes_scientific sign h scale
  · split
    · rename_i htrailing
      exact exists_writes_trailing sign h (by rw [Decimal.trailingZeroLimit] at htrailing; omega)
    · exact exists_writes_positional sign h scale

end Numeral

/-! ## Decimals -/

namespace Decimal

/-- A decimal is written as a numeral that stands for it. -/
theorem exists_numeral (d : Decimal) : ∃ n : Numeral, n.text = d.chars ∧ n.value = d.toRat ∧
    (n.scale = d.scale ∨ n.scale = 0) := by
  rw [chars]
  by_cases hzero : d.digits = 0
  · have hdigits : IsDigits ['0'] := ⟨by simp, by simp⟩
    refine ⟨⟨.none, ⟨_, hdigits⟩, none, none⟩, by rw [if_pos hzero]; rfl, ?_, .inr rfl⟩
    rw [toRat_eq_zero hzero, ← Numeral.toRat_digits]
    exact toRat_eq_zero (by rfl)
  · have hmagnitude := Numeral.isDigits_digitsOf d.digits.natAbs
    by_cases hneg : d.digits < 0
    · obtain ⟨n, htext, hvalue, hscale⟩ := Numeral.exists_writes .minus hmagnitude d.scale
      refine ⟨n, by rw [htext, if_neg hzero, if_pos hneg]; rfl, ?_, hscale⟩
      rw [hvalue, valueOf_digitsOf, toRat, Numeral.Sign.factor]
      have habs : (d.digits.natAbs : ℚ) = -d.digits := by
        rw [Nat.cast_natAbs, Int.cast_abs, abs_of_neg (Int.cast_lt_zero.mpr hneg)]
      rw [habs, Int.cast_neg, Int.cast_one, neg_one_mul, neg_neg]
    · obtain ⟨n, htext, hvalue, hscale⟩ := Numeral.exists_writes .none hmagnitude d.scale
      refine ⟨n, by rw [htext, if_neg hzero, if_neg hneg]; rfl, ?_, hscale⟩
      rw [hvalue, valueOf_digitsOf, toRat, Numeral.Sign.factor]
      have habs : (d.digits.natAbs : ℚ) = d.digits := by
        rw [Nat.cast_natAbs, Int.cast_abs, abs_of_nonneg (Int.cast_nonneg (not_lt.mp hneg))]
      rw [habs, Int.cast_one, one_mul]

end Decimal

namespace Value

variable {v w : Value} {d : Decimal}

/-- A number is written as a numeral that stands for it. -/
theorem exists_numeral_of_toDecimal? (hv : v.toDecimal? = some d) :
    ∃ n : Numeral, v.toText? = some (String.ofList n.text) ∧ n.value = d.toRat ∧
      (n.scale = d.scale ∨ n.scale = 0) := by
  cases v with
  | integer m =>
    cases hv
    obtain ⟨sign, digits, htext, hvalue⟩ := Numeral.exists_signed m.toInt
    refine ⟨⟨sign, digits, none, none⟩, ?_, ?_, .inr rfl⟩
    · rw [toText?, ← htext]
      simp [Numeral.text, Numeral.fractionText, Numeral.exponentText]
    · rw [Decimal.toRat_ofInt, ← hvalue]
      simp [Numeral.value, Numeral.places, Numeral.power, valueOf]
  | decimal =>
    cases hv
    obtain ⟨n, htext, hvalue, hscale⟩ := d.exists_numeral
    refine ⟨n, ?_, hvalue, hscale⟩
    rw [htext]
    rfl
  | _ => cases hv

/-- A number that is written and then read as a number is the same number. -/
theorem exists_toRat_of_readNumber? {s : String} (hv : v.toDecimal? = some d)
    (hs : v.toText? = some s) (h : readNumber? s = some w) :
    ∃ e, w.toDecimal? = some e ∧ e.toRat = d.toRat := by
  obtain ⟨n, htext, hvalue, -⟩ := exists_numeral_of_toDecimal? hv
  obtain rfl := Option.some.inj (hs.symm.trans htext)
  rw [← hvalue]
  exact Numeral.exists_of_readNumber?_text h

/-- A number that is written is read as a number if its scale is one of 64 bits. -/
theorem exists_readNumber?_toText (hv : v.toDecimal? = some d)
    (hscale : Decimal.scaleFits d.scale = true) :
    ∃ s w, v.toText? = some s ∧ readNumber? s = some w := by
  obtain ⟨n, htext, -, hn⟩ := exists_numeral_of_toDecimal? hv
  have hfits : Decimal.scaleFits n.scale = true := by
    rcases hn with hn | hn
    · rw [hn, hscale]
    · rw [hn]
      rfl
  obtain ⟨w, -, hread, -⟩ := Numeral.readNumber?_text hfits
  exact ⟨_, w, htext, hread⟩

end Value

end ContentFilter
