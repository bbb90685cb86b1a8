import ContentFilter.Decimal.Shortest
import ContentFilter.Proofs.BinaryNumber
import ContentFilter.Proofs.DecimalOrder
import Mathlib.Tactic.Linarith
import Mathlib.Tactic.NormNum

/-!
# The decimal of a binary number reads back

The numbers that are rounded to one binary number lie between the halves of the ways to its two
neighbours. The search through the decimal grids compares with these two ends in whole numbers; here
the comparisons are those of the rational numbers. What the search finds lies between the ends, at
the latest on the grid with seventeen digits more, whose points are closer to each other than to the
ends.
-/

namespace ContentFilter.Binary64

variable {tie : Tie} {m c : ℕ} {e g : ℤ} {x : ℚ}

/-- The number `m · 2^e`. -/
def magnitude (m : ℕ) (e : ℤ) : ℚ :=
  m * 2 ^ e

/-- The point `c · 10^g` of a decimal grid. -/
def gridPoint (c : ℕ) (g : ℤ) : ℚ :=
  c * 10 ^ g

/-- Halfway to the binary number before. After the least full mantissa it is closer. -/
def lowEnd (m : ℕ) (e : ℤ) : ℚ :=
  magnitude m e - (if m = 2 ^ (precision - 1) ∧ leastExponent < e then 1 / 4 else 1 / 2) * 2 ^ e

/-- Halfway to the binary number behind. -/
def highEnd (m : ℕ) (e : ℤ) : ℚ :=
  magnitude m e + 1 / 2 * 2 ^ e

/-- The number is rounded to `m · 2^e`: it lies between the ends, or is one of them and the mantissa
    is even. -/
structure RoundsTo (x : ℚ) (m : ℕ) (e : ℤ) : Prop where
  low_le : lowEnd m e ≤ x
  le_high : x ≤ highEnd m e
  even_of_end : x = lowEnd m e ∨ x = highEnd m e → m % 2 = 0

/-! ## Comparisons in whole numbers -/

/-- What both sides are multiplied with to make them whole. -/
def wholeFactor (g e : ℤ) : ℚ :=
  10 ^ (-g).toNat * 2 ^ (-e).toNat

theorem wholeFactor_pos (g e : ℤ) : 0 < wholeFactor g e :=
  mul_pos (pow_pos (by norm_num) _) (pow_pos (by norm_num) _)

theorem gridPoint_mul_wholeFactor (c : ℕ) (g e : ℤ) :
    gridPoint c g * wholeFactor g e =
      ((c * Nat.pow 10 g.toNat * Nat.pow 2 (-e).toNat : ℕ) : ℚ) := by
  rw [gridPoint, wholeFactor, ← mul_assoc, mul_assoc (c : ℚ), zpow_mul_toNat (by norm_num)]
  simp only [Nat.pow_eq, Nat.cast_mul, Nat.cast_pow, Nat.cast_ofNat]

theorem magnitude_mul_wholeFactor (m : ℕ) (g e : ℤ) :
    magnitude m e * wholeFactor g e =
      ((m * Nat.pow 2 e.toNat * Nat.pow 10 (-g).toNat : ℕ) : ℚ) := by
  rw [magnitude, wholeFactor, mul_comm (10 ^ (-g).toNat : ℚ), ← mul_assoc, mul_assoc (m : ℚ),
    zpow_mul_toNat (by norm_num)]
  simp only [Nat.pow_eq, Nat.cast_mul, Nat.cast_pow, Nat.cast_ofNat]

theorem compareGrid_eq_cmp (c : ℕ) (g : ℤ) (m : ℕ) (e : ℤ) :
    compareGrid c g m e = cmp (gridPoint c g) (magnitude m e) := by
  rw [← cmp_mul_pos_right (wholeFactor_pos g e), gridPoint_mul_wholeFactor,
    magnitude_mul_wholeFactor, Nat.strictMono_cast.cmp_map_eq, cmp_eq_compare, compareGrid]

theorem compareGrid_eq_gt_iff : compareGrid c g m e = .gt ↔ magnitude m e < gridPoint c g := by
  rw [compareGrid_eq_cmp, cmp_eq_gt_iff]

theorem compareGrid_eq_lt_iff : compareGrid c g m e = .lt ↔ gridPoint c g < magnitude m e := by
  rw [compareGrid_eq_cmp, cmp_eq_lt_iff]

theorem compareGrid_eq_eq_iff : compareGrid c g m e = .eq ↔ gridPoint c g = magnitude m e := by
  rw [compareGrid_eq_cmp, cmp_eq_eq_iff]

/-- The greatest point of the grid that is not above the number. -/
theorem gridFloor_le (g : ℤ) (m : ℕ) (e : ℤ) : gridPoint (gridFloor g m e) g ≤ magnitude m e := by
  refine le_of_mul_le_mul_right ?_ (wholeFactor_pos g e)
  rw [gridPoint_mul_wholeFactor, magnitude_mul_wholeFactor, Nat.cast_le, gridFloor, mul_assoc]
  exact Nat.div_mul_le_self _ _

theorem lt_gridFloor_succ (g : ℤ) (m : ℕ) (e : ℤ) :
    magnitude m e < gridPoint (gridFloor g m e + 1) g := by
  refine lt_of_mul_lt_mul_right ?_ (wholeFactor_pos g e).le
  rw [gridPoint_mul_wholeFactor, magnitude_mul_wholeFactor, Nat.cast_lt, gridFloor, mul_assoc _
    (Nat.pow 10 _) (Nat.pow 2 _), mul_comm (_ + 1)]
  exact Nat.lt_mul_div_succ _ (Nat.mul_pos (Nat.pow_pos (by decide)) (Nat.pow_pos (by decide)))

/-! ## The ends in quarters of the last bit -/

theorem quarter_zpow (e : ℤ) : (2 : ℚ) ^ (e - 2) = 1 / 4 * 2 ^ e := by
  rw [zpow_sub₀ (by norm_num)]
  ring

theorem magnitude_quarters (m : ℕ) (e : ℤ) : magnitude (4 * m) (e - 2) = magnitude m e := by
  rw [magnitude, magnitude, quarter_zpow, Nat.cast_mul]
  ring

theorem highEnd_quarters (m : ℕ) (e : ℤ) : magnitude (4 * m + 2) (e - 2) = highEnd m e := by
  rw [highEnd, magnitude, magnitude, quarter_zpow, Nat.cast_add, Nat.cast_mul]
  ring

theorem lowEnd_quarters (hm : m ≠ 0) (e : ℤ) :
    magnitude (4 * m - if m = Nat.pow 2 (precision - 1) ∧ leastExponent < e then 1 else 2)
      (e - 2) = lowEnd m e := by
  rw [lowEnd, magnitude, magnitude, quarter_zpow, Nat.pow_eq]
  split
  · rw [Nat.cast_sub (by omega), Nat.cast_mul]
    ring
  · rw [Nat.cast_sub (by omega), Nat.cast_mul]
    ring

theorem lowEnd_le_sub (m : ℕ) (e : ℤ) : lowEnd m e ≤ magnitude m e - 1 / 4 * 2 ^ e := by
  have hpos := two_zpow_pos e
  rw [lowEnd]
  split
  · exact le_rfl
  · linarith

theorem lowEnd_lt (m : ℕ) (e : ℤ) : lowEnd m e < magnitude m e := by
  have hpos := two_zpow_pos e
  linarith [lowEnd_le_sub m e]

theorem lt_highEnd (m : ℕ) (e : ℤ) : magnitude m e < highEnd m e := by
  have hpos := two_zpow_pos e
  rw [highEnd]
  linarith

/-! ## Neighbours on a grid -/

/-- The neighbour below is rounded to the number if it is above the low end. -/
theorem roundsTo_below (hle : gridPoint c g ≤ magnitude m e)
    (h : lowEnd m e < gridPoint c g ∨ (m % 2 = 0 ∧ gridPoint c g = lowEnd m e)) :
    RoundsTo (gridPoint c g) m e := by
  have hhigh := hle.trans_lt (lt_highEnd m e)
  rcases h with hlow | ⟨heven, hlow⟩
  · refine ⟨hlow.le, hhigh.le, ?_⟩
    rintro (hend | hend)
    · exact absurd hend hlow.ne'
    · exact absurd hend hhigh.ne
  · exact ⟨hlow.ge, hhigh.le, fun _ => heven⟩

/-- The neighbour above is rounded to the number if it is below the high end. -/
theorem roundsTo_above (hlt : magnitude m e < gridPoint c g)
    (h : gridPoint c g < highEnd m e ∨ (m % 2 = 0 ∧ gridPoint c g = highEnd m e)) :
    RoundsTo (gridPoint c g) m e := by
  have hlow := (lowEnd_lt m e).trans hlt
  rcases h with hhigh | ⟨heven, hhigh⟩
  · refine ⟨hlow.le, hhigh.le, ?_⟩
    rintro (hend | hend)
    · exact absurd hend hlow.ne'
    · exact absurd hend hhigh.ne
  · exact ⟨hlow.le, hhigh.le, fun _ => heven⟩

/-- A neighbour that is found is the one below or the one above, and reads back. -/
theorem roundsTo_of_neighbour? (hm : m ≠ 0) (h : neighbour? tie m e g = some c) :
    RoundsTo (gridPoint c g) m e := by
  have hbelow := gridFloor_le g (4 * m) (e - 2)
  have habove := lt_gridFloor_succ g (4 * m) (e - 2)
  rw [magnitude_quarters] at hbelow habove
  simp only [neighbour?, compareGrid_eq_gt_iff, compareGrid_eq_lt_iff, compareGrid_eq_eq_iff,
    lowEnd_quarters hm, highEnd_quarters] at h
  split at h
  case isTrue hboth =>
    have hcases : c = gridFloor g (4 * m) (e - 2) ∨ c = gridFloor g (4 * m) (e - 2) + 1 := by
      split at h
      · exact .inl (Option.some.inj h).symm
      · exact .inr (Option.some.inj h).symm
      · split at h
        · exact .inl (Option.some.inj h).symm
        · exact .inr (Option.some.inj h).symm
    rcases hcases with rfl | rfl
    · exact roundsTo_below hbelow hboth.1
    · exact roundsTo_above habove hboth.2
  case isFalse =>
    split at h
    case isTrue hreads =>
      cases h
      exact roundsTo_below hbelow hreads
    case isFalse =>
      split at h
      case isTrue hreads =>
        cases h
        exact roundsTo_above habove hreads
      case isFalse => cases h

/-- On a grid that is finer than a quarter of the last bit the neighbour below reads back. -/
theorem roundsTo_gridFloor (hfine : (10 : ℚ) ^ g < 1 / 4 * 2 ^ e) :
    RoundsTo (gridPoint (gridFloor g (4 * m) (e - 2)) g) m e := by
  have hbelow := gridFloor_le g (4 * m) (e - 2)
  have habove := lt_gridFloor_succ g (4 * m) (e - 2)
  rw [magnitude_quarters] at hbelow habove
  refine roundsTo_below hbelow (.inl ?_)
  rw [gridPoint, Nat.cast_add, Nat.cast_one, add_mul, one_mul, ← gridPoint] at habove
  linarith [lowEnd_le_sub m e]

/-- The search ends with a decimal that reads back, if its last grid is fine enough. -/
theorem roundsTo_searchGrids (hm : m ≠ 0) (more : ℕ) (g : ℤ)
    (hfine : (10 : ℚ) ^ (g - more) < 1 / 4 * 2 ^ e) :
    RoundsTo (gridPoint (searchGrids tie m e more g).1 (searchGrids tie m e more g).2) m e := by
  induction more generalizing g with
  | zero =>
    rw [Nat.cast_zero, sub_zero] at hfine
    exact roundsTo_gridFloor hfine
  | succ more ih =>
    rw [searchGrids]
    split
    · rename_i c hc
      exact roundsTo_of_neighbour? hm hc
    · have hexp : g - (more + 1 : ℕ) = g - 1 - more := by omega
      rw [hexp] at hfine
      exact ih (g - 1) hfine

/-! ## The place of the leading digit -/

/-- A number as the quotient of two whole ones. -/
theorem magnitude_mul (m : ℕ) (e : ℤ) :
    magnitude m e * (Nat.pow 2 (-e).toNat : ℕ) = (m * Nat.pow 2 e.toNat : ℕ) := by
  rw [magnitude, Nat.pow_eq, Nat.pow_eq, Nat.cast_mul, Nat.cast_pow, Nat.cast_pow,
    Nat.cast_ofNat, mul_assoc, zpow_mul_toNat (by norm_num)]

theorem ten_pow_le_magnitude {k : ℕ} (h : 10 ^ k * Nat.pow 2 (-e).toNat ≤ m * Nat.pow 2 e.toNat) :
    (10 : ℚ) ^ (k : ℤ) ≤ magnitude m e := by
  have hpos : (0 : ℚ) < (Nat.pow 2 (-e).toNat : ℕ) :=
    Nat.cast_pos.mpr (Nat.pow_pos (by decide))
  refine le_of_mul_le_mul_right ?_ hpos
  rw [magnitude_mul, zpow_natCast]
  exact_mod_cast h

theorem ten_zpow_neg_le_magnitude {k : ℕ}
    (h : Nat.pow 2 (-e).toNat ≤ m * Nat.pow 2 e.toNat * 10 ^ k) :
    (10 : ℚ) ^ (-(k : ℤ)) ≤ magnitude m e := by
  have hpos : (0 : ℚ) < (Nat.pow 2 (-e).toNat : ℕ) :=
    Nat.cast_pos.mpr (Nat.pow_pos (by decide))
  rw [zpow_neg, zpow_natCast, inv_le_iff_one_le_mul₀ (pow_pos (by norm_num) k)]
  refine le_of_mul_le_mul_right ?_ hpos
  rw [one_mul, mul_right_comm, magnitude_mul]
  exact_mod_cast h

/-- A number is not below the power of ten at its leading digit. -/
theorem ten_zpow_le_magnitude (hm : m ≠ 0) (e : ℤ) :
    (10 : ℚ) ^ (leadingPlace m e - 1) ≤ magnitude m e := by
  have hden : 0 < Nat.pow 2 (-e).toNat := Nat.pow_pos (by decide)
  have hnum : 0 < m * Nat.pow 2 e.toNat :=
    Nat.mul_pos (Nat.pos_of_ne_zero hm) (Nat.pow_pos (by decide))
  have hcount : ∀ n, 0 < Text.digitCount n := fun n => Nat.length_toDigits_pos
  simp only [leadingPlace]
  split
  case isTrue hle =>
    -- the number is one or more
    have hquotient := Decimal.ten_pow_le_of_digitCount (Nat.div_pos hle hden).ne'
    have hexp := Nat.cast_pred (R := ℤ) (hcount (m * Nat.pow 2 e.toNat / Nat.pow 2 (-e).toNat))
    rw [← hexp]
    exact ten_pow_le_magnitude ((Nat.le_div_iff_mul_le hden).mp hquotient)
  case isFalse hlt =>
    -- the number is below one, and its reciprocal is counted
    generalize hcounted : Text.digitCount (Nat.pow 2 (-e).toNat / (m * Nat.pow 2 e.toNat)) = count
    have hpos : 0 < count := hcounted ▸ hcount _
    split
    case isTrue hpower =>
      have hexp : (2 : ℤ) - count - 1 = -((count - 1 : ℕ) : ℤ) := by omega
      rw [hexp]
      exact ten_zpow_neg_le_magnitude hpower.ge
    case isFalse =>
      have hquotient := Decimal.lt_ten_pow_digitCount
        (Nat.pow 2 (-e).toNat / (m * Nat.pow 2 e.toNat))
      rw [hcounted, Nat.div_lt_iff_lt_mul hnum, mul_comm] at hquotient
      have hexp : (1 : ℤ) - count - 1 = -(count : ℤ) := by omega
      rw [hexp]
      exact ten_zpow_neg_le_magnitude hquotient.le

/-! ## The shortest decimal -/

/-- Seventeen digits more than the leading one are finer than a quarter of the last bit. -/
theorem ten_zpow_lt_quarter (hm : m ≠ 0) (hfull : m < 2 ^ precision) (e : ℤ) :
    (10 : ℚ) ^ (leadingPlace m e - 1 - (17 : ℕ)) < 1 / 4 * 2 ^ e := by
  have hle := ten_zpow_le_magnitude hm e
  have hmantissa : (m : ℚ) < 2 ^ precision := by exact_mod_cast hfull
  have hpos := two_zpow_pos e
  rw [zpow_sub₀ (by norm_num), zpow_natCast, div_lt_iff₀ (by norm_num)]
  calc (10 : ℚ) ^ (leadingPlace m e - 1) ≤ m * 2 ^ e := hle
    _ < 2 ^ precision * 2 ^ e := mul_lt_mul_of_pos_right hmantissa hpos
    _ ≤ 1 / 4 * 2 ^ e * 10 ^ 17 := by
      rw [precision]
      linarith

@[simp] theorem gridPoint_stripZeros (c : ℕ) (g : ℤ) :
    gridPoint (stripZeros c g).1 (stripZeros c g).2 = gridPoint c g := by
  induction c, g using stripZeros.induct with
  | case1 c g h ih =>
    rw [stripZeros, if_pos h, ih, gridPoint, gridPoint, zpow_add_one₀ (by norm_num)]
    have hten : (10 : ℚ) * (c / 10 : ℕ) = c := by
      exact_mod_cast Nat.mul_div_cancel' (Nat.dvd_of_mod_eq_zero h.2)
    rw [← hten]
    ring
  | case2 c g h => rw [stripZeros, if_neg h]

/-- The shortest decimal of a number reads back. -/
theorem roundsTo_shortest (tie : Tie) (hm : m ≠ 0) (hfull : m < 2 ^ precision) (e : ℤ) :
    RoundsTo (gridPoint (shortest tie m e).1 (shortest tie m e).2) m e := by
  rw [shortest, gridPoint_stripZeros]
  exact roundsTo_searchGrids hm 17 _ (ten_zpow_lt_quarter hm hfull e)

theorem roundsTo_zero (e : ℤ) : RoundsTo 0 0 e := by
  have hpos := two_zpow_pos e
  have hzero : magnitude 0 e = 0 := by rw [magnitude, Nat.cast_zero, zero_mul]
  refine ⟨?_, ?_, fun _ => rfl⟩
  · exact hzero ▸ (lowEnd_lt 0 e).le
  · exact hzero ▸ (lt_highEnd 0 e).le

end ContentFilter.Binary64

namespace ContentFilter.Decimal

open Binary64

theorem toRat_ofShortest (style : FloatNotation) (c : ℕ) (g : ℤ) :
    (ofShortest style c g).toRat = gridPoint c g := by
  rw [ofShortest]
  split
  case isTrue h =>
    -- zeros are written up to the least places
    show ((c * Nat.pow 10 (g + style.leastPlaces).toNat : ℤ) : ℚ) *
      10 ^ (-(style.leastPlaces : ℤ)) = gridPoint c g
    have hexp : ((g + style.leastPlaces).toNat : ℤ) + -(style.leastPlaces : ℤ) = g := by omega
    rw [gridPoint, Nat.pow_eq, Int.cast_mul, Int.cast_natCast, Int.cast_natCast, Nat.cast_pow,
      Nat.cast_ofNat, mul_assoc, ← zpow_natCast, ← zpow_add₀ (by norm_num), hexp]
  case isFalse =>
    rw [toRat, gridPoint, neg_neg, Int.cast_natCast]

theorem toRat_neg_digits (d : Decimal) : toRat ⟨-d.digits, d.scale⟩ = -d.toRat := by
  rw [toRat, toRat, Int.cast_neg, neg_mul]

/-- A finite number is written as a decimal that is rounded to it, whatever the notation. -/
theorem exists_ofBinary64?_finite (style : FloatNotation) (negative : Bool) {m : ℕ}
    (hfull : m < 2 ^ precision) (e : ℤ) :
    ∃ d x, ofBinary64? style (.finite negative m e) = some d ∧ RoundsTo x m e ∧
      d.toRat = if negative then -x else x := by
  rw [ofBinary64?]
  by_cases hm : m = 0
  · rw [if_pos hm]
    refine ⟨_, 0, rfl, hm ▸ roundsTo_zero e, ?_⟩
    rw [toRat_eq_zero rfl, neg_zero, ite_self]
  · rw [if_neg hm]
    refine ⟨_, _, rfl, roundsTo_shortest style.tie hm hfull e, ?_⟩
    cases negative with
    | true => exact (toRat_neg_digits _).trans (congrArg _ (toRat_ofShortest _ _ _))
    | false => exact toRat_ofShortest _ _ _

end ContentFilter.Decimal
