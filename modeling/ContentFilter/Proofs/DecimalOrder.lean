import ContentFilter.Decimal.Basic
import Mathlib.Algebra.Order.Field.Power
import Mathlib.Algebra.Order.Field.Rat
import Mathlib.Tactic.Ring

/-!
# Decimals are ordered as the numbers they are

A decimal is a rational number, and one number has many decimals. Their comparison brings two
decimals to the same scale only if their leading digits stand at the same place; otherwise there is
a power of ten between the magnitudes. `compare_eq_cmp` says that the outcome is that of the
numbers, for scales of any size.
-/

namespace ContentFilter.Decimal

open Text

/-- The number that a decimal is. -/
def toRat (d : Decimal) : ℚ :=
  d.digits * 10 ^ (-d.scale)

theorem ten_zpow_pos (k : ℤ) : (0 : ℚ) < 10 ^ k :=
  zpow_pos (by norm_num) k

@[simp] theorem toRat_ofInt (n : ℤ) : (ofInt n).toRat = n := by
  simp [toRat, ofInt]

/-! ## Signs -/

theorem toRat_pos_iff {d : Decimal} : 0 < d.toRat ↔ 0 < d.digits := by
  rw [toRat, mul_pos_iff_of_pos_right (ten_zpow_pos _), Int.cast_pos]

theorem toRat_neg_iff {d : Decimal} : d.toRat < 0 ↔ d.digits < 0 := by
  rw [toRat, ← neg_pos, ← neg_mul, mul_pos_iff_of_pos_right (ten_zpow_pos _), neg_pos,
    Int.cast_lt_zero]

theorem toRat_eq_zero {d : Decimal} (h : d.digits = 0) : d.toRat = 0 := by
  rw [toRat, h, Int.cast_zero, zero_mul]

theorem toRat_lt_of_sign_lt {a b : Decimal} (h : a.digits.sign < b.digits.sign) :
    a.toRat < b.toRat := by
  rcases lt_trichotomy a.digits 0 with ha | ha | ha
  · have hneg : a.toRat < 0 := toRat_neg_iff.mpr ha
    rcases lt_trichotomy b.digits 0 with hb | hb | hb
    · rw [Int.sign_eq_neg_one_of_neg ha, Int.sign_eq_neg_one_of_neg hb] at h
      exact absurd h (lt_irrefl _)
    · rw [toRat_eq_zero hb]
      exact hneg
    · exact hneg.trans (toRat_pos_iff.mpr hb)
  · rw [ha, Int.sign_zero] at h
    rw [toRat_eq_zero ha]
    exact toRat_pos_iff.mpr (Int.sign_pos_iff.mp h)
  · have hpos : 0 < b.digits.sign := by
      rw [Int.sign_eq_one_of_pos ha] at h
      omega
    rw [Int.sign_eq_one_of_pos ha, Int.sign_eq_one_of_pos (Int.sign_pos_iff.mp hpos)] at h
    exact absurd h (lt_irrefl _)

/-! ## Magnitudes -/

theorem abs_toRat (d : Decimal) : |d.toRat| = d.digits.natAbs * 10 ^ (-d.scale) := by
  rw [toRat, abs_mul, abs_of_pos (ten_zpow_pos _), Nat.cast_natAbs, Int.cast_abs]

theorem abs_toRat_of_le {d : Decimal} {k : ℤ} (h : d.scale ≤ k) :
    |d.toRat| = (d.digits.natAbs * Nat.pow 10 (k - d.scale).toNat : ℕ) * 10 ^ (-k) := by
  have hexp : -d.scale = ((k - d.scale).toNat : ℤ) + -k := by omega
  rw [abs_toRat, hexp, zpow_add₀ (by norm_num), zpow_natCast, ← mul_assoc]
  rw [Nat.pow_eq, Nat.cast_mul, Nat.cast_pow, Nat.cast_ofNat]

theorem lt_ten_pow_digitCount (n : ℕ) : n < 10 ^ digitCount n :=
  (Nat.length_toDigits_le_iff (by decide) Nat.length_toDigits_pos).mp le_rfl

theorem ten_pow_le_of_digitCount {n : ℕ} (h : n ≠ 0) : 10 ^ (digitCount n - 1) ≤ n := by
  by_contra hlt
  rw [not_le] at hlt
  have hpos : 0 < digitCount n := Nat.length_toDigits_pos
  by_cases hone : digitCount n - 1 = 0
  · rw [hone, pow_zero] at hlt
    omega
  · have hle := (Nat.length_toDigits_le_iff (by decide) (Nat.pos_of_ne_zero hone)).mpr hlt
    change digitCount n ≤ digitCount n - 1 at hle
    omega

/-- A magnitude is below the power of ten at its leading place. -/
theorem abs_toRat_lt (d : Decimal) : |d.toRat| < 10 ^ d.leadingPlace := by
  have hdigits : (d.digits.natAbs : ℚ) < 10 ^ (digitCount d.digits.natAbs : ℤ) := by
    rw [zpow_natCast]
    exact_mod_cast lt_ten_pow_digitCount d.digits.natAbs
  rw [abs_toRat, leadingPlace, sub_eq_add_neg, zpow_add₀ (by norm_num)]
  exact mul_lt_mul_of_pos_right hdigits (ten_zpow_pos _)

/-- A magnitude other than zero is not below the power of ten before its leading place. -/
theorem le_abs_toRat {d : Decimal} (h : d.digits ≠ 0) : 10 ^ (d.leadingPlace - 1) ≤ |d.toRat| := by
  have hpos : 0 < digitCount d.digits.natAbs := Nat.length_toDigits_pos
  have hexp : d.leadingPlace - 1 = ((digitCount d.digits.natAbs - 1 : ℕ) : ℤ) + -d.scale := by
    rw [leadingPlace]
    omega
  have hdigits : (10 : ℚ) ^ ((digitCount d.digits.natAbs - 1 : ℕ) : ℤ) ≤ d.digits.natAbs := by
    rw [zpow_natCast]
    exact_mod_cast ten_pow_le_of_digitCount (Int.natAbs_ne_zero.mpr h)
  rw [abs_toRat, hexp, zpow_add₀ (by norm_num)]
  exact mul_le_mul_of_nonneg_right hdigits (ten_zpow_pos _).le

theorem abs_toRat_lt_of_leadingPlace_lt {a b : Decimal} (hb : b.digits ≠ 0)
    (h : a.leadingPlace < b.leadingPlace) : |a.toRat| < |b.toRat| := by
  calc |a.toRat| < 10 ^ a.leadingPlace := abs_toRat_lt a
    _ ≤ 10 ^ (b.leadingPlace - 1) := zpow_le_zpow_right₀ (by norm_num) (by omega)
    _ ≤ |b.toRat| := le_abs_toRat hb

/-- At one scale the digits decide. -/
theorem compare_eq_cmp_of_scale (m n : ℕ) (k : ℤ) :
    Ord.compare m n = cmp ((m : ℚ) * 10 ^ k) (n * 10 ^ k) := by
  rw [cmp_mul_pos_right (ten_zpow_pos k), Nat.strictMono_cast.cmp_map_eq, cmp_eq_compare]

theorem compareMagnitude_eq_cmp {a b : Decimal} (ha : a.digits ≠ 0) (hb : b.digits ≠ 0) :
    compareMagnitude a b = cmp |a.toRat| |b.toRat| := by
  rw [compareMagnitude]
  cases h : Ord.compare a.leadingPlace b.leadingPlace with
  | lt =>
    rw [compare_lt_iff_lt] at h
    exact (cmp_eq_lt_iff _ _).mpr (abs_toRat_lt_of_leadingPlace_lt hb h) |>.symm
  | gt =>
    rw [compare_gt_iff_gt] at h
    exact (cmp_eq_gt_iff _ _).mpr (abs_toRat_lt_of_leadingPlace_lt ha h) |>.symm
  | eq =>
    by_cases hscale : a.scale ≤ b.scale
    · rw [if_pos hscale, abs_toRat_of_le hscale, abs_toRat b]
      exact compare_eq_cmp_of_scale _ _ _
    · rw [if_neg hscale, abs_toRat_of_le (le_of_not_ge hscale), abs_toRat a]
      exact compare_eq_cmp_of_scale _ _ _

/-- The comparison of two decimals is that of the numbers that they are. -/
theorem compare_eq_cmp (a b : Decimal) : a.compare b = cmp a.toRat b.toRat := by
  rw [compare]
  cases h : Ord.compare a.digits.sign b.digits.sign with
  | lt =>
    rw [compare_lt_iff_lt] at h
    exact (cmp_eq_lt_iff _ _).mpr (toRat_lt_of_sign_lt h) |>.symm
  | gt =>
    rw [compare_gt_iff_gt] at h
    exact (cmp_eq_gt_iff _ _).mpr (toRat_lt_of_sign_lt h) |>.symm
  | eq =>
    rw [compare_eq_iff_eq] at h
    rcases lt_trichotomy a.digits 0 with ha | ha | ha
    · have hb : b.digits < 0 := by
        rw [Int.sign_eq_neg_one_of_neg ha] at h
        exact Int.sign_eq_neg_one_iff_neg.mp h.symm
      have hcmp := compareMagnitude_eq_cmp hb.ne ha.ne
      rw [abs_of_neg (toRat_neg_iff.mpr hb), abs_of_neg (toRat_neg_iff.mpr ha)] at hcmp
      have hneg : StrictAnti fun x : ℚ => -x := fun x y hxy => neg_lt_neg hxy
      rw [if_neg ha.ne, if_pos ha, hcmp]
      exact hneg.cmp_map_eq _ _
    · have hb : b.digits = 0 := by
        rw [ha, Int.sign_zero] at h
        exact Int.sign_eq_zero_iff_zero.mp h.symm
      rw [if_pos ha, toRat_eq_zero ha, toRat_eq_zero hb, cmp_self_eq_eq]
    · have hb : 0 < b.digits := by
        rw [Int.sign_eq_one_of_pos ha] at h
        exact Int.sign_eq_one_iff_pos.mp h.symm
      have hcmp := compareMagnitude_eq_cmp ha.ne' hb.ne'
      rw [abs_of_pos (toRat_pos_iff.mpr ha), abs_of_pos (toRat_pos_iff.mpr hb)] at hcmp
      rw [if_neg ha.ne', if_neg ha.not_gt, hcmp]

end ContentFilter.Decimal
