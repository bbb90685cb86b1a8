import ContentFilter.Decimal.Binary64
import Mathlib.Algebra.Order.Field.Power
import Mathlib.Algebra.Order.Field.Rat
import Mathlib.Tactic.Ring

/-!
# Binary numbers fit the format

A mantissa has no more bits than the format gives it, whatever a number was computed from. The
exponent of a quotient is guessed from the leading bits of its two sides and is at most one too
great, so that the quotient is below a full mantissa of one bit more; rounding can reach it, and it
is carried.
-/

namespace ContentFilter.Binary64

/-! ## Powers on both sides -/

theorem two_zpow_pos (k : ℤ) : (0 : ℚ) < 2 ^ k :=
  zpow_pos (by norm_num) k

/-- A power with a negative exponent goes to the other side. -/
theorem zpow_mul_toNat {b : ℚ} (hb : b ≠ 0) (k : ℤ) : b ^ k * b ^ (-k).toNat = b ^ k.toNat := by
  have hexp : k + ((-k).toNat : ℤ) = k.toNat := by omega
  rw [← zpow_natCast, ← zpow_natCast, ← zpow_add₀ hb, hexp]

/-! ## Mantissas -/

section Mantissa

variable {num den : ℕ} {e : ℤ}

/-- A quotient is compared as the rational number that it is. -/
theorem scaleBack_lt_iff (num den : ℕ) (e : ℤ) (k : ℕ) :
    (scaleBack num den e).1 < (scaleBack num den e).2 * k ↔ (num : ℚ) < den * 2 ^ e * k := by
  have hpos : (0 : ℚ) < 2 ^ (-e).toNat := pow_pos (by norm_num) _
  have hscaled : (den * 2 ^ e * k : ℚ) * 2 ^ (-e).toNat = den * 2 ^ e.toNat * k := by
    rw [mul_right_comm, mul_assoc (den : ℚ), zpow_mul_toNat (by norm_num)]
  rw [← mul_lt_mul_iff_of_pos_right hpos, hscaled, scaleBack, Nat.pow_eq, Nat.pow_eq]
  norm_cast

/-- The exponents of the leading bits bound a quotient. -/
theorem lt_two_zpow_log2 (num : ℕ) (hden : den ≠ 0) :
    (num : ℚ) < den * 2 ^ ((num.log2 : ℤ) - den.log2 + 1) := by
  have hbelow : (num : ℚ) < 2 ^ (num.log2 + 1) := by exact_mod_cast Nat.lt_log2_self
  have habove : (2 : ℚ) ^ den.log2 ≤ den := by exact_mod_cast Nat.log2_self_le hden
  have hpos := two_zpow_pos ((num.log2 : ℤ) - den.log2 + 1)
  calc (num : ℚ) < 2 ^ (num.log2 + 1) := hbelow
    _ = 2 ^ den.log2 * 2 ^ ((num.log2 : ℤ) - den.log2 + 1) := by
      rw [← zpow_natCast, ← zpow_natCast, ← zpow_add₀ (by norm_num)]
      congr 1
      push_cast
      ring
    _ ≤ den * 2 ^ ((num.log2 : ℤ) - den.log2 + 1) := mul_le_mul_of_nonneg_right habove hpos.le

/-- At the exponent of a quotient its mantissa has no more bits than a full one. -/
theorem scaleBack_exponentOf (num : ℕ) (hden : den ≠ 0) :
    (scaleBack num den (exponentOf num den)).1 <
      (scaleBack num den (exponentOf num den)).2 * 2 ^ precision := by
  -- a greater exponent than one that is enough is enough
  have henough : ∀ f : ℤ, (num : ℚ) < den * 2 ^ f * (2 ^ precision : ℕ) →
      f ≤ exponentOf num den → (scaleBack num den (exponentOf num den)).1 <
        (scaleBack num den (exponentOf num den)).2 * 2 ^ precision := by
    intro f hf hle
    refine (scaleBack_lt_iff _ _ _ _).mpr (hf.trans_le ?_)
    have hpower : (2 : ℚ) ^ f ≤ 2 ^ exponentOf num den := zpow_le_zpow_right₀ (by norm_num) hle
    exact mul_le_mul_of_nonneg_right (mul_le_mul_of_nonneg_left hpower (Nat.cast_nonneg _))
      (Nat.cast_nonneg _)
  generalize hguess : (num.log2 : ℤ) - den.log2 - (precision - 1 : ℕ) = guess
  have hexponent : exponentOf num den = max leastExponent
      (if (scaleBack num den guess).1 < (scaleBack num den guess).2 * Nat.pow 2 (precision - 1)
        then guess - 1 else guess) := by
    rw [exponentOf, hguess]
  by_cases hless :
      (scaleBack num den guess).1 < (scaleBack num den guess).2 * Nat.pow 2 (precision - 1)
  · rw [if_pos hless] at hexponent
    refine henough (guess - 1) ?_ (hexponent ▸ le_max_right _ _)
    have hhalf : (2 : ℚ) ^ guess * (2 ^ (precision - 1) : ℕ) =
        2 ^ (guess - 1) * (2 ^ precision : ℕ) := by
      rw [zpow_sub_one₀ (by norm_num), precision]
      push_cast
      ring
    rw [mul_assoc, ← hhalf, ← mul_assoc]
    exact (scaleBack_lt_iff _ _ _ _).mp hless
  · rw [if_neg hless] at hexponent
    refine henough guess ?_ (hexponent ▸ le_max_right _ _)
    have hbits : (2 : ℚ) ^ ((num.log2 : ℤ) - den.log2 + 1) = 2 ^ guess * (2 ^ precision : ℕ) := by
      rw [Nat.cast_pow, Nat.cast_ofNat, ← zpow_natCast, ← zpow_add₀ (by norm_num), ← hguess,
        precision]
      congr 1
      omega
    rw [mul_assoc, ← hbits]
    exact lt_two_zpow_log2 num hden

theorem divideToEven_le {n d k : ℕ} (hd : 0 < d) (h : n < d * k) : divideToEven n d ≤ k := by
  have hquotient : n / d < k := (Nat.div_lt_iff_lt_mul hd).mpr (by rwa [mul_comm])
  simp only [divideToEven]
  split
  · omega
  · omega

theorem mantissaAt_le (num : ℕ) (hden : den ≠ 0) :
    mantissaAt num den (exponentOf num den) ≤ 2 ^ precision :=
  divideToEven_le (Nat.mul_pos (Nat.pos_of_ne_zero hden) (Nat.pow_pos (by decide)))
    (scaleBack_exponentOf num hden)

end Mantissa

/-- Finite numbers have no mantissa of more bits than a full one. -/
def Fits (x : Binary64) : Prop :=
  ∀ s m e, x = .finite s m e → m < 2 ^ precision

theorem fits_zero (s : Bool) (e : ℤ) : Fits (.finite s 0 e) := by
  intro _ _ _ h
  cases h
  decide

theorem fits_infinite (s : Bool) : Fits (.infinite s) := by
  intro _ _ _ h
  cases h

theorem fits_notANumber : Fits .notANumber := by
  intro _ _ _ h
  cases h

theorem fits_bounded (s : Bool) {m : ℕ} (hm : m < 2 ^ precision) (e : ℤ) :
    Fits (bounded s m e) := by
  rw [bounded]
  split
  · exact fits_infinite s
  · intro _ _ _ h
    cases h
    exact hm

theorem fits_ofRounded (s : Bool) {m : ℕ} (hm : m ≤ 2 ^ precision) (e : ℤ) :
    Fits (ofRounded s m e) := by
  rw [ofRounded]
  split
  case isTrue => exact fits_bounded s (Nat.pow_lt_pow_right (by decide) (by decide)) _
  case isFalse hne => exact fits_bounded s (lt_of_le_of_ne hm hne) e

theorem fits_nearest (s : Bool) (num : ℕ) {den : ℕ} (hden : den ≠ 0) :
    Fits (nearest s num den) :=
  fits_ofRounded s (mantissaAt_le num hden) _

theorem fits_ofDigits (s : Bool) (digits : ℕ) (exponent : ℤ) :
    Fits (ofDigits s digits exponent) := by
  simp only [ofDigits]
  split
  · exact fits_zero _ _
  · split
    · exact fits_infinite _
    · exact fits_nearest _ _ (Nat.pow_pos (by decide)).ne'

theorem fits_nearestScaled (s : Bool) (num : ℕ) {den : ℕ} (hden : den ≠ 0) (exponent : ℤ) :
    Fits (nearestScaled s num den exponent) := by
  rw [nearestScaled]
  split
  · exact fits_zero _ _
  · exact fits_nearest _ _ (Nat.mul_ne_zero hden (Nat.pow_pos (by decide)).ne')

theorem fits_mul (x y : Binary64) : Fits (x.mul y) := by
  cases x with
  | finite =>
    cases y with
    | finite => exact fits_nearestScaled _ _ one_ne_zero _
    | _ => exact fits_notANumber
  | _ => exact fits_notANumber

theorem fits_div (x y : Binary64) : Fits (x.div y) := by
  cases x with
  | finite =>
    cases y with
    | finite _ n =>
      rw [div]
      split
      · exact fits_notANumber
      · rename_i hn
        exact fits_nearestScaled _ _ hn _
    | _ => exact fits_notANumber
  | _ => exact fits_notANumber

end ContentFilter.Binary64
