import ContentFilter.Text.Digits

/-!
# Decimals

A decimal is an integer with a decimal point shifted into it, `digits · 10^(-scale)`. Two decimals
with different digits may be the same number (`5` and `5.00`), so they are compared by `compare`
and not by their fields. The comparison first looks at the places of the leading digits, so that
scales of any size cost nothing.
-/

namespace ContentFilter

/-- The number `digits · 10^(-scale)`. -/
structure Decimal where
  /-- All digits, with the sign. -/
  digits : Int
  /-- How many of the digits stand behind the point; negative for trailing zeros left out. -/
  scale : Int
deriving DecidableEq, Repr

namespace Decimal

/-- An integer as a decimal without places. -/
def ofInt (n : Int) : Decimal := ⟨n, 0⟩

/-- The place of the leading digit: a nonzero magnitude lies in `[10^(p-1), 10^p)`. -/
def leadingPlace (d : Decimal) : Int :=
  Text.digitCount d.digits.natAbs - d.scale

/-- Compares the magnitudes of two decimals other than zero. -/
def compareMagnitude (a b : Decimal) : Ordering :=
  match Ord.compare a.leadingPlace b.leadingPlace with
  | .eq =>
    if a.scale ≤ b.scale then
      Ord.compare (a.digits.natAbs * Nat.pow 10 (b.scale - a.scale).toNat) b.digits.natAbs
    else
      Ord.compare a.digits.natAbs (b.digits.natAbs * Nat.pow 10 (a.scale - b.scale).toNat)
  | order => order

/-- Compares two decimals as numbers. -/
def compare (a b : Decimal) : Ordering :=
  match Ord.compare a.digits.sign b.digits.sign with
  | .eq =>
    if a.digits = 0 then .eq
    else if a.digits < 0 then compareMagnitude b a
    else compareMagnitude a b
  | order => order

end Decimal

end ContentFilter
