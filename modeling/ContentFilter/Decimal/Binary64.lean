import ContentFilter.Decimal.Basic

/-!
# Binary floating point in exact arithmetic

The finite numbers of the binary64 format are `mantissa · 2^exponent` with fewer than 54 bits of
mantissa and an exponent from −1074 on. Decimals are rounded to the nearest of them, a tie going to
the even mantissa, by integer arithmetic alone.
-/

namespace ContentFilter

/-- A number of the binary64 format. -/
inductive Binary64 where
  /-- The value of an undefined operation. -/
  | notANumber
  /-- An infinity. -/
  | infinite (negative : Bool)
  /-- The number `± mantissa · 2^exponent`. -/
  | finite (negative : Bool) (mantissa : Nat) (exponent : Int)
deriving DecidableEq, Repr

namespace Binary64

/-- Bits of a full mantissa. -/
def precision : Nat := 53

/-- The exponent of the smallest numbers. -/
def leastExponent : Int := -1074

/-- The exponent of the greatest numbers. -/
def greatestExponent : Int := 971

/-- Numerator and denominator of `num / den / 2^e`. -/
def scaleBack (num den : Nat) (e : Int) : Nat × Nat :=
  (num * Nat.pow 2 (-e).toNat, den * Nat.pow 2 e.toNat)

/-- The exponent at which a positive quotient has a full mantissa, or the least one. -/
def exponentOf (num den : Nat) : Int :=
  let guess : Int := (num.log2 : Int) - den.log2 - (precision - 1 : Nat)
  let (n, d) := scaleBack num den guess
  max leastExponent (if n < d * Nat.pow 2 (precision - 1) then guess - 1 else guess)

/-- The quotient rounded to the nearest integer, a tie going to the even one. -/
def divideToEven (n d : Nat) : Nat :=
  let q := n / d
  let r := n % d
  if 2 * r > d ∨ (2 * r = d ∧ q % 2 = 1) then q + 1 else q

/-- The quotient at the exponent `e`, rounded to a mantissa. -/
def mantissaAt (num den : Nat) (e : Int) : Nat :=
  let (n, d) := scaleBack num den e
  divideToEven n d

/-- The number `± m · 2^e`, or an infinity if it is too large. -/
def bounded (negative : Bool) (m : Nat) (e : Int) : Binary64 :=
  if e > greatestExponent then .infinite negative else .finite negative m e

/-- The number of a rounded mantissa, which may be the least one with a bit too many. -/
def ofRounded (negative : Bool) (m : Nat) (e : Int) : Binary64 :=
  if m = Nat.pow 2 precision then bounded negative (Nat.pow 2 (precision - 1)) (e + 1)
  else bounded negative m e

/-- The number nearest to a positive quotient. -/
def nearest (negative : Bool) (num den : Nat) : Binary64 :=
  ofRounded negative (mantissaAt num den (exponentOf num den)) (exponentOf num den)

/-- The number nearest to `digits · 10^exponent`. Magnitudes far outside the format are decided by
the place of their leading digit. -/
def ofDigits (negative : Bool) (digits : Nat) (exponent : Int) : Binary64 :=
  let place := Text.digitCount digits + exponent
  if digits = 0 ∨ place < -330 then .finite negative 0 leastExponent
  else if place > 310 then .infinite negative
  else nearest negative (digits * Nat.pow 10 exponent.toNat) (Nat.pow 10 (-exponent).toNat)

/-- The number nearest to `10^exponent`. -/
def powerOfTen (exponent : Nat) : Binary64 :=
  ofDigits false 1 exponent

/-- The number nearest to `num / den · 2^exponent`, for a positive `den`. -/
def nearestScaled (negative : Bool) (num den : Nat) (exponent : Int) : Binary64 :=
  if num = 0 then .finite negative 0 leastExponent
  else
    nearest negative (num * Nat.pow 2 exponent.toNat) (den * Nat.pow 2 (-exponent).toNat)

/-- The number nearest to the product of two finite numbers. -/
def mul : Binary64 → Binary64 → Binary64
  | finite s m e, finite t n f => nearestScaled (s != t) (m * n) 1 (e + f)
  | _, _ => notANumber

/-- The number nearest to the quotient of two finite numbers, the second of which is not zero. -/
def div : Binary64 → Binary64 → Binary64
  | finite s m e, finite t n f => if n = 0 then notANumber else nearestScaled (s != t) m n (e - f)
  | _, _ => notANumber

/-- Whether the number is a zero of either sign. -/
def isZero : Binary64 → Bool
  | finite _ m _ => m == 0
  | _ => false

/-! ## Reading -/

/-- Reads the exponent part of a number, if there is one. -/
def readExponent? : List Char → Option Int
  | [] => some 0
  | c :: s => if c == 'e' || c == 'E' then Text.readInt? s else none

/-- Reads an unsigned number: digits with at most one point among or beside them and an optional
exponent, or one of the words `inf`, `infinity` and `nan` in any case. -/
def readMagnitude? (negative : Bool) (s : List Char) : Option Binary64 :=
  let word := String.ofList (s.map Char.toLower)
  if word = "inf" ∨ word = "infinity" then some (.infinite negative)
  else if word = "nan" then some .notANumber
  else
    let lead := s.takeWhile Char.isDigit
    let rest := s.dropWhile Char.isDigit
    let (trail, rest) := match rest with
      | '.' :: rest => (rest.takeWhile Char.isDigit, rest.dropWhile Char.isDigit)
      | rest => ([], rest)
    if lead = [] ∧ trail = [] then none
    else (readExponent? rest).map fun e =>
      ofDigits negative (Text.valueOf (lead ++ trail)) (e - trail.length)

/-- Reads a number with an optional sign. -/
def ofText? (s : String) : Option Binary64 :=
  match s.toList with
  | '-' :: s => readMagnitude? true s
  | '+' :: s => readMagnitude? false s
  | s => readMagnitude? false s

end Binary64

end ContentFilter
