import ContentFilter.Json.Basic

/-!
# Numbers of JSON

A number is an integer if it is written as one and fits in 64 bits. Any other number is computed in
binary floating point: as many of its digits as fit in 64 bits are taken for an integer, which is
rounded, and the rounded number is multiplied with a power of ten or divided by one, and rounded
again. So the result may differ from the number nearest to what is written.
-/

namespace ContentFilter.Json

/-- Takes digits for as long as the number they make, `start` being that of the digits before, fits
in 64 bits, and says what digits are left. -/
def takeSignificand : (start : Nat) → List Char → Nat × List Char
  | start, [] => (start, [])
  | start, c :: rest =>
    let n := 10 * start + (c.toNat - '0'.toNat)
    if n < 18446744073709551616 then takeSignificand n rest else (start, c :: rest)

/-- The greatest exponent of a power of ten that is a number. -/
def greatestPower : Int := 308

/-- A number multiplied with a power of ten, unless the result is too large. A power that is too
small to be a number is divided by in several steps. -/
def scaled? (x : Binary64) (exponent : Int) : Option Binary64 :=
  if exponent.natAbs ≤ greatestPower then
    if 0 ≤ exponent then
      match x.mul (.powerOfTen exponent.toNat) with
      | .finite s m e => some (.finite s m e)
      | _ => none
    else some (x.div (.powerOfTen exponent.natAbs))
  else if x.isZero then some x
  else if 0 ≤ exponent then none
  else scaled? (x.div (.powerOfTen greatestPower.toNat)) (exponent + greatestPower)
termination_by exponent.natAbs
decreasing_by
  simp only [greatestPower] at *
  omega

/-- The number that is written with a sign, digits before and perhaps after the point and perhaps an
exponent, computed in floating point. The exponent is a number of 32 bits; beyond that it makes the
number zero or too large. -/
def float? (negative : Bool) (lead trail : List Char) (exponent : Int) : Option Binary64 :=
  let before := takeSignificand 0 lead
  let after := takeSignificand before.1 trail
  let places : Int := before.2.length - (trail.length - after.2.length : Nat)
  let significand := Binary64.ofDigits negative after.1 0
  if exponent.natAbs ≤ 2147483647 then scaled? significand (places + exponent)
  else if 0 < exponent ∧ after.1 ≠ 0 then none
  else some (.ofDigits negative 0 0)

/-- The number of a lexeme: its sign, the digits before and after the point, and the exponent if it
has one. -/
def numberOf? (negative : Bool) (lead : List Char) (trail : Option (List Char))
    (exponent : Option Int) : Option JsonNumber :=
  let n : Int := Text.valueOf lead
  let isInteger := trail.isNone && exponent.isNone &&
    (if negative then n ≠ 0 && n ≤ 9223372036854775808 else n < 18446744073709551616)
  if isInteger then some (.integer (if negative then -n else n))
  else (float? negative lead (trail.getD []) (exponent.getD 0)).map .float

end ContentFilter.Json
