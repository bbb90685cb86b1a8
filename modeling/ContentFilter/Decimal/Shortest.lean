import ContentFilter.Decimal.Binary64

/-!
# The shortest decimal of a binary number

Every finite binary64 number is written with the fewest digits that read back as the same number,
and of those with the nearest. The search goes through the decimal grids from one digit to
seventeen and tests the number's two neighbours on each grid against the interval of reals that
round to it (its ends belong to it exactly if the mantissa is even).
-/

namespace ContentFilter

/-- Where a number goes that lies halfway between the two best decimals. -/
inductive Tie where
  /-- To the one with an even last digit. -/
  | even
  /-- Away from zero. -/
  | up
deriving DecidableEq, Repr

/-- How the shortest digits of a number become a decimal. -/
structure FloatNotation where
  /-- The choice between two equally near decimals. -/
  tie : Tie
  /-- How many places are written at least behind the point. -/
  leastPlaces : Nat
  /-- Numbers with more digits than this before the point are written with an exponent. -/
  widest : Option Int
deriving DecidableEq, Repr

namespace FloatNotation

/-- The plain notation writes every number positionally and no place that is not needed. -/
def plain : FloatNotation := ⟨.up, 0, none⟩

/-- The notation of JSON keeps one place behind the point and has an exponent from `1e16` on. -/
def json : FloatNotation := ⟨.even, 1, some 16⟩

end FloatNotation

namespace Binary64

/-- Compares `c · 10^g` with `x · 2^e`. -/
def compareGrid (c : Nat) (g : Int) (x : Nat) (e : Int) : Ordering :=
  Ord.compare (c * Nat.pow 10 g.toNat * Nat.pow 2 (-e).toNat)
    (x * Nat.pow 2 e.toNat * Nat.pow 10 (-g).toNat)

/-- The greatest `c` with `c · 10^g ≤ x · 2^e`. -/
def gridFloor (g : Int) (x : Nat) (e : Int) : Nat :=
  (x * Nat.pow 2 e.toNat * Nat.pow 10 (-g).toNat) / (Nat.pow 10 g.toNat * Nat.pow 2 (-e).toNat)

/-- The place of the leading digit of `m · 2^e` for positive `m`: the `p` with
`10^(p-1) ≤ m · 2^e < 10^p`. -/
def leadingPlace (m : Nat) (e : Int) : Int :=
  let num := m * Nat.pow 2 e.toNat
  let den := Nat.pow 2 (-e).toNat
  if den ≤ num then Text.digitCount (num / den)
  else
    let count := Text.digitCount (den / num)
    if num * Nat.pow 10 (count - 1) = den then 2 - count else 1 - count

/-- The neighbour of `m · 2^e` on the grid of `10^g` that reads back, if one does; of two the nearer
one. Distances are counted in quarters of the last bit. -/
def neighbour? (tie : Tie) (m : Nat) (e : Int) (g : Int) : Option Nat :=
  let low := 4 * m - (if m = Nat.pow 2 (precision - 1) ∧ leastExponent < e then 1 else 2)
  let high := 4 * m + 2
  let c := gridFloor g (4 * m) (e - 2)
  let closed := m % 2 = 0
  let below := compareGrid c g low (e - 2)
  let above := compareGrid (c + 1) g high (e - 2)
  let belowReads := below = .gt ∨ (closed ∧ below = .eq)
  let aboveReads := above = .lt ∨ (closed ∧ above = .eq)
  if belowReads ∧ aboveReads then
    match compareGrid (2 * c + 1) g (8 * m) (e - 2) with
    | .gt => some c
    | .lt => some (c + 1)
    | .eq => if tie = .even ∧ c % 2 = 0 then some c else some (c + 1)
  else if belowReads then some c
  else if aboveReads then some (c + 1)
  else none

/-- Tries the grid of `10^g` and, while none of the two neighbours reads back, `more` finer ones. -/
def searchGrids (tie : Tie) (m : Nat) (e : Int) : Nat → Int → Nat × Int
  | 0, g => (gridFloor g (4 * m) (e - 2), g)
  | more + 1, g =>
    match neighbour? tie m e g with
    | some c => (c, g)
    | none => searchGrids tie m e more (g - 1)

/-- `digits · 10^exponent` with the trailing zeros of `digits` moved to the exponent. -/
def stripZeros (digits : Nat) (exponent : Int) : Nat × Int :=
  if digits ≠ 0 ∧ digits % 10 = 0 then stripZeros (digits / 10) (exponent + 1)
  else (digits, exponent)
termination_by digits

/-- The shortest decimal `digits · 10^exponent` of `m · 2^e` for positive `m`. -/
def shortest (tie : Tie) (m : Nat) (e : Int) : Nat × Int :=
  let (digits, g) := searchGrids tie m e 17 (leadingPlace m e - 1)
  stripZeros digits g

end Binary64

namespace Decimal

/-- The decimal that the digits `digits · 10^exponent` are written as. -/
def ofShortest (style : FloatNotation) (digits : Nat) (exponent : Int) : Decimal :=
  let place := Text.digitCount digits + exponent
  let positional := style.widest.all (place ≤ ·)
  if positional ∧ -exponent < style.leastPlaces then
    ⟨digits * Nat.pow 10 (exponent + style.leastPlaces).toNat, style.leastPlaces⟩
  else ⟨digits, -exponent⟩

/-- The decimal that a number is written as; an infinity and an undefined number have none. -/
def ofBinary64? (style : FloatNotation) : Binary64 → Option Decimal
  | .finite negative m e =>
    if m = 0 then some ⟨0, style.leastPlaces⟩
    else
      let (digits, exponent) := Binary64.shortest style.tie m e
      let d := ofShortest style digits exponent
      some (if negative then ⟨-d.digits, d.scale⟩ else d)
  | _ => none

end Decimal

end ContentFilter
