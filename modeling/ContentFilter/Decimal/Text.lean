import ContentFilter.Decimal.Basic

/-!
# The text of a decimal

Decimals are written positionally with all their places, `1.50`, unless they have too many zeros
next to the point: then they are written with an exponent, `1.5E-9` or `15e+20`. They are read from
an integer with at most one point and an exponent; underscores between digits are skipped.
-/

namespace ContentFilter.Decimal

open Text

/-- With more zeros than this between point and first digit, a decimal is written scientifically. -/
def leadingZeroLimit : Nat := 5

/-- With more zeros than this between last digit and point, the zeros are left to an exponent. -/
def trailingZeroLimit : Nat := 15

/-- The digits with a point after the first one, if there are more. -/
def scientificDigits : List Char → List Char
  | first :: second :: rest => first :: '.' :: second :: rest
  | digits => digits

/-- The digits of a magnitude with `scale` places behind the point. -/
def positional (digits : List Char) (scale : Int) : List Char :=
  if scale ≤ 0 then digits ++ List.replicate (-scale).toNat '0'
  else
    let places := scale.toNat
    if places < digits.length then
      digits.take (digits.length - places) ++ '.' :: digits.drop (digits.length - places)
    else '0' :: '.' :: List.replicate (places - digits.length) '0' ++ digits

/-- The text of a magnitude other than zero. -/
def magnitudeText (digits : List Char) (scale : Int) : List Char :=
  if leadingZeroLimit < scale - digits.length then
    scientificDigits digits ++ 'E' :: signedDigitsOf (digits.length - 1 - scale)
  else if trailingZeroLimit < -scale then
    digits ++ 'e' :: '+' :: signedDigitsOf (-scale)
  else positional digits scale

/-- The text of a decimal; zero is `0` whatever its scale. -/
def chars (d : Decimal) : List Char :=
  if d.digits = 0 then ['0']
  else
    let magnitude := magnitudeText (digitsOf d.digits.natAbs) d.scale
    if d.digits < 0 then '-' :: magnitude else magnitude

/-- The text of a decimal. -/
def toText (d : Decimal) : String :=
  String.ofList d.chars

/-! ## Reading -/

/-- Reads digits that may have underscores after the first one. -/
def readDigits? (s : List Char) : Option Nat :=
  match s with
  | '_' :: _ => none
  | _ => readNat? (s.filter (· ≠ '_'))

/-- Reads digits, underscores among them, after an optional sign. -/
def readInteger? : List Char → Option Int
  | '-' :: s => (readDigits? s).map fun n => -(n : Int)
  | '+' :: s => (readDigits? s).map fun n => (n : Int)
  | s => (readDigits? s).map fun n => (n : Int)

/-- The text before the first character that `p` accepts, and the text after it if there is one. -/
def splitAtFirst (p : Char → Bool) (s : List Char) : List Char × Option (List Char) :=
  (s.takeWhile (!p ·), (s.dropWhile (!p ·)).tail? )

/-- The places a scale may take: those of a signed 64-bit integer. -/
def scaleFits (scale : Int) : Bool :=
  -9223372036854775808 ≤ scale && scale < 9223372036854775808

/-- Reads a decimal. The places are the characters other than underscores after the point, less the
exponent; they have to fit. -/
def ofChars? (s : List Char) : Option Decimal := do
  let (base, exponent) := splitAtFirst (fun c => c == 'e' || c == 'E') s
  let exponent ← match exponent with
    | none => some 0
    | some e => readInt? e
  let (lead, trail) := splitAtFirst (· == '.') base
  let trail := trail.getD []
  let digits ← readInteger? (lead ++ trail)
  let scale := ((trail.filter (· ≠ '_')).length : Int) - exponent
  if scaleFits scale then some ⟨digits, scale⟩ else none

/-- Reads a decimal. -/
def ofText? (s : String) : Option Decimal :=
  ofChars? s.toList

end ContentFilter.Decimal
