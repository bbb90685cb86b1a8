/-!
# Decimal digits

Writing and reading natural numbers and integers in decimal, as lists of characters. Main
statement: a written number reads back.
-/

namespace ContentFilter.Text

/-- The decimal digits of a natural number, without leading zeros. -/
def digitsOf (n : Nat) : List Char :=
  Nat.toDigits 10 n

/-- How many decimal digits a natural number has. -/
def digitCount (n : Nat) : Nat :=
  (digitsOf n).length

/-- The decimal digits of an integer, a minus sign in front of a negative one. -/
def signedDigitsOf : Int → List Char
  | .ofNat n => digitsOf n
  | .negSucc n => '-' :: digitsOf (n + 1)

/-- The digits with zeros in front, `width` characters at least. -/
def padZeros (width : Nat) (digits : List Char) : List Char :=
  List.replicate (width - digits.length) '0' ++ digits

/-- The number that a list of digit characters denotes. -/
def valueOf (digits : List Char) : Nat :=
  Nat.ofDigitChars 10 digits 0

/-- Reads one or more digits and nothing else. -/
def readNat? (s : List Char) : Option Nat :=
  if s ≠ [] ∧ s.all Char.isDigit then some (valueOf s) else none

/-- Reads an integer: one or more digits after an optional sign. -/
def readInt? : List Char → Option Int
  | '-' :: s => (readNat? s).map fun n => -(n : Int)
  | '+' :: s => (readNat? s).map fun n => (n : Int)
  | s => (readNat? s).map fun n => (n : Int)

/-! ## Reading back -/

theorem digitsOf_ne_nil (n : Nat) : digitsOf n ≠ [] :=
  Nat.toDigits_ne_nil

@[simp] theorem valueOf_digitsOf (n : Nat) : valueOf (digitsOf n) = n :=
  Nat.ofDigitChars_ten_toDigits

theorem valueOf_append (a b : List Char) :
    valueOf (a ++ b) = Nat.pow 10 b.length * valueOf a + valueOf b := by
  unfold valueOf
  rw [Nat.ofDigitChars_append, Nat.ofDigitChars_eq_ofDigitChars_zero]
  rfl

/-- Every character of a written number is a digit. -/
theorem isDigit_of_mem_digitsOf {n : Nat} {c : Char} (h : c ∈ digitsOf n) :
    c.isDigit = true := by
  induction n using Nat.strongRecOn with
  | _ n ih =>
    rw [digitsOf, Nat.toDigits_eq_if (by decide)] at h
    split at h
    · rename_i hlt
      simp only [List.mem_singleton] at h
      subst h
      have : ∀ d < 10, (Nat.digitChar d).isDigit = true := by decide
      exact this n hlt
    · rename_i hge
      rcases List.mem_append.mp h with h | h
      · exact ih (n / 10) (by omega) h
      · simp only [List.mem_singleton] at h
        subst h
        have : ∀ d < 10, (Nat.digitChar d).isDigit = true := by decide
        exact this (n % 10) (Nat.mod_lt _ (by decide))

@[simp] theorem readNat?_digitsOf (n : Nat) : readNat? (digitsOf n) = some n := by
  have : (digitsOf n).all Char.isDigit = true :=
    List.all_eq_true.mpr fun _ h => isDigit_of_mem_digitsOf h
  simp [readNat?, digitsOf_ne_nil, this]

end ContentFilter.Text
