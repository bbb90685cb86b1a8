/-!
# Blanks

The blanks of a text are the characters with the Unicode property `White_Space`. Filter
expressions, numbers and dates all skip and trim blanks by this one rule.
-/

namespace ContentFilter.Text

/-- Holds of the characters with the Unicode property `White_Space`. -/
def isBlank (c : Char) : Bool :=
  let n := c.toNat
  (0x09 ≤ n && n ≤ 0x0D) || n == 0x20 || n == 0x85 || n == 0xA0 || n == 0x1680 ||
    (0x2000 ≤ n && n ≤ 0x200A) || n == 0x2028 || n == 0x2029 || n == 0x202F || n == 0x205F ||
    n == 0x3000

/-- The text from its first character that is not a blank. -/
def skipBlanks (s : List Char) : List Char :=
  s.dropWhile isBlank

/-- The text without the blanks at both of its ends. -/
def trimBlanks (s : List Char) : List Char :=
  (skipBlanks (skipBlanks s).reverse).reverse

/-- `trimBlanks` on strings. -/
def trim (s : String) : String :=
  String.ofList (trimBlanks s.toList)

/-! ## Skipping -/

/-- Skipping only drops a front part of the text. -/
theorem skipBlanks_suffix (s : List Char) : skipBlanks s <:+ s :=
  List.dropWhile_suffix _

theorem length_skipBlanks_le (s : List Char) : (skipBlanks s).length ≤ s.length :=
  (skipBlanks_suffix s).length_le

theorem length_lt_of_skipBlanks_eq_cons {s r : List Char} {c : Char}
    (h : skipBlanks s = c :: r) : r.length < s.length := by
  have := length_skipBlanks_le s
  rw [h, List.length_cons] at this
  exact this

@[simp] theorem skipBlanks_nil : skipBlanks [] = [] := rfl

theorem skipBlanks_cons_of_blank {c : Char} (h : isBlank c = true) (s : List Char) :
    skipBlanks (c :: s) = skipBlanks s := by
  simp [skipBlanks, h]

theorem skipBlanks_cons_of_not_blank {c : Char} (h : isBlank c = false) (s : List Char) :
    skipBlanks (c :: s) = c :: s := by
  simp [skipBlanks, h]

/-- What is left after skipping does not begin with a blank. -/
theorem isBlank_of_skipBlanks_eq_cons {s r : List Char} {c : Char}
    (h : skipBlanks s = c :: r) : isBlank c = false := by
  induction s with
  | nil => simp at h
  | cons d s ih =>
    by_cases hd : isBlank d = true
    · exact ih (by rwa [skipBlanks_cons_of_blank hd] at h)
    · simp only [Bool.not_eq_true] at hd
      rw [skipBlanks_cons_of_not_blank hd, List.cons.injEq] at h
      exact h.1 ▸ hd

/-- Skipping twice is skipping once. -/
@[simp] theorem skipBlanks_skipBlanks (s : List Char) :
    skipBlanks (skipBlanks s) = skipBlanks s := by
  cases h : skipBlanks s with
  | nil => rfl
  | cons c r => exact skipBlanks_cons_of_not_blank (isBlank_of_skipBlanks_eq_cons h) r

end ContentFilter.Text
