/-!
# Reading off the front of a text

A reader takes a value off the front of a text and says what is left. Its result carries the fact
that something was taken, so that readers may call each other on what is left without any other
bound on their recursion.
-/

namespace ContentFilter.Text

/-- A value read off the front of `s`. -/
structure Parsed (s : List Char) (α : Type) where
  /-- What was read. -/
  value : α
  /-- The text after it. -/
  rest : List Char
  /-- Something was taken off the text. -/
  shorter : rest.length < s.length

namespace Parsed

variable {α β : Type} {r s : List Char}

/-- The same reading with its value changed. -/
def map (f : α → β) (p : Parsed s α) : Parsed s β :=
  ⟨f p.value, p.rest, p.shorter⟩

/-- A reading that takes the first character only. -/
def single {c : Char} (value : α) : Parsed (c :: r) α :=
  ⟨value, r, Nat.lt_succ_self r.length⟩

/-- A reading of what follows the first character as one of the whole text. -/
def after {c : Char} (p : Parsed r α) : Parsed (c :: r) α :=
  ⟨p.value, p.rest, Nat.lt_succ_of_lt p.shorter⟩

/-- One reading after the other, their values put together. -/
def andThen {β γ : Type} (p : Parsed s α) (q : Parsed p.rest β) (f : α → β → γ) : Parsed s γ :=
  ⟨f p.value q.value, q.rest, Nat.lt_trans q.shorter p.shorter⟩

/-- A reading of `r` as one of a longer text, of which `r` is what was left. -/
def within (p : Parsed r α) (h : r.length ≤ s.length) : Parsed s α :=
  ⟨p.value, p.rest, Nat.lt_of_lt_of_le p.shorter h⟩

end Parsed

/-- A longest front of digits leaves less text, unless it is empty. -/
theorem length_dropWhile_lt {p : Char → Bool} {s : List Char} (h : s.takeWhile p ≠ []) :
    (s.dropWhile p).length < s.length := by
  cases s with
  | nil => simp at h
  | cons c r =>
    by_cases hc : p c = true
    · rw [List.dropWhile_cons_of_pos hc]
      exact Nat.lt_succ_of_le (List.dropWhile_suffix p).length_le
    · simp [hc] at h

theorem length_dropWhile_le (p : Char → Bool) (s : List Char) :
    (s.dropWhile p).length ≤ s.length :=
  (List.dropWhile_suffix p).length_le

end ContentFilter.Text
