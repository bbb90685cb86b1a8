import ContentFilter.Text.Span

/-!
# Sets of characters by run lengths

A property of characters that a standard fixes by a long table is stored as the lengths of its
alternating runs, counted from code point 0: so many code points outside the set, so many inside,
so many outside, and so on. Whatever follows the last run is outside. Such a table cannot be out of
order or overlap itself.
-/

namespace ContentFilter.Text

/-- A set of code points: the lengths of its alternating runs, the first run outside the set. -/
structure RunTable where
  /-- Run lengths, outside and inside by turns. -/
  runs : List Nat
deriving Repr, DecidableEq

namespace RunTable

/-- Membership of the code point `n` in the set given by `runs`. -/
def containsFrom : List Nat → Nat → Bool
  | gap :: run :: rest, n =>
    if n < gap then false
    else if n < gap + run then true
    else containsFrom rest (n - (gap + run))
  | _, _ => false

/-- Whether the character belongs to the set. -/
def contains (t : RunTable) (c : Char) : Bool :=
  containsFrom t.runs c.toNat

/-- The runs that lie inside the set, `start` being the place where the first run begins. -/
def spansFrom : Nat → List Nat → List Span
  | start, gap :: run :: rest =>
    let first := start + gap
    ⟨first, first + run - 1⟩ :: spansFrom (first + run) rest
  | _, _ => []

/-- The set as spans of code points. -/
def spans (t : RunTable) : List Span :=
  spansFrom 0 t.runs

/-- The table with no code point. -/
def empty : RunTable := ⟨[]⟩

/-- Reads decimal numbers separated by blanks and ends of lines, the number in hand being
`current`. -/
def numbersFrom : Option Nat → List Char → List Nat
  | current, [] => current.toList
  | current, c :: rest =>
    if c.isDigit then numbersFrom (some (10 * current.getD 0 + (c.toNat - '0'.toNat))) rest
    else current.toList ++ numbersFrom none rest

/-- The table whose run lengths are written in decimal. -/
def ofText (text : String) : RunTable :=
  ⟨numbersFrom none text.toList⟩

@[simp] theorem contains_empty (c : Char) : empty.contains c = false := rfl

end RunTable

end ContentFilter.Text
