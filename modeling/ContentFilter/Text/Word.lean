/-!
# Words and hexadecimal digits

Words are recognised at the front of a text without regard to the case of ASCII letters.
-/

namespace ContentFilter.Text

/-- What follows `word`, given in lower case, at the front of the text. -/
def afterWord? : List Char → List Char → Option (List Char)
  | [], s => some s
  | w :: ws, c :: s => if c.toLower = w then afterWord? ws s else none
  | _ :: _, [] => none

/-- What follows `front` at the front of the text. -/
def afterPrefix? : List Char → List Char → Option (List Char)
  | [], s => some s
  | f :: fs, c :: s => if c = f then afterPrefix? fs s else none
  | _ :: _, [] => none

/-- The value of a hexadecimal digit. -/
def hexDigit? (c : Char) : Option Nat :=
  if c.isDigit then some (c.toNat - '0'.toNat)
  else if 'a' ≤ c ∧ c ≤ 'f' then some (c.toNat - 'a'.toNat + 10)
  else if 'A' ≤ c ∧ c ≤ 'F' then some (c.toNat - 'A'.toNat + 10)
  else none

/-- The number that hexadecimal digits denote, `start` being the number of the digits before. -/
def hexValue? : Nat → List Char → Option Nat
  | start, [] => some start
  | start, c :: s => (hexDigit? c).bind fun d => hexValue? (16 * start + d) s

/-- The character with the given code point; surrogates and numbers beyond the last code point have
none. -/
def charOfCode? (n : Nat) : Option Char :=
  if h : n.isValidChar then some (Char.ofNatAux n h) else none

theorem length_of_afterWord?_eq_some {w s r : List Char} (h : afterWord? w s = some r) :
    s.length = w.length + r.length := by
  fun_induction afterWord? w s with
  | case1 s => simp_all
  | case2 ws c s ih => simp [ih h]; omega
  | case3 => simp at h
  | case4 => simp at h

theorem length_of_afterPrefix?_eq_some {f s r : List Char} (h : afterPrefix? f s = some r) :
    s.length = f.length + r.length := by
  fun_induction afterPrefix? f s with
  | case1 s => simp_all
  | case2 f fs s ih => simp [ih h]; omega
  | case3 => simp at h
  | case4 => simp at h

/-- A prefix is followed by what was put after it. -/
@[simp] theorem afterPrefix?_append (f s : List Char) : afterPrefix? f (f ++ s) = some s := by
  induction f with
  | nil => rfl
  | cons c f ih => simp [afterPrefix?, ih]

theorem eq_append_of_afterPrefix?_eq_some {f s r : List Char} (h : afterPrefix? f s = some r) :
    s = f ++ r := by
  fun_induction afterPrefix? f s with
  | case1 s => simp_all
  | case2 f fs s ih => simp [ih h]
  | case3 => simp at h
  | case4 => simp at h

end ContentFilter.Text
