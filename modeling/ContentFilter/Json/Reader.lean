import ContentFilter.Json.Error
import ContentFilter.Json.Number
import ContentFilter.Text.Parsed
import ContentFilter.Text.Word

/-!
# Reading JSON

JSON is read strictly: one value with only whitespace around it, no control characters and no lone
surrogates in strings, and at most `depthLimit` arrays and objects inside each other. A reader that
fails says how much of the text is left at the place where it stops.
-/

namespace ContentFilter.Json

open Text (Parsed)

/-- What reading the front of `s` comes to. -/
abbrev Outcome (s : List Char) (α : Type) := Except Failure (Parsed s α)

/-- How many arrays and objects may be open at once. -/
def depthLimit : Nat := 127

/-- Whitespace between the tokens of a JSON text. -/
def isSpace (c : Char) : Bool :=
  c == ' ' || c == '\t' || c == '\n' || c == '\r'

/-- The text from its first token on. -/
def skipSpace (s : List Char) : List Char :=
  s.dropWhile isSpace

theorem length_skipSpace_le (s : List Char) : (skipSpace s).length ≤ s.length :=
  Text.length_dropWhile_le _ s

theorem length_lt_of_skipSpace {s r : List Char} {c : Char} (h : skipSpace s = c :: r) :
    r.length < s.length := by
  have hle := length_skipSpace_le s
  rw [h, List.length_cons] at hle
  exact hle

/-! ## Strings -/

/-- The failure where four hexadecimal digits have to follow: the text has not so many bytes, or
they are others. -/
def Failure.noCode (s : List Char) : Failure :=
  let size := (String.ofList s).utf8ByteSize
  if size < 4 then ⟨.unendedString, 0⟩ else ⟨.invalidEscape, size - 4⟩

/-- Reads four hexadecimal digits. -/
def readCode (s : List Char) : Outcome s Nat :=
  match s with
  | a :: b :: c :: d :: r =>
    match Text.hexValue? 0 [a, b, c, d] with
    | some n => .ok ⟨n, r, by simp; omega⟩
    | none => .error (.noCode (a :: b :: c :: d :: r))
  | s => .error (.noCode s)

/-- The character of a high and a low surrogate. -/
def charOfPair? (high low : Nat) : Option Char :=
  if 0xD800 ≤ high ∧ high ≤ 0xDBFF ∧ 0xDC00 ≤ low ∧ low ≤ 0xDFFF then
    Text.charOfCode? (0x10000 + (high - 0xD800) * 0x400 + (low - 0xDC00))
  else none

/-- Reads the escape of the low surrogate that has to follow a high one. -/
def readLowSurrogate (high : Nat) (s : List Char) : Outcome s Char :=
  match s with
  | [] | ['\\'] => .error (.before .unendedString [])
  | '\\' :: 'u' :: r =>
    match readCode r with
    | .error e => .error e
    | .ok p =>
      match charOfPair? high p.value with
      | some c => .ok (p.map fun _ => c).after.after
      | none => .error (.before .loneSurrogate p.rest)
  | '\\' :: r => .error (.after .unendedPair r)
  | s => .error (.after .unendedPair s)

/-- Reads what follows a backslash. -/
def readEscape (s : List Char) : Outcome s Char :=
  match s with
  | [] => .error (.before .unendedString [])
  | '"' :: _ => .ok (.single '"')
  | '\\' :: _ => .ok (.single '\\')
  | '/' :: _ => .ok (.single '/')
  | 'b' :: _ => .ok (.single '\x08')
  | 'f' :: _ => .ok (.single '\x0c')
  | 'n' :: _ => .ok (.single '\n')
  | 'r' :: _ => .ok (.single '\r')
  | 't' :: _ => .ok (.single '\t')
  | 'u' :: r =>
    match readCode r with
    | .error e => .error e
    | .ok p =>
      match Text.charOfCode? p.value with
      | some c => .ok (p.map fun _ => c).after
      | none =>
        if 0xDC00 ≤ p.value then .error (.before .loneSurrogate p.rest)
        else
          match readLowSurrogate p.value p.rest with
          | .error e => .error e
          | .ok q => .ok (p.andThen q fun _ c => c).after
  | s => .error (.after .invalidEscape s)

/-- Reads a string whose opening quote has been taken, to its closing quote. -/
def readString (s : List Char) : Outcome s (List Char) :=
  match s with
  | [] => .error (.before .unendedString [])
  | '"' :: _ => .ok (.single [])
  | '\\' :: r =>
    match readEscape r with
    | .error e => .error e
    | .ok p =>
      match readString p.rest with
      | .error e => .error e
      | .ok q => .ok (p.andThen q (· :: ·)).after
  | c :: r =>
    if c.toNat < 0x20 then .error (.after .controlCharacter (c :: r))
    else
      match readString r with
      | .error e => .error e
      | .ok q => .ok (q.map (c :: ·)).after
termination_by s.length
decreasing_by
  · have := p.shorter; simp; omega
  · simp

/-! ## Numbers -/

/-- The failure where a digit has to follow. -/
def Failure.noDigit : List Char → Failure
  | [] => .before .missingValue []
  | s => .after .invalidNumber s

/-- Reads the fraction of a number, if there is one. -/
def readFraction (s : List Char) : Except Failure (Option (List Char) × List Char) :=
  match s with
  | '.' :: r =>
    if r.takeWhile Char.isDigit = [] then .error (.noDigit r)
    else .ok (some (r.takeWhile Char.isDigit), r.dropWhile Char.isDigit)
  | _ => .ok (none, s)

/-- Reads the digits of an exponent. -/
def readExponentDigits (negative : Bool) (s : List Char) :
    Except Failure (Option Int × List Char) :=
  if s.takeWhile Char.isDigit = [] then .error (.noDigit s)
  else
    let n : Int := Text.valueOf (s.takeWhile Char.isDigit)
    .ok (some (if negative then -n else n), s.dropWhile Char.isDigit)

/-- Reads the exponent of a number, if there is one. -/
def readExponent (s : List Char) : Except Failure (Option Int × List Char) :=
  match s with
  | c :: r =>
    if c = 'e' ∨ c = 'E' then
      match r with
      | '-' :: r => readExponentDigits true r
      | '+' :: r => readExponentDigits false r
      | r => readExponentDigits false r
    else .ok (none, s)
  | [] => .ok (none, s)

theorem length_readFraction_le {s : List Char} {f : Option (List Char)} {r : List Char}
    (h : readFraction s = .ok (f, r)) : r.length ≤ s.length := by
  unfold readFraction at h
  split at h
  · split at h
    · cases h
    · cases h
      exact Nat.le_succ_of_le (Text.length_dropWhile_le _ _)
  · cases h
    exact Nat.le_refl _

theorem length_readExponentDigits_le {b : Bool} {s : List Char} {e : Option Int}
    {r : List Char} (h : readExponentDigits b s = .ok (e, r)) : r.length ≤ s.length := by
  unfold readExponentDigits at h
  split at h
  · cases h
  · cases h
    exact Text.length_dropWhile_le _ _

theorem length_readExponent_le {s : List Char} {e : Option Int} {r : List Char}
    (h : readExponent s = .ok (e, r)) : r.length ≤ s.length := by
  unfold readExponent at h
  split at h
  · split at h
    · split at h <;>
        · have := length_readExponentDigits_le h
          simp only [List.length_cons]
          omega
    · cases h
      exact Nat.le_refl _
  · cases h
    exact Nat.le_refl _

/-- The greatest number that is read as an exponent. -/
def greatestExponent : Nat := 2147483647

/-- What follows the digit with which the number of an exponent gets too large, `start` being the
number of the digits before. -/
def behindOverflow : (start : Nat) → List Char → List Char
  | _, [] => []
  | start, c :: rest =>
    let n := 10 * start + (c.toNat - '0'.toNat)
    if n ≤ greatestExponent then behindOverflow n rest else rest

/-- The failure of a number that is too large. It is noticed at the end of the number, or in the
middle of an exponent that is too large. `s` is the text from the exponent on, and `rest` what
follows the number. -/
def Failure.outOfRange (exponent : Option Int) (s rest : List Char) : Failure :=
  .before .numberOutOfRange <|
    if (exponent.getD 0).natAbs ≤ greatestExponent then rest
    else behindOverflow 0 (s.dropWhile (!·.isDigit))

/-- Reads a number without its sign. -/
def readMagnitude (negative : Bool) (s : List Char) : Outcome s JsonNumber :=
  let lead := s.takeWhile Char.isDigit
  if hlead : lead = [] then .error (.noDigit s)
  else if lead.head? = some '0' ∧ lead.length ≠ 1 then .error (.after .invalidNumber s.tail)
  else
    match hf : readFraction (s.dropWhile Char.isDigit) with
    | .error e => .error e
    | .ok (trail, r) =>
      match he : readExponent r with
      | .error e => .error e
      | .ok (exponent, r') =>
        match numberOf? negative lead trail exponent with
        | none => .error (.outOfRange exponent r r')
        | some n => .ok ⟨n, r', by
            have h1 := length_readFraction_le hf
            have h2 := length_readExponent_le he
            have h3 := Text.length_dropWhile_lt hlead
            omega⟩

/-- Reads a number. Nothing else is read here: the text begins with a digit or a minus sign. -/
def readNumber (s : List Char) : Outcome s JsonNumber :=
  match s with
  | '-' :: r =>
    match readMagnitude true r with
    | .error e => .error e
    | .ok p => .ok p.after
  | s => readMagnitude false s

/-! ## Values -/

/-- What follows a word, which has to stand at the front of the text. -/
def afterWord : (word s : List Char) → Except Failure (List Char)
  | [], s => .ok s
  | _ :: _, [] => .error (.before .missingValue [])
  | c :: word, d :: s => if d = c then afterWord word s else .error (.after .expectedWord (d :: s))

theorem length_of_afterWord {word s r : List Char} (h : afterWord word s = .ok r) :
    r.length ≤ s.length := by
  fun_induction afterWord word s with
  | case1 s =>
    cases h
    exact Nat.le_refl _
  | case2 => cases h
  | case3 c word s ih => exact Nat.le_succ_of_le (ih h)
  | case4 => cases h

/-- Reads the rest of the word for a value, of which the first character has been taken. -/
def readWord {c : Char} (word : List Char) (value : Json) (s : List Char) :
    Outcome (c :: s) Json :=
  match h : afterWord word s with
  | .error e => .error e
  | .ok r => .ok ⟨value, r, Nat.lt_succ_of_le (length_of_afterWord h)⟩

mutual

/-- Reads a value, with `depth` more levels of arrays and objects allowed. -/
def readValue (depth : Nat) (s : List Char) : Outcome s Json :=
  match hs : skipSpace s with
  | [] => .error (.before .missingValue [])
  | c :: r =>
    have hlt := length_lt_of_skipSpace hs
    if c = 'n' then
      match readWord (c := c) ['u', 'l', 'l'] .null r with
      | .error e => .error e
      | .ok p => .ok (p.within hlt)
    else if c = 't' then
      match readWord (c := c) ['r', 'u', 'e'] (.bool true) r with
      | .error e => .error e
      | .ok p => .ok (p.within hlt)
    else if c = 'f' then
      match readWord (c := c) ['a', 'l', 's', 'e'] (.bool false) r with
      | .error e => .error e
      | .ok p => .ok (p.within hlt)
    else if c = '"' then
      match readString r with
      | .error e => .error e
      | .ok p => .ok ((p.map fun cs => .text (String.ofList cs)).within (Nat.le_of_lt hlt))
    else if c = '[' then
      match depth with
      | 0 => .error (.after .tooDeep (c :: r))
      | depth + 1 =>
        match readArray depth r with
        | .error e => .error e
        | .ok p => .ok ((p.map .array).within (Nat.le_of_lt hlt))
    else if c = '{' then
      match depth with
      | 0 => .error (.after .tooDeep (c :: r))
      | depth + 1 =>
        match readObject depth r with
        | .error e => .error e
        | .ok p => .ok ((p.map fun ms => .object (collectMembers ms)).within (Nat.le_of_lt hlt))
    else if c = '-' ∨ c.isDigit then
      match readNumber (c :: r) with
      | .error e => .error e
      | .ok p => .ok ((p.map .number).within hlt)
    else .error (.after .expectedValue (c :: r))
termination_by (s.length, 0)
decreasing_by
  all_goals exact Prod.Lex.left _ _ hlt

/-- Reads the items of an array to its closing bracket. -/
def readArray (depth : Nat) (s : List Char) : Outcome s (List Json) :=
  match hs : skipSpace s with
  | [] => .error (.before .unendedArray [])
  | ']' :: r => .ok ⟨[], r, length_lt_of_skipSpace hs⟩
  | _ => readItems depth s
termination_by (s.length, 2)
decreasing_by
  exact Prod.Lex.right _ (by decide)

/-- Reads the items of an array to its closing bracket, at least one. -/
def readItems (depth : Nat) (s : List Char) : Outcome s (List Json) :=
  if (skipSpace s).head? = some ']' then .error (.after .trailingComma (skipSpace s))
  else
    match readValue depth s with
    | .error e => .error e
    | .ok p =>
      match hr : skipSpace p.rest with
      | [] => .error (.before .unendedArray [])
      | c :: r =>
        have hlt : r.length < s.length := Nat.lt_trans (length_lt_of_skipSpace hr) p.shorter
        if c = ']' then .ok ⟨[p.value], r, hlt⟩
        else if c = ',' then
          match readItems depth r with
          | .error e => .error e
          | .ok q => .ok ((q.map (p.value :: ·)).within (Nat.le_of_lt hlt))
        else .error (.after .expectedItemEnd (c :: r))
termination_by (s.length, 1)
decreasing_by
  · exact Prod.Lex.right _ (by decide)
  · exact Prod.Lex.left _ _ hlt

/-- Reads the members of an object to its closing brace. -/
def readObject (depth : Nat) (s : List Char) : Outcome s (List (String × Json)) :=
  match hs : skipSpace s with
  | [] => .error (.before .unendedObject [])
  | '}' :: r => .ok ⟨[], r, length_lt_of_skipSpace hs⟩
  | _ => readMembers depth s
termination_by (s.length, 2)
decreasing_by
  exact Prod.Lex.right _ (by decide)

/-- Reads the members of an object to its closing brace, at least one. -/
def readMembers (depth : Nat) (s : List Char) : Outcome s (List (String × Json)) :=
  match hs : skipSpace s with
  | [] => .error (.before .missingValue [])
  | '}' :: r => .error (.after .trailingComma ('}' :: r))
  | '"' :: r =>
    match readString r with
    | .error e => .error e
    | .ok key =>
      match hk : skipSpace key.rest with
      | [] => .error (.before .unendedObject [])
      | ':' :: r' =>
        have hlt : r'.length < s.length :=
          Nat.lt_trans (length_lt_of_skipSpace hk) (Nat.lt_trans key.shorter
            (length_lt_of_skipSpace hs))
        match readValue depth r' with
        | .error e => .error e
        | .ok p =>
          match hr : skipSpace p.rest with
          | [] => .error (.before .unendedObject [])
          | c :: r'' =>
            have hlt' : r''.length < s.length :=
              Nat.lt_trans (length_lt_of_skipSpace hr) (Nat.lt_trans p.shorter hlt)
            if c = '}' then .ok ⟨[(String.ofList key.value, p.value)], r'', hlt'⟩
            else if c = ',' then
              match readMembers depth r'' with
              | .error e => .error e
              | .ok q => .ok ((q.map ((String.ofList key.value, p.value) :: ·)).within
                  (Nat.le_of_lt hlt'))
            else .error (.after .expectedMemberEnd (c :: r''))
      | r' => .error (.after .expectedColon r')
  | r => .error (.after .expectedName r)
termination_by (s.length, 1)
decreasing_by
  · exact Prod.Lex.left _ _ hlt
  · exact Prod.Lex.left _ _ hlt'

end

/-- Reads a JSON text. -/
def read (text : String) : Except Error Json :=
  match readValue depthLimit text.toList with
  | .error e => .error (e.toError text)
  | .ok p =>
    match skipSpace p.rest with
    | [] => .ok p.value
    | r => .error ((Failure.after .trailingCharacters r).toError text)

/-- The value of a JSON text, if it is one. -/
def ofText? (text : String) : Option Json :=
  (read text).toOption

theorem ofText?_eq_some_iff {text : String} {j : Json} :
    ofText? text = some j ↔ read text = .ok j := by
  rw [ofText?]
  cases read text <;> simp [Except.toOption]

/-- A value is read if it is at the front of the text, with nothing but whitespace after it. -/
theorem read_eq_ok_iff {text : String} {j : Json} :
    read text = .ok j ↔ ∃ p, readValue depthLimit text.toList = .ok p ∧ p.value = j ∧
      skipSpace p.rest = [] := by
  rw [read]
  cases readValue depthLimit text.toList with
  | error e => simp
  | ok p => cases hrest : skipSpace p.rest <;> simp [hrest]

end ContentFilter.Json
