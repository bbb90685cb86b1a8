import ContentFilter.Regex.Pattern
import ContentFilter.Text.Blank
import ContentFilter.Text.Digits
import ContentFilter.Text.Parsed

/-!
# Escapes

Reading what follows a backslash in a pattern: characters by their code, classes, properties and
assertions. In a verbose pattern blanks and comments are skipped, also within most escapes; a
comment goes from `#` to the end of the line.
-/

namespace ContentFilter.Regex

open Text

/-! ## Blanks and comments -/

/-- The text after blanks and comments; with `inComment` it begins within a comment. -/
def skipVerbose (inComment : Bool) : List Char → List Char
  | [] => []
  | c :: r =>
    if inComment then skipVerbose (c != '\n') r
    else if isBlank c then skipVerbose false r
    else if c = '#' then skipVerbose true r
    else c :: r

/-- The text after what a pattern ignores: nothing, if it is not verbose. -/
def skipIgnored (verbose : Bool) (s : List Char) : List Char :=
  if verbose then skipVerbose false s else s

theorem length_skipVerbose_le (inComment : Bool) (s : List Char) :
    (skipVerbose inComment s).length ≤ s.length := by
  fun_induction skipVerbose inComment s <;> simp_all <;> omega

theorem length_skipIgnored_le (verbose : Bool) (s : List Char) :
    (skipIgnored verbose s).length ≤ s.length := by
  unfold skipIgnored
  split
  · exact length_skipVerbose_le false s
  · exact Nat.le_refl _

theorem length_lt_of_skipIgnored_eq_cons {verbose : Bool} {s r : List Char} {c : Char}
    (h : skipIgnored verbose s = c :: r) : r.length < s.length := by
  have := length_skipIgnored_le verbose s
  rw [h, List.length_cons] at this
  exact this

/-- What stands before the next closing brace, without what is ignored, and what follows the
brace. -/
def takeBraced? (verbose inComment : Bool) : List Char → Option (List Char × List Char)
  | [] => none
  | c :: r =>
    if inComment then takeBraced? verbose (c != '\n') r
    else if verbose && isBlank c then takeBraced? verbose false r
    else if verbose && c == '#' then takeBraced? verbose true r
    else if c = '}' then some ([], r)
    else (takeBraced? verbose false r).map fun p => (c :: p.1, p.2)

theorem length_lt_of_takeBraced?_eq_some {verbose inComment : Bool} {s : List Char}
    {p : List Char × List Char} (h : takeBraced? verbose inComment s = some p) :
    p.2.length < s.length := by
  induction s generalizing inComment p with
  | nil => simp [takeBraced?] at h
  | cons c r ih =>
    unfold takeBraced? at h
    split at h
    · exact Nat.lt_succ_of_lt (ih h)
    · split at h
      · exact Nat.lt_succ_of_lt (ih h)
      · split at h
        · exact Nat.lt_succ_of_lt (ih h)
        · split at h
          · exact (Option.some.inj h) ▸ Nat.lt_succ_self _
          · obtain ⟨q, hq, rfl⟩ := Option.map_eq_some_iff.mp h
            have := ih hq
            exact Nat.lt_succ_of_lt this

/-! ## Characters by code -/

/-- Reads `count` hexadecimal digits, `start` being the number of the digits before. -/
def takeHexDigits? (verbose : Bool) : Nat → Nat → List Char → Option (Nat × List Char)
  | 0, start, s => some (start, s)
  | count + 1, start, s =>
    match skipIgnored verbose s with
    | [] => none
    | c :: r => (hexDigit? c).bind fun d => takeHexDigits? verbose count (16 * start + d) r

theorem length_le_of_takeHexDigits?_eq_some {verbose : Bool} {count start : Nat} {s : List Char}
    {p : Nat × List Char} (h : takeHexDigits? verbose count start s = some p) :
    p.2.length ≤ s.length := by
  induction count generalizing start s with
  | zero => exact (Option.some.inj h) ▸ Nat.le_refl _
  | succ count ih =>
    unfold takeHexDigits? at h
    split at h
    · simp at h
    · rename_i c r hs
      obtain ⟨d, -, hd⟩ := Option.bind_eq_some_iff.mp h
      exact Nat.le_of_lt (Nat.lt_of_le_of_lt (ih hd) (length_lt_of_skipIgnored_eq_cons hs))

/-- The number in braces: one or more hexadecimal digits. -/
def hexNumber? (digits : List Char) : Option Nat :=
  if digits = [] then none else hexValue? 0 digits

/-- Reads a code of `count` digits or in braces. -/
def readCode? (verbose : Bool) (count : Nat) (s : List Char) : Option (Literal × List Char) :=
  match skipIgnored verbose s with
  | '{' :: r =>
    (takeBraced? verbose false r).bind fun p =>
      ((hexNumber? p.1).bind charOfCode?).map fun c => (⟨c, false⟩, p.2)
  | t =>
    (takeHexDigits? verbose count 0 t).bind fun p =>
      (charOfCode? p.1).map fun c => (⟨c, count == 2⟩, p.2)

theorem length_le_of_readCode?_eq_some {verbose : Bool} {count : Nat} {s : List Char}
    {p : Literal × List Char} (h : readCode? verbose count s = some p) :
    p.2.length ≤ s.length := by
  unfold readCode? at h
  have hskip := length_skipIgnored_le verbose s
  split at h
  · rename_i r hs
    obtain ⟨q, hq, hp⟩ := Option.bind_eq_some_iff.mp h
    obtain ⟨c, -, rfl⟩ := Option.map_eq_some_iff.mp hp
    have := length_lt_of_takeBraced?_eq_some hq
    simp only [hs, List.length_cons] at hskip
    simp only
    omega
  · obtain ⟨q, hq, hp⟩ := Option.bind_eq_some_iff.mp h
    obtain ⟨c, -, rfl⟩ := Option.map_eq_some_iff.mp hp
    exact Nat.le_trans (length_le_of_takeHexDigits?_eq_some hq) hskip

/-! ## Properties -/

/-- What stands before and after the first place where `mark` is found. -/
def splitAt? (mark : List Char) : List Char → Option (List Char × List Char)
  | [] => none
  | c :: s =>
    match afterPrefix? mark (c :: s) with
    | some r => some ([], r)
    | none => (splitAt? mark s).map fun p => (c :: p.1, p.2)

/-- The query that stands in the braces of a property, and whether it asks for the characters that
do not have the value. -/
def PropertyQuery.ofBraced (text : List Char) : PropertyQuery × Bool :=
  match splitAt? ['!', '='] text with
  | some (p, v) => (.value p v, true)
  | none =>
    match splitAt? [':'] text <|> splitAt? ['='] text with
    | some (p, v) => (.value p v, false)
    | none => (.name text, false)

/-- Reads a property: one letter, or a query in braces. Says too whether the query asks for the
characters without it. -/
def readProperty? (verbose : Bool) (s : List Char) : Option ((PropertyQuery × Bool) × List Char) :=
  match skipIgnored verbose s with
  | [] => none
  | c :: r =>
    if c = '{' then (takeBraced? verbose false r).map fun p =>
      (PropertyQuery.ofBraced p.1, p.2)
    else if c = '\\' then none
    else some ((.name [c], false), r)

theorem length_lt_of_readProperty?_eq_some {verbose : Bool} {s : List Char}
    {p : (PropertyQuery × Bool) × List Char} (h : readProperty? verbose s = some p) :
    p.2.length < s.length := by
  unfold readProperty? at h
  split at h
  · simp at h
  · rename_i c r hs
    have hr := length_lt_of_skipIgnored_eq_cons hs
    split at h
    · obtain ⟨q, hq, rfl⟩ := Option.map_eq_some_iff.mp h
      exact Nat.lt_trans (length_lt_of_takeBraced?_eq_some hq) hr
    · split at h
      · simp at h
      · exact (Option.some.inj h) ▸ hr

/-! ## Word boundaries -/

/-- Whether the character may stand in the name of a word boundary. -/
def isBoundaryNameChar (c : Char) : Bool :=
  c.isAlpha || c == '-'

/-- The word boundary with the given name. -/
def boundaryNamed? (name : List Char) : Option Assertion :=
  match String.ofList name with
  | "start" => some .wordStart
  | "end" => some .wordEnd
  | "start-half" => some .wordStartHalf
  | "end-half" => some .wordEndHalf
  | _ => none

/-- Reads what may follow the letter of a word boundary: its name in braces. Braces that do not
begin like a name are left alone, for they may hold a count. -/
def readBoundary? (verbose : Bool) : List Char → Option (Assertion × List Char)
  | '{' :: r =>
    if (skipIgnored verbose r).head?.any isBoundaryNameChar then
      (takeBraced? verbose false r).bind fun p => (boundaryNamed? p.1).map fun a => (a, p.2)
    else some (.wordBoundary, '{' :: r)
  | s => some (.wordBoundary, s)

theorem length_le_of_readBoundary?_eq_some {verbose : Bool} {s : List Char}
    {p : Assertion × List Char} (h : readBoundary? verbose s = some p) :
    p.2.length ≤ s.length := by
  unfold readBoundary? at h
  split at h
  · split at h
    · obtain ⟨q, hq, hp⟩ := Option.bind_eq_some_iff.mp h
      obtain ⟨a, -, rfl⟩ := Option.map_eq_some_iff.mp hp
      have := length_lt_of_takeBraced?_eq_some hq
      simp only [List.length_cons]
      omega
    · exact (Option.some.inj h) ▸ Nat.le_refl _
  · exact (Option.some.inj h) ▸ Nat.le_refl _

/-! ## All escapes -/

/-- The character that an escape of one letter denotes. -/
def controlOfLetter? : Char → Option Char
  | 'a' => some '\x07'
  | 'f' => some '\x0c'
  | 't' => some '\t'
  | 'n' => some '\n'
  | 'r' => some '\r'
  | 'v' => some '\x0b'
  | _ => none

/-- Whether an escape makes the character stand for itself. -/
def isEscapable (c : Char) : Bool :=
  c.toNat < 128 && !c.isAlphanum && c != '<' && c != '>'

/-- What the letter after a backslash begins. -/
inductive EscapeKind where
  /-- A part of a pattern that is complete. -/
  | whole (p : Pattern)
  /-- A code of so many digits. -/
  | code (count : Nat)
  /-- A property. -/
  | property (negated : Bool)
  /-- A word boundary. -/
  | boundary
  /-- Nothing that has a meaning. -/
  | unknown

/-- What the letter after a backslash begins. -/
def EscapeKind.ofLetter : Char → EscapeKind
  | 'x' => code 2
  | 'u' => code 4
  | 'U' => code 8
  | 'p' => property false
  | 'P' => property true
  | 'b' => boundary
  | 'd' => whole (.shorthand .digit false)
  | 'D' => whole (.shorthand .digit true)
  | 's' => whole (.shorthand .blank false)
  | 'S' => whole (.shorthand .blank true)
  | 'w' => whole (.shorthand .word false)
  | 'W' => whole (.shorthand .word true)
  | 'A' => whole (.assertion .textStart)
  | 'z' => whole (.assertion .textEnd)
  | 'B' => whole (.assertion .notWordBoundary)
  | '<' => whole (.assertion .wordStart)
  | '>' => whole (.assertion .wordEnd)
  | c =>
    match controlOfLetter? c with
    | some d => whole (.literal ⟨d, false⟩)
    | none => if isEscapable c then whole (.literal ⟨c, false⟩) else unknown

/-- Reads what follows a backslash. -/
def readEscape? (verbose : Bool) : (s : List Char) → Option (Parsed s Pattern)
  | [] => none
  | c :: r =>
    match EscapeKind.ofLetter c with
    | .whole p => some (.single p)
    | .code count =>
      match h : readCode? verbose count r with
      | none => none
      | some (l, rest) =>
        some ⟨.literal l, rest, Nat.lt_succ_of_le (length_le_of_readCode?_eq_some h)⟩
    | .property negated =>
      match h : readProperty? verbose r with
      | none => none
      | some ((q, differs), rest) =>
        some ⟨.property q (negated != differs), rest,
          Nat.lt_succ_of_lt (length_lt_of_readProperty?_eq_some h)⟩
    | .boundary =>
      match h : readBoundary? verbose r with
      | none => none
      | some (a, rest) =>
        some ⟨.assertion a, rest, Nat.lt_succ_of_le (length_le_of_readBoundary?_eq_some h)⟩
    | .unknown => none

end ContentFilter.Regex
