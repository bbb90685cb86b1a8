import ContentFilter.Regex.Bracket
import ContentFilter.Text.Letter

/-!
# Reading patterns

```text
pattern := branch ("|" branch)*
branch  := (part count?)*
part    := character | "." | "^" | "$" | escape | set | group
count   := ("?" | "*" | "+" | "{" bounds "}") "?"?
group   := "(" ("?P<" name ">" | "?<" name ">" | "?" flags ":")? pattern ")" | "(?" flags ")"
```

A repetition needs something to repeat, group names are not repeated, and parts lie in one another
250 levels deep at most.
-/

namespace ContentFilter.Regex

open Text

/-! ## Counts -/

/-- Whether the character begins the count of a repetition. -/
def isCountMark (c : Char) : Bool :=
  c == '?' || c == '*' || c == '+' || c == '{'

/-- A number in braces, blanks around it left out; it has 32 bits at most. -/
def bound? (digits : List Char) : Option Nat :=
  (readNat? (trimBlanks digits)).filter (· < 4294967296)

/-- The bounds of a repetition as braces hold them: one number, a least number, or both. -/
def bounds? (text : List Char) : Option Bounds :=
  match splitAt? [','] text with
  | none => (bound? text).map .exactly
  | some (least, []) => (bound? least).map .atLeast
  | some (least, most) =>
    (bound? least).bind fun n => (bound? most).bind fun m => Bounds.between? n m

/-- Takes the mark off that reverses the preference of a repetition, if it is there. -/
def takeLazyMark : List Char → Bool × List Char
  | '?' :: r => (true, r)
  | r => (false, r)

theorem length_takeLazyMark_le (s : List Char) : (takeLazyMark s).2.length ≤ s.length := by
  unfold takeLazyMark
  split
  · exact Nat.le_succ _
  · exact Nat.le_refl _

/-- Reads the count of a repetition. -/
def readCount? (verbose : Bool) : (s : List Char) → Option (Parsed s Count)
  | [] => none
  | c :: r =>
    let simple (bounds : Bounds) : Option (Parsed (c :: r) Count) :=
      some ⟨⟨bounds, (takeLazyMark r).1⟩, (takeLazyMark r).2,
        Nat.lt_succ_of_le (length_takeLazyMark_le r)⟩
    if c = '?' then simple (.upTo 1)
    else if c = '*' then simple (.atLeast 0)
    else if c = '+' then simple (.atLeast 1)
    else if c = '{' then
      match h : takeBraced? verbose false r with
      | none => none
      | some (inside, rest) =>
        let after := skipIgnored verbose rest
        (bounds? inside).map fun b =>
          ⟨⟨b, (takeLazyMark after).1⟩, (takeLazyMark after).2, by
            have h1 := length_lt_of_takeBraced?_eq_some h
            have h2 := length_takeLazyMark_le after
            have h3 : after.length ≤ rest.length := length_skipIgnored_le verbose rest
            simp only [List.length_cons]
            simp only at h1
            omega⟩
    else none

/-! ## Groups -/

/-- The beginning of a group. -/
inductive GroupHead where
  /-- No group, but flags for the rest of the one around. -/
  | flags (settings : FlagSettings)
  /-- A group with flags of its own. -/
  | plain (settings : FlagSettings)
  /-- A group that captures what it matches, perhaps under a name. -/
  | capturing (name : Option (List Char))

/-- The group with the given beginning, as a pattern. -/
def GroupHead.close (body : Pattern) : GroupHead → Pattern
  | flags settings | plain settings => .group settings false body
  | capturing _ => .group [] true body

/-- Reads flags up to the character that ends them. `on` says that no hyphen was met, `dangling`
that the last character was one. Says whether a group follows. -/
def readFlags? (on dangling : Bool) (settings : FlagSettings) :
    List Char → Option (FlagSettings × Bool × List Char)
  | [] => none
  | c :: r =>
    if c = ':' ∨ c = ')' then if dangling then none else some (settings, c == ':', r)
    else if c = '-' then if on then readFlags? false true settings r else none
    else
      (Flag.ofLetter? c).bind fun flag =>
        if (settings.find? flag).isSome then none
        else readFlags? on false (settings ++ [(flag, on)]) r

theorem length_lt_of_readFlags?_eq_some {on dangling : Bool} {settings : FlagSettings}
    {s : List Char} {p : FlagSettings × Bool × List Char}
    (h : readFlags? on dangling settings s = some p) : p.2.2.length < s.length := by
  induction s generalizing on dangling settings with
  | nil => simp [readFlags?] at h
  | cons c r ih =>
    unfold readFlags? at h
    split at h
    · split at h
      · simp at h
      · exact (Option.some.inj h) ▸ Nat.lt_succ_self _
    · split at h
      · split at h
        · exact Nat.lt_succ_of_lt (ih h)
        · simp at h
      · obtain ⟨flag, -, hf⟩ := Option.bind_eq_some_iff.mp h
        split at hf
        · simp at hf
        · exact Nat.lt_succ_of_lt (ih hf)

/-- Whether the text may be the name of a group. -/
def isGroupName : List Char → Bool
  | [] => false
  | c :: r =>
    (c == '_' || isAlphabetic c) &&
      r.all fun d => d == '_' || d == '.' || d == '[' || d == ']' || isAlphanumeric d

/-- Reads the name of a group to its closing mark. -/
def readGroupName? (s : List Char) : Option (GroupHead × List Char) :=
  match s.dropWhile (· ≠ '>') with
  | [] => none
  | _ :: r =>
    let name := s.takeWhile (· ≠ '>')
    if isGroupName name then some (.capturing (some name), r) else none

/-- Reads what follows the parenthesis at the beginning of a group. -/
def readGroupHead? : List Char → Option (GroupHead × List Char)
  | '?' :: 'P' :: '<' :: r => readGroupName? r
  | '?' :: '<' :: r => readGroupName? r
  | '?' :: r =>
    match readFlags? true false [] r with
    | none => none
    | some (settings, true, rest) => some (.plain settings, rest)
    | some ([], false, _) => none
    | some (settings, false, rest) => some (.flags settings, rest)
  | r => some (.capturing none, r)

theorem length_le_of_readGroupName?_eq_some {s : List Char} {p : GroupHead × List Char}
    (h : readGroupName? s = some p) : p.2.length ≤ s.length := by
  have hle := length_dropWhile_le (· ≠ '>') s
  unfold readGroupName? at h
  split at h
  · simp at h
  · rename_i d r hd
    rw [hd, List.length_cons] at hle
    simp only at h
    split at h
    · exact (Option.some.inj h) ▸ Nat.le_of_succ_le hle
    · simp at h

theorem length_le_of_readGroupHead?_eq_some {s : List Char} {p : GroupHead × List Char}
    (h : readGroupHead? s = some p) : p.2.length ≤ s.length := by
  unfold readGroupHead? at h
  split at h
  · have := length_le_of_readGroupName?_eq_some h
    simp only [List.length_cons]
    omega
  · have := length_le_of_readGroupName?_eq_some h
    simp only [List.length_cons]
    omega
  · rename_i r _ _
    have key : ∀ q, readFlags? true false [] r = some q → q.2.2.length < r.length := fun q hq =>
      length_lt_of_readFlags?_eq_some hq
    split at h
    · simp at h
    · rename_i hq
      have := key _ hq
      exact (Option.some.inj h) ▸ Nat.le_succ_of_le (Nat.le_of_lt this)
    · simp at h
    · rename_i hq
      have := key _ hq
      exact (Option.some.inj h) ▸ Nat.le_succ_of_le (Nat.le_of_lt this)
  · exact (Option.some.inj h) ▸ Nat.le_refl _

/-! ## Patterns -/

/-- How a pattern is read from a place on. -/
structure ReadState where
  /-- Blanks and comments are ignored. -/
  verbose : Bool
  /-- The names of the groups before the place. -/
  names : List (List Char)

namespace ReadState

/-- The state after flags are set. -/
def applying (st : ReadState) (settings : FlagSettings) : ReadState :=
  { st with verbose := (settings.find? .verbose).getD st.verbose }

/-- The state within a group, unless it has the name of a group before. -/
def entering? (st : ReadState) : GroupHead → Option ReadState
  | .flags settings | .plain settings => some (st.applying settings)
  | .capturing none => some st
  | .capturing (some name) =>
    if st.names.contains name then none else some { st with names := name :: st.names }

end ReadState

/-- A pattern read to a closing parenthesis or to the end of the text. -/
structure Body (s : List Char) where
  /-- The pattern. -/
  value : Pattern
  /-- How reading goes on. -/
  state : ReadState
  /-- The text from the parenthesis on. -/
  rest : List Char
  /-- It is no longer than what was to be read. -/
  within : rest.length ≤ s.length

/-- The same body as one of a longer text. -/
def Body.widen {r s : List Char} (b : Body r) (h : r.length ≤ s.length) : Body s :=
  ⟨b.value, b.state, b.rest, Nat.le_trans b.within h⟩

/-- A single character of a pattern that is no escape. -/
def Pattern.ofChar : Char → Pattern
  | '.' => .dot
  | '^' => .assertion .lineStart
  | '$' => .assertion .lineEnd
  | c => .literal ⟨c, false⟩

/-- Reads a character, an escape or a bracketed set. -/
def readPart? (verbose : Bool) : (s : List Char) → Option (Parsed s Pattern)
  | [] => none
  | c :: r =>
    if c = '\\' then (readEscape? verbose r).map Parsed.after
    else if c = '[' then (readBracket? verbose r).map Parsed.after
    else some (.single (.ofChar c))

/-- Completes a pattern from its branches and the parts of the last one, both the last one first. -/
def joinBranches (branches parts : List Pattern) : Pattern :=
  .choice (Pattern.sequence parts.reverse :: branches).reverse

/-- Reads a pattern to a closing parenthesis or to the end. `branches` are its alternatives before
and `parts` the parts of the present one, in both lists the last one first. -/
def readBody? (st : ReadState) (branches parts : List Pattern) (s : List Char) :
    Option (Body s) :=
  match hs : skipIgnored st.verbose s with
  | [] => some ⟨joinBranches branches parts, st, [], Nat.zero_le _⟩
  | c :: r =>
    have hr := length_lt_of_skipIgnored_eq_cons hs
    if c = ')' then
      some ⟨joinBranches branches parts, st, c :: r, hr⟩
    else if c = '|' then
      (readBody? st (.sequence parts.reverse :: branches) [] r).map (·.widen (Nat.le_of_lt hr))
    else if c = '(' then
      match hg : readGroupHead? (skipIgnored st.verbose r) with
      | none => none
      | some (head, inside) =>
        have hi : inside.length < s.length :=
          Nat.lt_of_le_of_lt (Nat.le_trans (length_le_of_readGroupHead?_eq_some hg)
            (length_skipIgnored_le st.verbose r)) hr
        match head with
        | .flags settings =>
          (readBody? (st.applying settings) branches (.flags settings :: parts) inside).map
            (·.widen (Nat.le_of_lt hi))
        | head =>
          match st.entering? head with
          | none => none
          | some inner =>
            match readBody? inner [] [] inside with
            | none => none
            | some body =>
              match hb : body.rest with
              | [] => none
              | _ :: after =>
                have ha : after.length < s.length := by
                  have := body.within
                  rw [hb, List.length_cons] at this
                  omega
                (readBody? { verbose := st.verbose, names := body.state.names } branches
                    (head.close body.value :: parts) after).map
                  (·.widen (Nat.le_of_lt ha))
    else if isCountMark c then
      match parts with
      | [] => none
      | part :: before =>
        if part.isRepeatable then
          match readCount? st.verbose (c :: r) with
          | none => none
          | some p =>
            have hp : p.rest.length < s.length := Nat.lt_of_lt_of_le p.shorter hr
            (readBody? st branches (.repetition part p.value :: before) p.rest).map
              (·.widen (Nat.le_of_lt hp))
        else none
    else
      match readPart? st.verbose (c :: r) with
      | none => none
      | some p =>
        have hp : p.rest.length < s.length := Nat.lt_of_lt_of_le p.shorter hr
        (readBody? st branches (p.value :: parts) p.rest).map (·.widen (Nat.le_of_lt hp))
termination_by s.length

/-- How deep the parts of a pattern may lie in one another. -/
def maxDepth : Nat := 250

/-- Reads a pattern. -/
def Pattern.ofChars? (s : List Char) : Option Pattern :=
  match readBody? ⟨false, []⟩ [] [] s with
  | some body => if body.rest = [] ∧ body.value.depth ≤ maxDepth then some body.value else none
  | none => none

end ContentFilter.Regex
