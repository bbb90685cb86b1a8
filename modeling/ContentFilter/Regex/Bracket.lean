import ContentFilter.Regex.Escape

/-!
# Bracketed sets

Reading what stands between brackets: characters, ranges, classes, brackets within brackets and the
three set operations, which bind alike and to the left. A hyphen is a character of its own at the
beginning and right before the closing bracket, and so is a closing bracket at the beginning.
-/

namespace ContentFilter.Regex

open Text

namespace SetExpr

/-- The item that a part of a pattern is in a bracketed set; places in the text are none. -/
def ofPattern? : Pattern → Option SetExpr
  | .literal l => some (literal l)
  | .shorthand kind negated => some (shorthand kind negated)
  | .property query negated => some (property query negated)
  | _ => none

/-- The range between two characters, the first not after the second. -/
def range? : Pattern → Pattern → Option SetExpr
  | .literal a, .literal b => if a.char ≤ b.char then some (range a b) else none
  | _, _ => none

/-- Completes a pending operation with what stands on its right. -/
def close (pending : Option (SetOperator × SetExpr)) (right : SetExpr) : SetExpr :=
  match pending with
  | some (op, left) => combine op left right
  | none => right

end SetExpr

/-- Reads one character or escape. -/
def readSetAtom? (verbose : Bool) : (s : List Char) → Option (Parsed s Pattern)
  | [] => none
  | '\\' :: r => (readEscape? verbose r).map Parsed.after
  | c :: _ => some (.single (.literal ⟨c, false⟩))

/-- The first character after blanks and at most one `#`. -/
def firstPastBlanks? (hashSeen : Bool) : List Char → Option Char
  | [] => none
  | c :: r =>
    if isBlank c then firstPastBlanks? hashSeen r
    else if c = '#' ∧ !hashSeen then firstPastBlanks? true r
    else some c

/-- What decides whether a hyphen makes a range: the character after it, in a verbose pattern the
first one that is no blank, if there is one. -/
def charAfterHyphen? (verbose : Bool) (s : List Char) : Option Char :=
  if verbose then firstPastBlanks? false s <|> s.head? else s.head?

/-- Reads a range or a single item. -/
def readSetItem? (verbose : Bool) (s : List Char) : Option (Parsed s SetExpr) :=
  match readSetAtom? verbose s with
  | none => none
  | some p =>
    have hp := Nat.lt_of_le_of_lt (length_skipIgnored_le verbose p.rest) p.shorter
    match hs : skipIgnored verbose p.rest with
    | [] => none
    | c :: r =>
      let next := charAfterHyphen? verbose r
      if c = '-' ∧ next ≠ some ']' ∧ next ≠ some '-' then
        match readSetAtom? verbose (skipIgnored verbose r) with
        | none => none
        | some q =>
          (SetExpr.range? p.value q.value).map fun e => ⟨e, q.rest, by
            have h1 := q.shorter
            have h2 := length_skipIgnored_le verbose r
            rw [hs, List.length_cons] at hp
            omega⟩
      else (SetExpr.ofPattern? p.value).map fun e => ⟨e, c :: r, hs ▸ hp⟩

/-- Reads the name of an ASCII class to the colon and the bracket after it. -/
def readPosixName? (negated : Bool) (s : List Char) : Option (SetExpr × List Char) :=
  match afterPrefix? [':', ']'] (s.dropWhile (· ≠ ':')) with
  | none => none
  | some rest =>
    (CharSet.posix? (s.takeWhile (· ≠ ':'))).map fun set => (.posix set negated, rest)

/-- Reads an ASCII class between colons, after its opening bracket. -/
def readPosix? : List Char → Option (SetExpr × List Char)
  | ':' :: '^' :: r => readPosixName? true r
  | ':' :: r => readPosixName? false r
  | _ => none

theorem length_le_of_readPosixName?_eq_some {negated : Bool} {s : List Char}
    {p : SetExpr × List Char} (h : readPosixName? negated s = some p) :
    p.2.length ≤ s.length := by
  unfold readPosixName? at h
  split at h
  · simp at h
  · rename_i rest hrest
    obtain ⟨q, -, rfl⟩ := Option.map_eq_some_iff.mp h
    have h1 := length_of_afterPrefix?_eq_some hrest
    have h2 := length_dropWhile_le (· ≠ ':') s
    simp only
    omega

theorem length_lt_of_readPosix?_eq_some {s : List Char} {p : SetExpr × List Char}
    (h : readPosix? s = some p) : p.2.length < s.length := by
  unfold readPosix? at h
  split at h
  · have := length_le_of_readPosixName?_eq_some h
    simp only [List.length_cons]
    omega
  · have := length_le_of_readPosixName?_eq_some h
    simp only [List.length_cons]
    omega
  · simp at h

/-- The hyphens at the beginning, as so many items, and what follows them. -/
def takeHyphens (verbose inComment : Bool) : List Char → List SetExpr × List Char
  | [] => ([], [])
  | c :: r =>
    if inComment then takeHyphens verbose (c != '\n') r
    else if verbose && isBlank c then takeHyphens verbose false r
    else if verbose && c == '#' then takeHyphens verbose true r
    else if c = '-' then
      let p := takeHyphens verbose false r
      (.literal ⟨'-', false⟩ :: p.1, p.2)
    else ([], c :: r)

theorem length_takeHyphens_le (verbose inComment : Bool) (s : List Char) :
    (takeHyphens verbose inComment s).2.length ≤ s.length := by
  induction s generalizing inComment with
  | nil => simp [takeHyphens]
  | cons c r ih =>
    unfold takeHyphens
    split
    · exact Nat.le_succ_of_le (ih _)
    · split
      · exact Nat.le_succ_of_le (ih _)
      · split
        · exact Nat.le_succ_of_le (ih _)
        · split
          · exact Nat.le_succ_of_le (ih _)
          · exact Nat.le_refl _

/-- The beginning of a bracketed set. -/
structure SetOpening where
  /-- The set is that of all other characters. -/
  negated : Bool
  /-- The items that may stand at the beginning only. -/
  items : List SetExpr
  /-- The text after them. -/
  rest : List Char

/-- Takes the hyphens, or the closing bracket, that stand for themselves at the beginning. -/
def openItems (verbose negated : Bool) (s : List Char) : SetOpening :=
  match takeHyphens verbose false s with
  | ([], ']' :: r) => ⟨negated, [.literal ⟨']', false⟩], r⟩
  | (items, r) => ⟨negated, items, r⟩

/-- Reads the beginning of a bracketed set, after its bracket. -/
def openSet (verbose : Bool) (s : List Char) : SetOpening :=
  match skipIgnored verbose s with
  | '^' :: r => openItems verbose true r
  | r => openItems verbose false r

theorem length_rest_openItems_le (verbose negated : Bool) (s : List Char) :
    (openItems verbose negated s).rest.length ≤ s.length := by
  have h := length_takeHyphens_le verbose false s
  unfold openItems
  split
  · rename_i r hr
    rw [hr] at h
    exact Nat.le_of_succ_le h
  · rename_i items r _ hr
    rw [hr] at h
    exact h

theorem length_rest_openSet_le (verbose : Bool) (s : List Char) :
    (openSet verbose s).rest.length ≤ s.length := by
  have h := length_skipIgnored_le verbose s
  unfold openSet
  split
  · rename_i r hr
    rw [hr, List.length_cons] at h
    have := length_rest_openItems_le verbose true r
    omega
  · exact Nat.le_trans (length_rest_openItems_le _ _ _) h

/-- The set operation that the text begins with. -/
def takeSetOperator? : List Char → Option (SetOperator × List Char)
  | '&' :: '&' :: r => some (.inter, r)
  | '-' :: '-' :: r => some (.diff, r)
  | '~' :: '~' :: r => some (.symmDiff, r)
  | _ => none

theorem length_lt_of_takeSetOperator?_eq_some {s : List Char} {p : SetOperator × List Char}
    (h : takeSetOperator? s = some p) : p.2.length < s.length := by
  unfold takeSetOperator? at h
  split at h <;> simp_all <;> subst h <;> simp only <;> omega

/-- Reads a set to its closing bracket. `items` are the items before, back to the last operation,
which is `pending`. -/
def readSet? (verbose : Bool) (pending : Option (SetOperator × SetExpr)) (items : List SetExpr)
    (s : List Char) : Option (Parsed s SetExpr) :=
  match hs : skipIgnored verbose s with
  | [] => none
  | c :: r =>
    have hr := length_lt_of_skipIgnored_eq_cons hs
    if c = ']' then some ⟨SetExpr.close pending (.join items), r, hr⟩
    else if c = '[' then
      match hp : readPosix? r with
      | some (e, rest) =>
        have hrest : rest.length < s.length :=
          Nat.lt_trans (length_lt_of_readPosix?_eq_some hp) hr
        (readSet? verbose pending (items ++ [e]) rest).map fun q => q.within (Nat.le_of_lt hrest)
      | none =>
        let opening := openSet verbose r
        have ho : opening.rest.length < s.length :=
          Nat.lt_of_le_of_lt (length_rest_openSet_le verbose r) hr
        match readSet? verbose none opening.items opening.rest with
        | none => none
        | some p =>
          have hrest : p.rest.length < s.length := Nat.lt_trans p.shorter ho
          (readSet? verbose pending (items ++ [.bracket opening.negated p.value]) p.rest).map
            fun q => q.within (Nat.le_of_lt hrest)
    else
      match ho : takeSetOperator? (c :: r) with
      | some (op, rest) =>
        have hrest : rest.length < s.length :=
          Nat.lt_of_lt_of_le (length_lt_of_takeSetOperator?_eq_some ho) hr
        (readSet? verbose (some (op, SetExpr.close pending (.join items))) [] rest).map
          fun q => q.within (Nat.le_of_lt hrest)
      | none =>
        match readSetItem? verbose (c :: r) with
        | none => none
        | some p =>
          have hrest : p.rest.length < s.length := Nat.lt_of_lt_of_le p.shorter hr
          (readSet? verbose pending (items ++ [p.value]) p.rest).map
            fun q => q.within (Nat.le_of_lt hrest)
termination_by s.length

/-- Reads a bracketed set after its bracket. -/
def readBracket? (verbose : Bool) (s : List Char) : Option (Parsed s Pattern) :=
  let opening := openSet verbose s
  (readSet? verbose none opening.items opening.rest).map fun p =>
    (p.map (.bracket opening.negated)).within (length_rest_openSet_le verbose s)

end ContentFilter.Regex
