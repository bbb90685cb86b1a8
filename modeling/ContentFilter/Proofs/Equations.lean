import ContentFilter.Expr.Reader
import ContentFilter.Proofs.Lexeme

/-!
# Equations of the readers

The readers of a filter text call each other and carry along the fact that they take something off
the text. Here each of them gets an equation over its result alone: the value and the text after it.
-/

namespace ContentFilter.Expr

open Text

/-! ## Results of readers -/

section Results

variable {s : List Char} {α : Type}

@[simp] theorem Outcome.result_ok (p : Parsed s α) :
    Outcome.result (.ok p : Outcome s α) = .ok (p.value, p.rest) := rfl

@[simp] theorem Outcome.result_error (e : Failure) :
    Outcome.result (.error e : Outcome s α) = .error e := rfl

theorem Outcome.exists_of_result {o : Outcome s α} {a : α} {t : List Char}
    (h : o.result = .ok (a, t)) : ∃ p : Parsed s α, o = .ok p ∧ p.value = a ∧ p.rest = t := by
  cases o with
  | error e => cases h
  | ok p =>
    rw [Outcome.result_ok, Except.ok.injEq, Prod.mk.injEq] at h
    exact ⟨p, rfl, h.1, h.2⟩

/-- A reading leaves less than the text. -/
theorem Outcome.length_lt_of_result {o : Outcome s α} {a : α} {t : List Char}
    (h : o.result = .ok (a, t)) : t.length < s.length := by
  obtain ⟨p, -, -, rfl⟩ := Outcome.exists_of_result h
  exact p.shorter

end Results

/-! ## Equations of the readers -/

/-- What the word at the front of the text is read as: a literal, a call if a list of arguments
    follows, or else a property. -/
def wordResult (s : List Char) : Except Failure (Expr × List Char) :=
  if isLiteralWord (s.takeWhile isWordChar) then
    .ok (wordOperand (s.takeWhile isWordChar), s.dropWhile isWordChar)
  else
    match skipBlanks (s.dropWhile isWordChar) with
    | '(' :: inside =>
      (readArguments false inside).result.map fun x =>
        (.call (String.ofList (s.takeWhile isWordChar)) x.1, x.2)
    | _ => .ok (wordOperand (s.takeWhile isWordChar), s.dropWhile isWordChar)

theorem result_readValue_nil {s : List Char} (hs : skipBlanks s = []) :
    (readValue s).result = .error ⟨.unexpectedEnd, []⟩ := by
  unfold readValue
  split
  · rfl
  · rename_i hcons
    rw [hs] at hcons
    cases hcons

/-- A letter or an underscore may stand in a word. -/
theorem isWordChar_of_isWordStart {c : Char} (h : isWordStart c = true) : isWordChar c = true := by
  unfold isWordStart at h
  unfold isWordChar
  rw [Bool.or_eq_true] at h
  rcases h with h | h
  · have : isAlphanumeric c = true := by simp [isAlphanumeric, h]
    simp [this]
  · simp [h]

theorem result_readValue {s r : List Char} {c : Char} (hs : skipBlanks s = c :: r) :
    (readValue s).result =
      if c = '\'' ∨ c = '"' then
        (readString c (c :: r) r).result.map fun x => (.text (String.ofList x.1), x.2)
      else if c = '[' then (readBracketed (c :: r) r).result
      else if c = '$' then (readArgument r).result
      else if c.isDigit ∧ hasShape dateShape (c :: r) then .ok (takeDate (c :: r))
      else if c.isDigit ∨ ((c = '-' ∨ c = '+') ∧ startsWith Char.isDigit r) then
        .ok (.number (String.ofList (c :: (takeNumberTail r).1)), (takeNumberTail r).2)
      else if isWordStart c then wordResult (c :: r)
      else .error ⟨.unexpectedChar c, c :: r⟩ := by
  unfold readValue
  split
  · rename_i hnil
    rw [hs] at hnil
    cases hnil
  · rename_i d u hcons
    rw [hs] at hcons
    cases hcons
    simp only
    split
    · cases readString c (c :: r) r <;> rfl
    · split
      · cases readBracketed (c :: r) r <;> rfl
      · split
        · cases readArgument r <;> rfl
        · split
          · rfl
          · split
            · rfl
            · split
              · rename_i hstart
                have hdrop : (c :: r).dropWhile isWordChar = r.dropWhile isWordChar :=
                  List.dropWhile_cons_of_pos (isWordChar_of_isWordStart hstart)
                unfold wordResult
                rw [hdrop]
                split
                · rfl
                · split
                  · rename_i inside hin
                    simp only [hin]
                    cases readArguments false inside <;> rfl
                  · rename_i hin
                    split
                    · rename_i inside hopen
                      exact absurd hopen (hin inside)
                    · rfl
              · rfl

theorem result_readArguments_nil {started : Bool} {s : List Char} (hs : skipBlanks s = []) :
    (readArguments started s).result = .error ⟨.unexpectedEnd, []⟩ := by
  unfold readArguments
  split
  · rfl
  · rename_i hcons
    rw [hs] at hcons
    cases hcons

theorem result_readArguments {started : Bool} {s r : List Char} {c : Char}
    (hs : skipBlanks s = c :: r) :
    (readArguments started s).result =
      if c = ')' then .ok ([], r)
      else if c = ',' ∧ started then (readArguments true r).result
      else (readValue s).result.bind fun x =>
        (readArguments true x.2).result.map fun y => (x.1 :: y.1, y.2) := by
  rw [readArguments]
  split
  · rename_i hnil
    rw [hs] at hnil
    cases hnil
  · rename_i d u hcons
    rw [hs] at hcons
    cases hcons
    simp only
    split
    · rfl
    · split
      · cases readArguments true r <;> rfl
      · cases readValue s with
        | error e => rfl
        | ok p =>
          simp only [Outcome.result_ok, Except.bind]
          cases readArguments true p.rest <;> rfl

theorem result_readDisjuncts (s : List Char) :
    (readDisjuncts s).result = (readConjuncts s).result.bind fun x =>
      match afterOr? (skipBlanks x.2) with
      | none => .ok ([joinOperands .all x.1], x.2)
      | some r => (readDisjuncts r).result.map fun y => (joinOperands .all x.1 :: y.1, y.2) := by
  rw [readDisjuncts]
  cases readConjuncts s with
  | error e => rfl
  | ok p =>
    simp only [Outcome.result_ok, Except.bind]
    split
    · rename_i ho
      rw [ho]
      rfl
    · rename_i r ho
      simp only [ho]
      cases readDisjuncts r <;> rfl

theorem result_readConjuncts (s : List Char) :
    (readConjuncts s).result = (readTerm s).result.bind fun x =>
      match afterAnd? (skipBlanks x.2) with
      | none => .ok ([x.1], x.2)
      | some r => (readConjuncts r).result.map fun y => (x.1 :: y.1, y.2) := by
  rw [readConjuncts]
  cases readTerm s with
  | error e => rfl
  | ok p =>
    simp only [Outcome.result_ok, Except.bind]
    split
    · rename_i ho
      rw [ho]
      rfl
    · rename_i r ho
      simp only [ho]
      cases readConjuncts r <;> rfl

/-- The result of a term that begins with an opening parenthesis. -/
theorem result_readTerm_parenthesis {s r : List Char} (hs : skipBlanks s = '(' :: r) :
    (readTerm s).result = (readDisjuncts r).result.bind fun x =>
      match skipBlanks x.2 with
      | c :: t =>
        if c = ')' then .ok (joinOperands .any x.1, t) else .error ⟨.unexpectedChar c, c :: t⟩
      | [] => .error ⟨.unexpectedEnd, []⟩ := by
  rw [readTerm]
  split
  · rename_i u hcons
    rw [hs] at hcons
    cases hcons
    cases readDisjuncts r with
    | error e => rfl
    | ok p =>
      simp only [Outcome.result_ok, Except.bind]
      split
      · rename_i c t hc
        simp only [hc]
        split <;> rfl
      · rename_i hc
        rw [hc]
        rfl
  · rename_i hne
    exact absurd hs (hne r)

/-- The result of a term that is a comparison. -/
theorem result_readTerm_comparison {s : List Char} (hs : ∀ r, skipBlanks s ≠ '(' :: r) :
    (readTerm s).result = (readValue s).result.bind fun x =>
      match readOperator? (skipBlanks x.2) with
      | none => .error ⟨.expectedOperator, skipBlanks x.2⟩
      | some (op, r) => (readValue r).result.map fun y => (.compare op x.1 y.1, y.2) := by
  rw [readTerm]
  split
  · rename_i r hr
    exact absurd hr (hs r)
  · cases readValue s with
    | error e => rfl
    | ok p =>
      simp only [Outcome.result_ok, Except.bind]
      split
      · rename_i ho
        rw [ho]
        rfl
      · rename_i op r ho
        simp only [ho]
        cases readValue r <;> rfl

theorem result_readArgument_eq_ok_iff {s t : List Char} {e : Expr} :
    (readArgument s).result = .ok (e, t) ↔ s.takeWhile isWordChar ≠ [] ∧
      e = .argument (String.ofList (s.takeWhile isWordChar)) ∧ t = s.dropWhile isWordChar := by
  rw [readArgument]
  split
  · rename_i hnil
    constructor
    · intro h
      split at h <;> cases h
    · rintro ⟨hne, -⟩
      exact absurd hnil hne
  · rename_i hne
    rw [Outcome.result_ok, Except.ok.injEq, Prod.mk.injEq]
    exact ⟨fun h => ⟨hne, h.1.symm, h.2.symm⟩, fun h => ⟨h.2.1.symm, h.2.2.symm⟩⟩

theorem result_readBracketed_eq_ok_iff {opening s t : List Char} {e : Expr} :
    (readBracketed opening s).result = .ok (e, t) ↔ ∃ path, s = path ++ ']' :: t ∧
      ']' ∉ path ∧ e = .property (String.ofList (trimBlanks path)) := by
  have hsplit := List.takeWhile_append_dropWhile (p := (· ≠ ']')) (l := s)
  have hpath : ']' ∉ s.takeWhile (· ≠ ']') := fun hmem => by
    simpa using List.mem_takeWhile_imp hmem
  have hstop := startsWith_dropWhile (· ≠ ']') s
  rw [readBracketed]
  split
  · rename_i c r hdrop
    rw [hdrop] at hsplit hstop
    obtain rfl : c = ']' := by simpa using hstop
    rw [Outcome.result_ok, Except.ok.injEq, Prod.mk.injEq]
    constructor
    · rintro ⟨he, ht⟩
      exact ⟨_, by rw [← ht, hsplit], hpath, he.symm⟩
    · rintro ⟨path, hs, hmem, rfl⟩
      have hrun : ∀ c ∈ path, decide (c ≠ ']') = true := by
        intro c hc
        simp only [decide_eq_true_eq]
        rintro rfl
        exact hmem hc
      have htake : s.takeWhile (· ≠ ']') = path := by
        rw [hs]
        exact takeWhile_run hrun (by simp)
      have hrest : s.dropWhile (· ≠ ']') = ']' :: t := by
        rw [hs]
        exact dropWhile_run hrun (by simp)
      rw [hdrop] at hrest
      exact ⟨by rw [htake], (List.cons.inj hrest).2⟩
  · rename_i hdrop
    constructor
    · intro h
      cases h
    · rintro ⟨path, hs, -, -⟩
      rw [hdrop, List.append_nil] at hsplit
      rw [hsplit, hs] at hpath
      simp at hpath

end ContentFilter.Expr
