import ContentFilter.Proofs.Equations

/-!
# The grammar of filter texts

What the readers of a filter text accept, written down as rules: `Reads k s es t` says that the
phrase `k` stands at the front of `s`, denotes the expressions `es` and leaves `t`. The main
statement `read_eq_ok_iff` says that the rules and the readers accept the same; whatever holds of
all accepted texts is an induction over the rules.
-/

namespace ContentFilter.Expr

open Text

/-! ## Phrases and rules -/

/-- What stands at the front of a text. -/
inductive Phrase where
  /-- An operand. -/
  | value
  /-- Arguments up to the closing parenthesis; `started` says that there is one already. -/
  | arguments (started : Bool)
  /-- A comparison, or a disjunction in parentheses. -/
  | term
  /-- The operands of a conjunction. -/
  | conjuncts
  /-- The operands of a disjunction. -/
  | disjuncts
deriving DecidableEq

/-- The reader of a phrase; operands and terms are single expressions. -/
def Phrase.read : Phrase → List Char → Except Failure (List Expr × List Char)
  | value, s => (readValue s).result.map fun x => ([x.1], x.2)
  | arguments started, s => (readArguments started s).result
  | term, s => (readTerm s).result.map fun x => ([x.1], x.2)
  | conjuncts, s => (readConjuncts s).result
  | disjuncts, s => (readDisjuncts s).result

theorem joinOperands_of_two_le (join : List Expr → Expr) {es : List Expr} (h : 2 ≤ es.length) :
    joinOperands join es = join es := by
  rcases es with - | ⟨e₁, - | ⟨e₂, es⟩⟩
  · rfl
  · exact absurd h (by simp)
  · rfl

/-- The rules of the grammar. `Reads k s es t` says that the phrase `k` stands at the front of `s`,
    blanks before it skipped, denotes `es` and is followed by `t`. -/
inductive Reads : Phrase → List Char → List Expr → List Char → Prop where
  /-- A quoted text. -/
  | text {s r cs t : List Char} {c : Char} (hs : skipBlanks s = c :: r) (hc : c = '\'' ∨ c = '"')
      (h : (readString c (c :: r) r).result = .ok (cs, t)) :
      Reads .value s [.text (String.ofList cs)] t
  /-- A property in brackets. -/
  | bracketed {s path t : List Char} (hs : skipBlanks s = '[' :: (path ++ ']' :: t))
      (hpath : ']' ∉ path) : Reads .value s [.property (String.ofList (trimBlanks path))] t
  /-- The name of an argument. -/
  | argument {s r : List Char} (hs : skipBlanks s = '$' :: r) (hr : r.takeWhile isWordChar ≠ []) :
      Reads .value s [.argument (String.ofList (r.takeWhile isWordChar))] (r.dropWhile isWordChar)
  /-- A date with an optional time and offset. -/
  | date {s r : List Char} {c : Char} (hs : skipBlanks s = c :: r) (hc : c.isDigit = true)
      (hshape : hasShape dateShape (c :: r) = true) :
      Reads .value s [(takeDate (c :: r)).1] (takeDate (c :: r)).2
  /-- A number. -/
  | number {s r : List Char} {c : Char} (hs : skipBlanks s = c :: r)
      (hdate : ¬ (c.isDigit = true ∧ hasShape dateShape (c :: r) = true))
      (hc : c.isDigit = true ∨ ((c = '-' ∨ c = '+') ∧ startsWith Char.isDigit r = true)) :
      Reads .value s [.number (String.ofList (c :: (takeNumberTail r).1))] (takeNumberTail r).2
  /-- A word without arguments. -/
  | word {s r : List Char} {c : Char} (hs : skipBlanks s = c :: r) (hc : isWordStart c = true)
      (hopen : isLiteralWord ((c :: r).takeWhile isWordChar) = false →
        ∀ inside, skipBlanks ((c :: r).dropWhile isWordChar) ≠ '(' :: inside) :
      Reads .value s [wordOperand ((c :: r).takeWhile isWordChar)] ((c :: r).dropWhile isWordChar)
  /-- A word with arguments. -/
  | call {s r inside t : List Char} {c : Char} {es : List Expr} (hs : skipBlanks s = c :: r)
      (hc : isWordStart c = true) (hword : isLiteralWord ((c :: r).takeWhile isWordChar) = false)
      (hopen : skipBlanks ((c :: r).dropWhile isWordChar) = '(' :: inside)
      (h : Reads (.arguments false) inside es t) :
      Reads .value s [.call (String.ofList ((c :: r).takeWhile isWordChar)) es] t
  /-- The end of the arguments. -/
  | close {s t : List Char} {started : Bool} (hs : skipBlanks s = ')' :: t) :
      Reads (.arguments started) s [] t
  /-- A comma between arguments. -/
  | comma {s r t : List Char} {es : List Expr} (hs : skipBlanks s = ',' :: r)
      (h : Reads (.arguments true) r es t) : Reads (.arguments true) s es t
  /-- An argument and those after it. -/
  | more {s r s' t : List Char} {c : Char} {started : Bool} {e : Expr} {es : List Expr}
      (hs : skipBlanks s = c :: r) (hc : c ≠ ')') (hcomma : ¬ (c = ',' ∧ started = true))
      (he : Reads .value s [e] s') (h : Reads (.arguments true) s' es t) :
      Reads (.arguments started) s (e :: es) t
  /-- A disjunction in parentheses. -/
  | parentheses {s r s' t : List Char} {es : List Expr} (hs : skipBlanks s = '(' :: r)
      (h : Reads .disjuncts r es s') (ht : skipBlanks s' = ')' :: t) :
      Reads .term s [joinOperands .any es] t
  /-- A comparison. -/
  | comparison {s r s' t : List Char} {op : Operator} {left right : Expr}
      (hs : ∀ r, skipBlanks s ≠ '(' :: r) (hleft : Reads .value s [left] r)
      (hop : readOperator? (skipBlanks r) = some (op, s')) (hright : Reads .value s' [right] t) :
      Reads .term s [.compare op left right] t
  /-- The last term of a conjunction. -/
  | lastConjunct {s t : List Char} {e : Expr} (h : Reads .term s [e] t)
      (ht : afterAnd? (skipBlanks t) = none) : Reads .conjuncts s [e] t
  /-- A term of a conjunction and those after it. -/
  | conjunct {s r s' t : List Char} {e : Expr} {es : List Expr} (h : Reads .term s [e] r)
      (hr : afterAnd? (skipBlanks r) = some s') (hes : Reads .conjuncts s' es t) :
      Reads .conjuncts s (e :: es) t
  /-- The last conjunction of a disjunction. -/
  | lastDisjunct {s t : List Char} {es : List Expr} (h : Reads .conjuncts s es t)
      (ht : afterOr? (skipBlanks t) = none) : Reads .disjuncts s [joinOperands .all es] t
  /-- A conjunction of a disjunction and those after it. -/
  | disjunct {s r s' t : List Char} {es es' : List Expr} (h : Reads .conjuncts s es r)
      (hr : afterOr? (skipBlanks r) = some s') (hes : Reads .disjuncts s' es' t) :
      Reads .disjuncts s (joinOperands .all es :: es') t

/-! ## The readers follow the rules -/

/-- A letter or an underscore begins no other lexeme than a word. -/
theorem isWordStart_ne {c d : Char} (hc : isWordStart c = true) (hd : isWordStart d = false) :
    c ≠ d := by
  rintro rfl
  rw [hc] at hd
  cases hd

theorem isDigit_of_isWordStart {c : Char} (h : isWordStart c = true) : c.isDigit = false := by
  by_contra hdigit
  rw [Bool.not_eq_false, isDigit_iff] at hdigit
  have halpha : isAlphabetic c = c.isAlpha := if_pos (by omega)
  rw [isWordStart, halpha, Bool.or_eq_true, beq_iff_eq, isAlpha_iff] at h
  rcases h with h | rfl
  · omega
  · exact absurd hdigit (by decide)

/-- A letter or an underscore begins a word. -/
theorem result_readValue_word {s r : List Char} {c : Char} (hs : skipBlanks s = c :: r)
    (hc : isWordStart c = true) : (readValue s).result = wordResult (c :: r) := by
  have hne : ∀ {d : Char}, isWordStart d = false → c ≠ d := isWordStart_ne hc
  have hquote : ¬ (c = '\'' ∨ c = '"') := by
    rintro (h | h)
    · exact hne (by decide) h
    · exact hne (by decide) h
  have hdigit := isDigit_of_isWordStart hc
  have hdate : ¬ (c.isDigit = true ∧ hasShape dateShape (c :: r) = true) := by
    rw [hdigit]
    rintro ⟨h, -⟩
    cases h
  have hnumber : ¬ (c.isDigit = true ∨
      ((c = '-' ∨ c = '+') ∧ startsWith Char.isDigit r = true)) := by
    rw [hdigit]
    rintro (h | ⟨h | h, -⟩)
    · cases h
    · exact hne (by decide) h
    · exact hne (by decide) h
  rw [result_readValue hs, if_neg hquote, if_neg (hne (by decide)), if_neg (hne (by decide)),
    if_neg hdate, if_neg hnumber, if_pos hc]

/-- What the readers accept of the texts shorter than `n` has a derivation. -/
def SoundBelow (n : Nat) : Prop :=
  ∀ (k : Phrase) (s : List Char) (es : List Expr) (t : List Char), s.length < n →
    k.read s = .ok (es, t) → Reads k s es t

section Soundness

variable {s : List Char} (hshort : SoundBelow s.length) {es : List Expr} {t : List Char}

include hshort

theorem reads_word {r : List Char} {c : Char} {e : Expr} (hs : skipBlanks s = c :: r)
    (hc : isWordStart c = true) (h : wordResult (c :: r) = .ok (e, t)) :
    Reads .value s [e] t := by
  rw [wordResult] at h
  split at h
  · rename_i hword
    cases h
    refine .word hs hc fun hnot => ?_
    rw [hword] at hnot
    cases hnot
  · rename_i hword
    rw [Bool.not_eq_true] at hword
    split at h
    · rename_i inside hopen
      obtain ⟨⟨es, u⟩, hargs, heq⟩ := map_eq_ok_iff.mp h
      cases heq
      have hinside : inside.length < s.length := by
        have h1 := length_lt_of_skipBlanks_eq_cons hopen
        have h2 := length_dropWhile_le isWordChar (c :: r)
        have h3 := length_lt_of_skipBlanks_eq_cons hs
        rw [List.length_cons] at h2
        omega
      exact .call hs hc hword hopen (hshort (.arguments false) inside es u hinside hargs)
    · rename_i hopen
      cases h
      exact .word hs hc fun _ inside => hopen inside

theorem reads_value (h : Phrase.value.read s = .ok (es, t)) : Reads .value s es t := by
  obtain ⟨⟨e, u⟩, hread, heq⟩ := map_eq_ok_iff.mp h
  cases heq
  cases hs : skipBlanks s with
  | nil =>
    rw [result_readValue_nil hs] at hread
    cases hread
  | cons c r =>
    by_cases hstart : isWordStart c = true
    · rw [result_readValue_word hs hstart] at hread
      exact reads_word hshort hs hstart hread
    · rw [result_readValue hs, if_neg hstart] at hread
      split at hread
      · rename_i hquote
        obtain ⟨⟨cs, v⟩, hstring, heq⟩ := map_eq_ok_iff.mp hread
        cases heq
        exact .text hs hquote hstring
      · split at hread
        · rename_i hc
          subst hc
          obtain ⟨path, rfl, hpath, rfl⟩ := result_readBracketed_eq_ok_iff.mp hread
          exact .bracketed hs hpath
        · split at hread
          · rename_i hc
            subst hc
            obtain ⟨hname, rfl, rfl⟩ := result_readArgument_eq_ok_iff.mp hread
            exact .argument hs hname
          · split at hread
            · rename_i hdate
              have hu : takeDate (c :: r) = (e, u) := Except.ok.inj hread
              have hreads : Reads .value s _ _ := .date hs hdate.1 hdate.2
              rw [hu] at hreads
              exact hreads
            · rename_i hdate
              split at hread
              · rename_i hnumber
                cases hread
                exact .number hs hdate hnumber
              · cases hread

theorem reads_arguments {started : Bool} (h : (Phrase.arguments started).read s = .ok (es, t)) :
    Reads (.arguments started) s es t := by
  rw [Phrase.read] at h
  cases hs : skipBlanks s with
  | nil =>
    rw [result_readArguments_nil hs] at h
    cases h
  | cons c r =>
    have hlt := length_lt_of_skipBlanks_eq_cons hs
    rw [result_readArguments hs] at h
    split at h
    · rename_i hc
      cases h
      subst hc
      exact .close hs
    · rename_i hc
      split at h
      · rename_i hcomma
        obtain ⟨rfl, rfl⟩ := hcomma
        exact .comma hs (hshort (.arguments true) r es t hlt h)
      · rename_i hcomma
        obtain ⟨⟨e, u⟩, hvalue, hrest⟩ := bind_eq_ok_iff.mp h
        obtain ⟨⟨es, v⟩, hargs, heq⟩ := map_eq_ok_iff.mp hrest
        cases heq
        have he : Phrase.value.read s = .ok ([e], u) := by rw [Phrase.read, hvalue]; rfl
        have hu := Outcome.length_lt_of_result hvalue
        exact .more hs hc hcomma (reads_value hshort he)
          (hshort (.arguments true) u es v hu hargs)

theorem reads_term (h : Phrase.term.read s = .ok (es, t)) : Reads .term s es t := by
  obtain ⟨⟨e, w⟩, hread, heq⟩ := map_eq_ok_iff.mp h
  cases heq
  by_cases hs : ∃ r, skipBlanks s = '(' :: r
  · obtain ⟨r, hs⟩ := hs
    have hlt := length_lt_of_skipBlanks_eq_cons hs
    rw [result_readTerm_parenthesis hs] at hread
    obtain ⟨⟨es, u⟩, hinner, hrest⟩ := bind_eq_ok_iff.mp hread
    split at hrest
    · rename_i c v hclose
      split at hrest
      · rename_i hc
        cases hrest
        subst hc
        exact .parentheses hs (hshort .disjuncts r es u hlt hinner) hclose
      · cases hrest
    · cases hrest
  · rw [not_exists] at hs
    rw [result_readTerm_comparison hs] at hread
    obtain ⟨⟨l, u⟩, hleft, hrest⟩ := bind_eq_ok_iff.mp hread
    split at hrest
    · cases hrest
    · rename_i op v hop
      obtain ⟨⟨r, w⟩, hright, heq⟩ := map_eq_ok_iff.mp hrest
      cases heq
      have hu := Outcome.length_lt_of_result hleft
      have hskip := length_skipBlanks_le u
      have hv : v.length < (skipBlanks u).length := length_lt_of_readOperator?_eq_some hop
      have hl : Phrase.value.read s = .ok ([l], u) := by rw [Phrase.read, hleft]; rfl
      have hr : Phrase.value.read v = .ok ([r], w) := by rw [Phrase.read, hright]; rfl
      exact .comparison hs (reads_value hshort hl) hop (hshort .value v [r] w (by omega) hr)

theorem reads_conjuncts (h : Phrase.conjuncts.read s = .ok (es, t)) : Reads .conjuncts s es t := by
  rw [Phrase.read, result_readConjuncts] at h
  obtain ⟨⟨e, u⟩, hterm, hrest⟩ := bind_eq_ok_iff.mp h
  have he : Phrase.term.read s = .ok ([e], u) := by rw [Phrase.read, hterm]; rfl
  split at hrest
  · rename_i hnone
    cases hrest
    exact .lastConjunct (reads_term hshort he) hnone
  · rename_i r hsome
    obtain ⟨⟨es, v⟩, hmore, heq⟩ := map_eq_ok_iff.mp hrest
    cases heq
    have hu := Outcome.length_lt_of_result hterm
    have hskip := length_skipBlanks_le u
    have hr : r.length < (skipBlanks u).length := length_lt_of_afterAnd?_eq_some hsome
    exact .conjunct (reads_term hshort he) hsome (hshort .conjuncts r es v (by omega) hmore)

theorem reads_disjuncts (h : Phrase.disjuncts.read s = .ok (es, t)) : Reads .disjuncts s es t := by
  rw [Phrase.read, result_readDisjuncts] at h
  obtain ⟨⟨es, u⟩, hconjuncts, hrest⟩ := bind_eq_ok_iff.mp h
  split at hrest
  · rename_i hnone
    cases hrest
    exact .lastDisjunct (reads_conjuncts hshort hconjuncts) hnone
  · rename_i r hsome
    obtain ⟨⟨es', v⟩, hmore, heq⟩ := map_eq_ok_iff.mp hrest
    cases heq
    have hu := Outcome.length_lt_of_result hconjuncts
    have hskip := length_skipBlanks_le u
    have hr : r.length < (skipBlanks u).length := length_lt_of_afterOr?_eq_some hsome
    exact .disjunct (reads_conjuncts hshort hconjuncts) hsome
      (hshort .disjuncts r es' v (by omega) hmore)

end Soundness

/-- What the readers accept has a derivation. -/
theorem soundBelow (n : Nat) : SoundBelow n := by
  induction n with
  | zero =>
    intro k s es t hlt
    exact absurd hlt (Nat.not_lt_zero _)
  | succ n ih =>
    intro k s es t hlt h
    have hshort : SoundBelow s.length := fun k' s' es' t' hlt' =>
      ih k' s' es' t' (by omega)
    cases k with
    | value => exact reads_value hshort h
    | arguments started => exact reads_arguments hshort h
    | term => exact reads_term hshort h
    | conjuncts => exact reads_conjuncts hshort h
    | disjuncts => exact reads_disjuncts hshort h

/-- What has a derivation the readers accept. -/
theorem Reads.read_eq_ok {k : Phrase} {s : List Char} {es : List Expr} {t : List Char}
    (h : Reads k s es t) : k.read s = .ok (es, t) := by
  induction h with
  | text hs hc h =>
    rw [Phrase.read, result_readValue hs, if_pos hc, h]
    rfl
  | @bracketed s path t hs hpath =>
    have hread : (readBracketed ('[' :: (path ++ ']' :: t)) (path ++ ']' :: t)).result =
        .ok (.property (String.ofList (trimBlanks path)), t) :=
      result_readBracketed_eq_ok_iff.mpr ⟨path, rfl, hpath, rfl⟩
    rw [Phrase.read, result_readValue hs, if_neg (by decide), if_pos rfl, hread]
    rfl
  | argument hs hr =>
    have hread := result_readArgument_eq_ok_iff.mpr ⟨hr, rfl, rfl⟩
    rw [Phrase.read, result_readValue hs, if_neg (by decide), if_neg (by decide), if_pos rfl,
      hread]
    rfl
  | @date s r c hs hc hshape =>
    have hne : ∀ d : Char, d.isDigit = false → c ≠ d := by
      rintro d hd rfl
      rw [hc] at hd
      cases hd
    rw [Phrase.read, result_readValue hs,
      if_neg (by simp [hne '\'' rfl, hne '"' rfl]), if_neg (hne '[' rfl), if_neg (hne '$' rfl),
      if_pos ⟨hc, hshape⟩]
    rfl
  | @number s r c hs hdate hc =>
    have hne : ∀ d : Char, d.isDigit = false → d ≠ '-' → d ≠ '+' → c ≠ d := by
      rintro d hd hminus hplus rfl
      rcases hc with hc | ⟨hc | hc, -⟩
      · rw [hc] at hd
        cases hd
      · exact hminus hc
      · exact hplus hc
    rw [Phrase.read, result_readValue hs, if_neg (by simp [hne '\'', hne '"']),
      if_neg (hne '[' rfl (by decide) (by decide)), if_neg (hne '$' rfl (by decide) (by decide)),
      if_neg hdate, if_pos hc]
    rfl
  | @word s r c hs hc hopen =>
    rw [Phrase.read, result_readValue_word hs hc, wordResult]
    split
    · rfl
    · rename_i hword
      split
      · rename_i inside hin
        exact absurd hin (hopen (by simpa using hword) inside)
      · rfl
  | call hs hc hword hopen h ih =>
    rw [Phrase.read] at ih
    rw [Phrase.read, result_readValue_word hs hc, wordResult, if_neg (by simp [hword])]
    simp only [hopen, ih, Except.map]
  | close hs => rw [Phrase.read, result_readArguments hs, if_pos rfl]
  | comma hs h ih =>
    rw [Phrase.read, result_readArguments hs, if_neg (by decide), if_pos ⟨rfl, rfl⟩]
    exact ih
  | more hs hc hcomma he h ih ih' =>
    obtain ⟨⟨e, s'⟩, hread, heq⟩ := map_eq_ok_iff.mp ih
    cases heq
    rw [Phrase.read] at ih'
    rw [Phrase.read, result_readArguments hs, if_neg hc, if_neg hcomma, hread]
    simp only [Except.bind, ih', Except.map]
  | parentheses hs h ht ih =>
    rw [Phrase.read] at ih
    rw [Phrase.read, result_readTerm_parenthesis hs, ih]
    simp only [Except.bind, ht, Except.map, if_true]
  | comparison hs hleft hop hright ih ih' =>
    obtain ⟨⟨l, r⟩, hl, heq⟩ := map_eq_ok_iff.mp ih
    cases heq
    obtain ⟨⟨l, r⟩, hr, heq⟩ := map_eq_ok_iff.mp ih'
    cases heq
    rw [Phrase.read, result_readTerm_comparison hs, hl]
    simp only [Except.bind, hop, hr, Except.map]
  | lastConjunct h ht ih =>
    obtain ⟨⟨l, r⟩, hread, heq⟩ := map_eq_ok_iff.mp ih
    cases heq
    rw [Phrase.read, result_readConjuncts, hread]
    simp only [Except.bind, ht]
  | conjunct h hr hes ih ih' =>
    obtain ⟨⟨l, r⟩, hread, heq⟩ := map_eq_ok_iff.mp ih
    cases heq
    rw [Phrase.read] at ih'
    rw [Phrase.read, result_readConjuncts, hread]
    simp only [Except.bind, hr, ih', Except.map]
  | lastDisjunct h ht ih =>
    rw [Phrase.read] at ih
    rw [Phrase.read, result_readDisjuncts, ih]
    simp only [Except.bind, ht]
  | disjunct h hr hes ih ih' =>
    rw [Phrase.read] at ih
    rw [Phrase.read] at ih'
    rw [Phrase.read, result_readDisjuncts, ih]
    simp only [Except.bind, hr, ih', Except.map]

/-- The readers accept what the rules accept. -/
theorem read_eq_ok_iff {k : Phrase} {s : List Char} {es : List Expr} {t : List Char} :
    k.read s = .ok (es, t) ↔ Reads k s es t :=
  ⟨soundBelow (s.length + 1) k s es t (Nat.lt_succ_self _), Reads.read_eq_ok⟩

/-- A phrase begins with something else than blanks. -/
theorem Reads.skipBlanks_ne_nil {k : Phrase} {s : List Char} {es : List Expr} {t : List Char}
    (h : Reads k s es t) : skipBlanks s ≠ [] := by
  induction h with
  | text hs | bracketed hs | argument hs | date hs | number hs | word hs | call hs | close hs
  | comma hs | more hs | parentheses hs => rw [hs]; exact List.cons_ne_nil _ _
  | comparison _ _ _ _ ih => exact ih
  | lastConjunct _ _ ih => exact ih
  | conjunct _ _ _ ih => exact ih
  | lastDisjunct _ _ ih => exact ih
  | disjunct _ _ _ ih => exact ih

/-- Blanks before a phrase make no difference. -/
theorem Reads.of_skipBlanks_eq {k : Phrase} {s s' : List Char} {es : List Expr} {t : List Char}
    (h : Reads k s es t) (hs' : skipBlanks s' = skipBlanks s) : Reads k s' es t := by
  induction h generalizing s' with
  | text hs hc h => exact .text (hs'.trans hs) hc h
  | bracketed hs hpath => exact .bracketed (hs'.trans hs) hpath
  | argument hs hr => exact .argument (hs'.trans hs) hr
  | date hs hc hshape => exact .date (hs'.trans hs) hc hshape
  | number hs hdate hc => exact .number (hs'.trans hs) hdate hc
  | word hs hc hopen => exact .word (hs'.trans hs) hc hopen
  | call hs hc hword hopen h => exact .call (hs'.trans hs) hc hword hopen h
  | close hs => exact .close (hs'.trans hs)
  | comma hs h => exact .comma (hs'.trans hs) h
  | more hs hc hcomma he h ih => exact .more (hs'.trans hs) hc hcomma (ih hs') h
  | parentheses hs h ht => exact .parentheses (hs'.trans hs) h ht
  | comparison hs hleft hop hright ih => exact .comparison (hs' ▸ hs) (ih hs') hop hright
  | lastConjunct h ht ih => exact .lastConjunct (ih hs') ht
  | conjunct h hr hes ih => exact .conjunct (ih hs') hr hes
  | lastDisjunct h ht ih => exact .lastDisjunct (ih hs') ht
  | disjunct h hr hes ih => exact .disjunct (ih hs') hr hes

/-- A text is a filter text exactly if a disjunction stands at its front and only blanks follow. -/
theorem ofChars_eq_ok_iff {input : List Char} {e : Expr} :
    ofChars input = .ok e ↔
      ∃ es t, Reads .disjuncts input es t ∧ skipBlanks t = [] ∧ joinOperands .any es = e := by
  rw [ofChars]
  split
  · rename_i hblank
    constructor
    · intro h
      cases h
    · rintro ⟨es, t, h, -⟩
      exact absurd hblank h.skipBlanks_ne_nil
  · cases hread : readDisjuncts input with
    | error f =>
      constructor
      · intro h
        cases h
      · rintro ⟨es, t, h, -⟩
        have hok := h.read_eq_ok
        rw [Phrase.read, hread] at hok
        cases hok
    | ok p =>
      have hreads : Reads .disjuncts input p.value p.rest := by
        rw [← read_eq_ok_iff, Phrase.read, hread]
        rfl
      constructor
      · intro h
        simp only at h
        split at h
        · rename_i hrest
          exact ⟨p.value, p.rest, hreads, hrest, Except.ok.inj h⟩
        · cases h
      · rintro ⟨es, t, h, hblank, rfl⟩
        have hok := h.read_eq_ok
        rw [hreads.read_eq_ok, Except.ok.injEq, Prod.mk.injEq] at hok
        simp only [hok.1, hok.2, hblank]

theorem parse_eq_ok_iff {text : String} {e : Expr} :
    parse text = .ok e ↔ ∃ es t, Reads .disjuncts text.toList es t ∧ skipBlanks t = [] ∧
      joinOperands .any es = e :=
  ofChars_eq_ok_iff

/-- A text that is a single term denotes that term. -/
theorem parse_of_reads_term {text : String} {e : Expr} (h : Reads .term text.toList [e] []) :
    parse text = .ok e :=
  parse_eq_ok_iff.mpr ⟨[e], [], .lastDisjunct (.lastConjunct h rfl) rfl, rfl, rfl⟩

end ContentFilter.Expr
