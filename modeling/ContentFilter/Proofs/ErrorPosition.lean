import ContentFilter.Proofs.Remainder
import Mathlib

/-!
# Where errors point

A reader that fails keeps the text that is left at the place of the failure, and the column of the
error is how far that place is into the text. `PointsAt` says for each fault what stands there: the
character or the token that it names, the quote or the bracket that is never closed, the backslash
that begins no escape, the place without an operator, or nothing at all. Each reader fails at an end
of its own text at which its fault points; the main statement `parse_error_points` says it of whole
filter texts.
-/

namespace ContentFilter.Expr

open Text

/-! ## Places -/

/-- The character that follows the text is escaped: a backslash that is not escaped itself escapes
    the character after it. -/
def isEscapedAfter : List Char → Bool
  | [] => false
  | ['\\'] => true
  | '\\' :: _ :: s => isEscapedAfter s
  | _ :: s => isEscapedAfter s

theorem isEscapedAfter_cons {c : Char} (hc : c ≠ '\\') (s : List Char) :
    isEscapedAfter (c :: s) = isEscapedAfter s := by
  cases s with
  | nil => simp [isEscapedAfter, hc]
  | cons d s => simp [isEscapedAfter, hc]

theorem isEscapedAfter_append {w : List Char} (hw : ∀ c ∈ w, c ≠ '\\') (s : List Char) :
    isEscapedAfter (w ++ s) = isEscapedAfter s := by
  induction w with
  | nil => rfl
  | cons c w ih =>
    rw [List.cons_append, isEscapedAfter_cons (hw c (by simp)),
      ih fun d hd => hw d (List.mem_cons_of_mem c hd)]

/-- What stands at the place that a fault points at. -/
inductive PointsAt : Fault → List Char → Prop where
  | unexpectedChar {c : Char} {r : List Char} : PointsAt (.unexpectedChar c) (c :: r)
  /-- The token is the whole run of characters that are not blank. -/
  | unexpectedToken {token : String} {t : List Char} (hne : token ≠ "")
      (htoken : ∀ c ∈ token.toList, isBlank c = false) (ht : t = [] ∨ startsWith isBlank t = true) :
      PointsAt (.unexpectedToken token) (token.toList ++ t)
  | unexpectedEnd : PointsAt .unexpectedEnd []
  /-- Every quote of the same kind further on is escaped. -/
  | unclosedString {quote : Char} {r : List Char} (hquote : quote = '\'' ∨ quote = '"')
      (h : ∀ body t, r = body ++ quote :: t → isEscapedAfter body = true) :
      PointsAt .unclosedString (quote :: r)
  | unclosedProperty {r : List Char} (h : ']' ∉ r) : PointsAt .unclosedProperty ('[' :: r)
  | invalidEscape {r : List Char} : PointsAt .invalidEscape ('\\' :: r)
  /-- No operator stands there, however it is written. -/
  | expectedOperator {s : List Char} (hblank : startsWith isBlank s = false)
      (h : ∀ op cs ends x, Spells op cs ends → (ends = true → startsWith isWordChar x = false) →
        s ≠ cs ++ x) : PointsAt .expectedOperator s

/-- The failure points into the text. -/
structure Failure.PointsInto (f : Failure) (s : List Char) : Prop where
  suffix : f.left <:+ s
  points : PointsAt f.fault f.left

theorem Failure.PointsInto.of_suffix {f : Failure} {s t : List Char} (h : f.PointsInto t)
    (ht : t <:+ s) : f.PointsInto s :=
  ⟨h.suffix.trans ht, h.points⟩

/-- A failure inside the text after its blanks is one inside the text. -/
theorem Failure.PointsInto.of_skipBlanks {f : Failure} {s r : List Char} {c : Char}
    (h : f.PointsInto (c :: r)) (hs : skipBlanks s = c :: r) : f.PointsInto s :=
  h.of_suffix (suffix_of_skipBlanks_eq_cons hs)

/-! ## Strings -/

/-- A character between the quotes of a string that is neither a quote nor a backslash. -/
def IsInner (c : Char) : Prop :=
  c ≠ '\\' ∧ c ≠ '\'' ∧ c ≠ '"'

theorem IsInner.ne {c quote : Char} (h : IsInner c) (hquote : quote = '\'' ∨ quote = '"') :
    c ≠ quote := by
  rcases hquote with rfl | rfl
  · exact h.2.1
  · exact h.2.2

theorem isInner_of_isHexDigit {c : Char} {n : Nat} (h : IsHexDigit c n) : IsInner c := by
  have hdigit := hexDigit?_eq_some_iff.mpr h
  have hne : ∀ d, hexDigit? d = none → c ≠ d := by
    rintro d hd rfl
    rw [hd] at hdigit
    cases hdigit
  exact ⟨hne '\\' (by decide), hne '\'' (by decide), hne '"' (by decide)⟩

theorem IsHexNumber.isInner {ds : List Char} {n : Nat} (h : IsHexNumber ds n) :
    ∀ c ∈ ds, IsInner c := by
  obtain ⟨values, hds, -⟩ := h
  induction hds with
  | nil =>
    intro c hc
    cases hc
  | cons hd hds ih =>
    intro c hc
    rcases List.mem_cons.mp hc with rfl | hc
    · exact isInner_of_isHexDigit hd
    · exact ih c hc

/-- Of an escape only the character after its backslash may be a quote or a backslash. -/
theorem IsEscape.exists_eq_cons {signed : Bool} {e : List Char} {v : Char}
    (h : IsEscape signed e v) : ∃ x w, e = x :: w ∧ ∀ c ∈ w, IsInner c := by
  have hnil : ∀ c ∈ ([] : List Char), IsInner c := by
    intro c hc
    cases hc
  cases h with
  | newline => exact ⟨'n', [], rfl, hnil⟩
  | tab => exact ⟨'t', [], rfl, hnil⟩
  | carriageReturn => exact ⟨'r', [], rfl, hnil⟩
  | same hc => exact ⟨_, [], rfl, hnil⟩
  | code hlength h => exact ⟨'u', _, rfl, h.isInner⟩
  | signedCode hsigned hlength h =>
    refine ⟨'u', _, rfl, ?_⟩
    intro c hc
    rcases List.mem_cons.mp hc with rfl | hc
    · exact ⟨by decide, by decide, by decide⟩
    · exact h.isInner c hc

/-- Where a quote stands in a run of items, it is escaped. -/
theorem Denotes.quote_escaped {signed : Bool} {quote : Char} {s cs : List Char}
    (h : Denotes signed quote s cs) (hquote : quote = '\'' ∨ quote = '"') :
    ∀ body t, s = body ++ quote :: t → isEscapedAfter body = true := by
  have hback := backslash_ne hquote
  induction h with
  | nil =>
    intro body t heq
    simp at heq
  | @plain c s cs hne hc h ih =>
    intro body t heq
    cases body with
    | nil => exact absurd (List.cons.inj heq).1 hne
    | cons d body =>
      obtain ⟨rfl, hs⟩ := List.cons.inj heq
      rw [isEscapedAfter_cons hc]
      exact ih body t hs
  | @escape e s cs v he h ih =>
    intro body t heq
    obtain ⟨x, w, rfl, hw⟩ := he.exists_eq_cons
    rcases body with - | ⟨d, - | ⟨y, body⟩⟩
    · exact absurd (List.cons.inj heq).1 hback
    · obtain ⟨rfl, -⟩ := List.cons.inj heq
      rfl
    · obtain ⟨rfl, htail⟩ := List.cons.inj heq
      obtain ⟨rfl, hrest⟩ := List.cons.inj htail
      show isEscapedAfter body = true
      -- the quote stands behind the escape, since the escape holds none any more
      rcases List.append_eq_append_iff.mp hrest with ⟨u, rfl, hs⟩ | ⟨u, rfl, hs⟩
      · rw [isEscapedAfter_append fun c hc => (hw c hc).1]
        exact ih u t hs
      · cases u with
        | nil => exact absurd (ih [] t hs.symm) (by decide)
        | cons c u =>
          obtain ⟨rfl, -⟩ := List.cons.inj hs
          exact absurd rfl ((hw _ (by simp)).ne hquote)

/-! ## Operators -/

/-- Every spelling with symbols is in the table. -/
theorem mem_symbolOperators : ∀ op ∈ Operator.all, ∀ s ∈ op.symbols,
    (s.toList, op) ∈ symbolOperators := by
  decide

/-- Every spelling with words is in the table. -/
theorem mem_phraseOperators : ∀ op ∈ Operator.all, ∀ words ∈ op.phrases,
    (words.map String.toList, op) ∈ phraseOperators := by
  decide

/-- Where an operator is written, one is read. -/
theorem readOperator?_ne_none {op : Operator} {cs x : List Char} {ends : Bool}
    (h : Spells op cs ends) (hstop : ends = true → startsWith isWordChar x = false) :
    readOperator? (cs ++ x) ≠ none := by
  intro hnone
  rw [readOperator?_eq, Option.or_eq_none_iff, List.findSome?_eq_none_iff,
    List.findSome?_eq_none_iff] at hnone
  obtain ⟨hsymbols, hphrases⟩ := hnone
  cases h with
  | symbol hs =>
    have hread := hsymbols _ (mem_symbolOperators op op.mem_all _ hs)
    rw [afterPrefix?_append] at hread
    cases hread
  | phrase hmem hcs =>
    have hread := hphrases _ (mem_phraseOperators op op.mem_all _ hmem)
    rw [afterPhrase?_of_isPhrase hcs (isKeyword_of_mem_phrases hmem) (hstop rfl)] at hread
    cases hread

theorem startsWith_isBlank_skipBlanks (s : List Char) : startsWith isBlank (skipBlanks s) = false :=
  startsWith_dropWhile isBlank s

theorem pointsInto_of_readOperator? {s : List Char} (h : readOperator? (skipBlanks s) = none) :
    Failure.PointsInto ⟨.expectedOperator, skipBlanks s⟩ s := by
  refine ⟨skipBlanks_suffix s, .expectedOperator (startsWith_isBlank_skipBlanks s) ?_⟩
  intro op cs ends x hspells hstop heq
  exact readOperator?_ne_none hspells hstop (heq ▸ h)

/-! ## Operands -/

section Operands

variable {f : Failure} {s : List Char}

theorem map_eq_error_iff {α β : Type} {o : Except Failure α} {g : α → β} :
    o.map g = .error f ↔ o = .error f := by
  cases o <;> simp [Except.map]

theorem bind_eq_error_iff {α β : Type} {o : Except Failure α} {g : α → Except Failure β} :
    o.bind g = .error f ↔ o = .error f ∨ ∃ a, o = .ok a ∧ g a = .error f := by
  cases o <;> simp [Except.bind]

/-- Nothing is left where the text ends too early. -/
theorem pointsInto_unexpectedEnd (s : List Char) : Failure.PointsInto ⟨.unexpectedEnd, []⟩ s :=
  ⟨List.nil_suffix, .unexpectedEnd⟩

theorem pointsInto_unexpectedChar {c : Char} {r : List Char} (hs : skipBlanks s = c :: r) :
    Failure.PointsInto ⟨.unexpectedChar c, c :: r⟩ s :=
  ⟨suffix_of_skipBlanks_eq_cons hs, .unexpectedChar⟩

theorem pointsInto_of_readString {quote : Char} (hquote : quote = '\'' ∨ quote = '"')
    (h : (readString quote (quote :: s) s).result = .error f) : f.PointsInto (quote :: s) := by
  have hback := backslash_ne hquote
  rcases (result_readString_eq_error_iff hback).mp h with
    ⟨body, cs, r, rfl, -, -, rfl⟩ | ⟨⟨cs, hbody⟩, rfl⟩
  · exact ⟨(List.suffix_append body _).trans (List.suffix_cons quote _), .invalidEscape⟩
  · exact ⟨List.suffix_refl _, .unclosedString hquote (hbody.quote_escaped hquote)⟩

theorem pointsInto_of_readArgument (h : (readArgument s).result = .error f) : f.PointsInto s := by
  rw [readArgument] at h
  split at h
  · split at h
    · cases h
      exact ⟨List.suffix_refl _, .unexpectedChar⟩
    · cases h
      exact pointsInto_unexpectedEnd []
  · cases h

theorem pointsInto_of_readBracketed (h : (readBracketed ('[' :: s) s).result = .error f) :
    f.PointsInto ('[' :: s) := by
  rw [readBracketed] at h
  split at h
  · cases h
  · rename_i hdrop
    cases h
    refine ⟨List.suffix_refl _, .unclosedProperty fun hmem => ?_⟩
    have hall := List.dropWhile_eq_nil_iff.mp hdrop
    simpa using hall ']' hmem

end Operands

/-! ## Phrases -/

/-- What follows an operator or a connective is an end of the text before it, and a shorter one. -/
theorem shorter_suffix {s t r : List Char} (ht : t <:+ s) (hr : r <:+ skipBlanks t)
    (hlt : r.length < (skipBlanks t).length) : r <:+ s ∧ r.length < s.length := by
  have hskip : skipBlanks t <:+ s := (skipBlanks_suffix t).trans ht
  exact ⟨hr.trans hskip, Nat.lt_of_lt_of_le hlt hskip.length_le⟩

/-- Whatever the readers reject of the texts shorter than `n`, the failure points into it. -/
def PointsBelow (n : Nat) : Prop :=
  ∀ (k : Phrase) (s : List Char) (f : Failure), s.length < n → k.read s = .error f → f.PointsInto s

section Phrases

variable {s : List Char} (hshort : PointsBelow s.length) {f : Failure}

include hshort

theorem pointsInto_of_wordResult {r : List Char} {c : Char} (hs : skipBlanks s = c :: r)
    (h : wordResult (c :: r) = .error f) : f.PointsInto s := by
  rw [wordResult] at h
  split at h
  · cases h
  · split at h
    · rename_i inside hopen
      rw [map_eq_error_iff] at h
      have hrest : (c :: r).dropWhile isWordChar <:+ s :=
        (List.dropWhile_suffix _).trans (suffix_of_skipBlanks_eq_cons hs)
      have hinside : inside <:+ s :=
        (List.suffix_cons _ _).trans ((suffix_of_skipBlanks_eq_cons hopen).trans hrest)
      have hlt : inside.length < s.length := by
        have h1 := length_lt_of_skipBlanks_eq_cons hopen
        have h2 := hrest.length_le
        omega
      exact (hshort (.arguments false) inside f hlt h).of_suffix hinside
    · cases h

theorem pointsInto_of_readValue (h : (readValue s).result = .error f) : f.PointsInto s := by
  cases hs : skipBlanks s with
  | nil =>
    rw [result_readValue_nil hs] at h
    cases h
    exact pointsInto_unexpectedEnd s
  | cons c r =>
    rw [result_readValue hs] at h
    split at h
    · rename_i hquote
      rw [map_eq_error_iff] at h
      exact (pointsInto_of_readString hquote h).of_skipBlanks hs
    · split at h
      · rename_i hc
        subst hc
        exact (pointsInto_of_readBracketed h).of_skipBlanks hs
      · split at h
        · exact ((pointsInto_of_readArgument h).of_suffix (List.suffix_cons c r)).of_skipBlanks hs
        · split at h
          · cases h
          · split at h
            · cases h
            · split at h
              · exact pointsInto_of_wordResult hshort hs h
              · cases h
                exact pointsInto_unexpectedChar hs

theorem pointsInto_of_readArguments {started : Bool}
    (h : (readArguments started s).result = .error f) : f.PointsInto s := by
  cases hs : skipBlanks s with
  | nil =>
    rw [result_readArguments_nil hs] at h
    cases h
    exact pointsInto_unexpectedEnd s
  | cons c r =>
    have hlt := length_lt_of_skipBlanks_eq_cons hs
    rw [result_readArguments hs] at h
    split at h
    · cases h
    · split at h
      · have hrest := hshort (.arguments true) r f hlt h
        exact (hrest.of_suffix (List.suffix_cons c r)).of_skipBlanks hs
      · rcases bind_eq_error_iff.mp h with hvalue | ⟨⟨e, u⟩, hvalue, hrest⟩
        · exact pointsInto_of_readValue hshort hvalue
        · rw [map_eq_error_iff] at hrest
          have hu := Outcome.length_lt_of_result hvalue
          exact (hshort (.arguments true) u f hu hrest).of_suffix (suffix_of_readValue hvalue)

theorem pointsInto_of_readTerm (h : (readTerm s).result = .error f) : f.PointsInto s := by
  by_cases hs : ∃ r, skipBlanks s = '(' :: r
  · obtain ⟨r, hs⟩ := hs
    have hlt := length_lt_of_skipBlanks_eq_cons hs
    have hr : r <:+ s := (List.suffix_cons _ _).trans (suffix_of_skipBlanks_eq_cons hs)
    rw [result_readTerm_parenthesis hs] at h
    rcases bind_eq_error_iff.mp h with hinner | ⟨⟨es, u⟩, hinner, hrest⟩
    · exact (hshort .disjuncts r f hlt hinner).of_suffix hr
    · have hu : u <:+ s := (@suffix_of_read .disjuncts _ _ _ hinner).trans hr
      split at hrest
      · rename_i c t hclose
        split at hrest
        · cases hrest
        · cases hrest
          exact (pointsInto_unexpectedChar hclose).of_suffix hu
      · cases hrest
        exact pointsInto_unexpectedEnd s
  · rw [not_exists] at hs
    rw [result_readTerm_comparison hs] at h
    rcases bind_eq_error_iff.mp h with hleft | ⟨⟨l, u⟩, hleft, hrest⟩
    · exact pointsInto_of_readValue hshort hleft
    · have hu := suffix_of_readValue hleft
      split at hrest
      · rename_i hop
        cases hrest
        exact (pointsInto_of_readOperator? hop).of_suffix hu
      · rename_i op v hop
        rw [map_eq_error_iff] at hrest
        obtain ⟨hv, hlt⟩ := shorter_suffix hu (suffix_of_readOperator? hop)
          (length_lt_of_readOperator?_eq_some hop)
        exact (hshort .value v f hlt (map_eq_error_iff.mpr hrest)).of_suffix hv

theorem pointsInto_of_readConjuncts (h : (readConjuncts s).result = .error f) :
    f.PointsInto s := by
  rw [result_readConjuncts] at h
  rcases bind_eq_error_iff.mp h with hterm | ⟨⟨e, u⟩, hterm, hrest⟩
  · exact pointsInto_of_readTerm hshort hterm
  · have hu := suffix_of_readTerm hterm
    split at hrest
    · cases hrest
    · rename_i r hsome
      rw [map_eq_error_iff] at hrest
      obtain ⟨hr, hlt⟩ := shorter_suffix hu (suffix_of_afterAnd? hsome)
        (length_lt_of_afterAnd?_eq_some hsome)
      exact (hshort .conjuncts r f hlt hrest).of_suffix hr

theorem pointsInto_of_readDisjuncts (h : (readDisjuncts s).result = .error f) :
    f.PointsInto s := by
  rw [result_readDisjuncts] at h
  rcases bind_eq_error_iff.mp h with hfirst | ⟨⟨es, u⟩, hfirst, hrest⟩
  · exact pointsInto_of_readConjuncts hshort hfirst
  · have hu : u <:+ s := @suffix_of_read .conjuncts _ _ _ hfirst
    split at hrest
    · cases hrest
    · rename_i r hsome
      rw [map_eq_error_iff] at hrest
      obtain ⟨hr, hlt⟩ := shorter_suffix hu (suffix_of_afterOr? hsome)
        (length_lt_of_afterOr?_eq_some hsome)
      exact (hshort .disjuncts r f hlt hrest).of_suffix hr

end Phrases

/-- Whatever the readers reject, the failure points into the text. -/
theorem pointsBelow (n : Nat) : PointsBelow n := by
  induction n with
  | zero =>
    intro k s f hlt
    exact absurd hlt (Nat.not_lt_zero _)
  | succ n ih =>
    intro k s f hlt h
    have hshort : PointsBelow s.length := fun k' s' f' hlt' => ih k' s' f' (by omega)
    cases k with
    | value => exact pointsInto_of_readValue hshort (map_eq_error_iff.mp h)
    | arguments started => exact pointsInto_of_readArguments hshort h
    | term => exact pointsInto_of_readTerm hshort (map_eq_error_iff.mp h)
    | conjuncts => exact pointsInto_of_readConjuncts hshort h
    | disjuncts => exact pointsInto_of_readDisjuncts hshort h

theorem pointsInto_of_read {k : Phrase} {s : List Char} {f : Failure} (h : k.read s = .error f) :
    f.PointsInto s :=
  pointsBelow (s.length + 1) k s f (Nat.lt_succ_self _) h

/-! ## Filter texts -/

/-- The column of a failure is one more than the number of characters before its place. -/
theorem Failure.PointsInto.exists_append {f : Failure} {input : List Char}
    (h : f.PointsInto input) : ∃ before, input = before ++ f.left ∧
      f.toParseError input = .at f.fault (before.length + 1) := by
  obtain ⟨before, rfl⟩ := h.suffix
  refine ⟨before, rfl, ?_⟩
  rw [toParseError, List.length_append, Nat.add_sub_cancel]

/-- What follows the whole expression is a token: all of its characters up to a blank. -/
theorem pointsInto_unexpectedToken {s : List Char} (hs : skipBlanks s ≠ []) :
    Failure.PointsInto
      ⟨.unexpectedToken (String.ofList ((skipBlanks s).takeWhile (!isBlank ·))), skipBlanks s⟩
      s := by
  refine ⟨skipBlanks_suffix s, ?_⟩
  have hblank := startsWith_isBlank_skipBlanks s
  generalize skipBlanks s = left at hs hblank
  show PointsAt (.unexpectedToken (String.ofList (left.takeWhile (!isBlank ·)))) left
  have hne : String.ofList (left.takeWhile (!isBlank ·)) ≠ "" := by
    cases left with
    | nil => exact absurd rfl hs
    | cons c r =>
      have hc : isBlank c = false := hblank
      rw [List.takeWhile_cons_of_pos (by rw [hc, Bool.not_false])]
      exact fun heq => List.cons_ne_nil _ _ (String.ofList_eq_empty_iff.mp heq)
  have htoken : ∀ c ∈ (String.ofList (left.takeWhile (!isBlank ·))).toList, isBlank c = false := by
    intro c hc
    rw [String.toList_ofList] at hc
    simpa using List.mem_takeWhile_imp hc
  have ht : left.dropWhile (!isBlank ·) = [] ∨
      startsWith isBlank (left.dropWhile (!isBlank ·)) = true := by
    have hstop := startsWith_dropWhile (!isBlank ·) left
    cases hdrop : left.dropWhile (!isBlank ·) with
    | nil => exact .inl rfl
    | cons d t =>
      rw [hdrop, startsWith_cons, Bool.not_eq_false'] at hstop
      exact .inr hstop
  have hpoints := PointsAt.unexpectedToken hne htoken ht
  rwa [String.toList_ofList, List.takeWhile_append_dropWhile] at hpoints

theorem skipBlanks_eq_nil_iff {s : List Char} :
    skipBlanks s = [] ↔ ∀ c ∈ s, isBlank c = true :=
  List.dropWhile_eq_nil_iff

/-- A rejected text is blank, or a failure points into it. -/
theorem ofChars_eq_error {input : List Char} {e : ParseError} (h : ofChars input = .error e) :
    (e = .empty ∧ skipBlanks input = []) ∨
      skipBlanks input ≠ [] ∧ ∃ f : Failure, f.PointsInto input ∧ e = f.toParseError input := by
  rw [ofChars] at h
  split at h
  · rename_i hblank
    cases h
    exact .inl ⟨rfl, hblank⟩
  · rename_i hblank
    refine .inr ⟨hblank, ?_⟩
    cases hread : readDisjuncts input with
    | error f =>
      rw [hread] at h
      cases h
      have hphrase : Phrase.disjuncts.read input = .error f := by
        rw [Phrase.read, hread]
        rfl
      exact ⟨f, pointsInto_of_read hphrase, rfl⟩
    | ok p =>
      simp only [hread] at h
      have hphrase : Phrase.disjuncts.read input = .ok (p.value, p.rest) := by
        rw [Phrase.read, hread]
        rfl
      split at h
      · cases h
      · rename_i hrest
        cases h
        exact ⟨_, (pointsInto_unexpectedToken hrest).of_suffix (suffix_of_read hphrase), rfl⟩

/-- Errors point at what is wrong. A text is rejected as empty exactly if it is blank; the column of
    any other error is one of its characters or the place behind the last one, and what the error is
    about stands there. -/
theorem parse_error_points {text : String} {e : ParseError} (h : parse text = .error e) :
    (e = .empty ↔ ∀ c ∈ text.toList, isBlank c = true) ∧
    ∀ fault column, e = .at fault column → 1 ≤ column ∧ column ≤ text.length + 1 ∧
      ∃ before left, text.toList = before ++ left ∧ column = before.length + 1 ∧
        PointsAt fault left := by
  rw [← skipBlanks_eq_nil_iff]
  rcases ofChars_eq_error h with ⟨rfl, hblank⟩ | ⟨hblank, f, hf, rfl⟩
  · refine ⟨iff_of_true rfl hblank, ?_⟩
    intro fault column heq
    cases heq
  · obtain ⟨before, htext, herror⟩ := hf.exists_append
    rw [herror]
    refine ⟨iff_of_false nofun hblank, ?_⟩
    intro fault column heq
    cases heq
    have hlength : before.length ≤ text.length := by
      rw [← String.length_toList, htext, List.length_append]
      omega
    exact ⟨by omega, by omega, before, f.left, htext, rfl, hf.points⟩

/-- A string that is never closed is an error at its opening quote. -/
theorem parse_error_points_unclosed :
    parse "a = 'b" = .error (.at .unclosedString 5) ∧
      PointsAt .unclosedString ("a = 'b".toList.drop 4) := by
  have h : parse "a = 'b" = .error (.at .unclosedString 5) := by cbv
  obtain ⟨-, -, before, left, htext, hcolumn, hpoints⟩ := (parse_error_points h).2 _ _ rfl
  have hbefore : before.length = 4 := by omega
  rw [htext, ← hbefore, List.drop_left]
  exact ⟨h, hpoints⟩

end ContentFilter.Expr
