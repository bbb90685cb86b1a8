import ContentFilter.Proofs.Grammar
import Mathlib.Data.List.Forall2

/-!
# Filter texts in larger filter texts

A filter text in parentheses is read as it is read alone, whatever stands around it. The reason is
that every reader takes the same off a text when a closing parenthesis follows: no lexeme goes on
with a closing parenthesis, none of the readers looks past it, and it opens neither a call nor an
operator. Filter texts in parentheses may then be joined by connectives.
-/

namespace ContentFilter.Expr

open Text

/-! ## A closing parenthesis after an operator -/

theorem afterPrefix?_append_of_stop {f x : List Char} (hx : ∀ c ∈ f, ∀ r, x ≠ c :: r)
    (s : List Char) : afterPrefix? f (s ++ x) = (afterPrefix? f s).map (· ++ x) := by
  induction f generalizing s with
  | nil => rfl
  | cons d f ih =>
    have hf : ∀ c ∈ f, ∀ r, x ≠ c :: r := fun c hc => hx c (by simp [hc])
    cases s with
    | nil =>
      cases x with
      | nil => rfl
      | cons c x =>
        have hc : c ≠ d := fun h => hx d (by simp) x (by rw [h])
        rw [List.nil_append, afterPrefix?, if_neg hc]
        rfl
    | cons c s =>
      rw [List.cons_append, afterPrefix?, afterPrefix?, ih hf]
      split <;> rfl

theorem findSome?_eq_map {α β : Type} {l : List α} {f f' : α → Option β} {g : β → β}
    (h : ∀ a ∈ l, f' a = (f a).map g) : l.findSome? f' = (l.findSome? f).map g := by
  induction l with
  | nil => rfl
  | cons a l ih =>
    have hl := ih fun b hb => h b (by simp [hb])
    rw [List.findSome?_cons, List.findSome?_cons, h a (by simp), hl]
    cases f a <;> rfl

theorem afterKeyword?_append_of_stop {x : List Char} (hx : startsWith isWordChar x = false)
    {word : List Char} (hword : ∀ d ∈ word, d.isLower = true) (s : List Char) :
    afterKeyword? word (s ++ x) = (afterKeyword? word s).map (· ++ x) := by
  rw [afterKeyword?_eq hword, afterKeyword?_eq hword, takeWhile_append_of_stop hx,
    dropWhile_append_of_stop hx]
  split <;> rfl

theorem afterPhrase?_append_of_stop {x : List Char} (hx : startsWith isWordChar x = false)
    (hblank : startsWith isBlank x = false) {words : List (List Char)}
    (hwords : ∀ word ∈ words, ∀ d ∈ word, d.isLower = true) (s : List Char) :
    afterPhrase? words (s ++ x) = (afterPhrase? words s).map (· ++ x) := by
  induction words generalizing s with
  | nil => rfl
  | cons word words ih =>
    have hword := hwords word (by simp)
    cases words with
    | nil => exact afterKeyword?_append_of_stop hx hword s
    | cons word' words =>
      rw [afterPhrase?, afterPhrase?, afterKeyword?_append_of_stop hx hword]
      · cases afterKeyword? word s with
        | none => rfl
        | some r =>
          simp only [Option.map_some, Option.bind_some, startsWith_append_of_stop hblank]
          split
          · rw [skipBlanks_append_of_stop hblank, ih fun w hw => hwords w (by simp [hw])]
          · rfl
      · simp
      · simp

section Closing

variable (w : List Char)

theorem skipBlanks_append_closing (s : List Char) :
    skipBlanks (s ++ ')' :: w) = skipBlanks s ++ ')' :: w :=
  skipBlanks_append_of_stop rfl s

theorem afterPrefix?_append_closing {f : List Char} (hf : ')' ∉ f) (s : List Char) :
    afterPrefix? f (s ++ ')' :: w) = (afterPrefix? f s).map (· ++ ')' :: w) := by
  refine afterPrefix?_append_of_stop ?_ s
  rintro c hc r heq
  rw [(List.cons.inj heq).1] at hf
  exact hf hc

theorem afterPhrase?_append_closing {words : List (List Char)}
    (hwords : ∀ word ∈ words, ∀ d ∈ word, d.isLower = true) (s : List Char) :
    afterPhrase? words (s ++ ')' :: w) = (afterPhrase? words s).map (· ++ ')' :: w) :=
  afterPhrase?_append_of_stop rfl rfl hwords s

theorem afterOr?_append_closing (s : List Char) :
    afterOr? (s ++ ')' :: w) = (afterOr? s).map (· ++ ')' :: w) := by
  rw [afterOr?, afterOr?, afterPrefix?_append_closing w (by decide),
    afterPhrase?_append_closing w (by decide)]
  cases afterPrefix? ['|', '|'] s <;> rfl

theorem afterAnd?_append_closing (s : List Char) :
    afterAnd? (s ++ ')' :: w) = (afterAnd? s).map (· ++ ')' :: w) := by
  rw [afterAnd?, afterAnd?, afterPrefix?_append_closing w (by decide),
    afterPhrase?_append_closing w (by decide)]
  cases afterPrefix? ['&', '&'] s <;> rfl

theorem readOperator?_append_closing (s : List Char) :
    readOperator? (s ++ ')' :: w) = (readOperator? s).map fun x => (x.1, x.2 ++ ')' :: w) := by
  have hsymbol : ∀ x ∈ symbolOperators, ')' ∉ x.1 := by decide
  have hphrase : ∀ x ∈ phraseOperators, ∀ word ∈ x.1, ∀ d ∈ word, d.isLower = true := by decide
  rw [readOperator?_eq, readOperator?_eq, Option.map_or]
  congr 1
  · refine findSome?_eq_map fun x hx => ?_
    rw [afterPrefix?_append_closing w (hsymbol x hx), Option.map_map, Option.map_map]
    rfl
  · refine findSome?_eq_map fun x hx => ?_
    rw [afterPhrase?_append_closing w (hphrase x hx), Option.map_map, Option.map_map]
    rfl

end Closing

/-! ## A closing parenthesis after a phrase -/

theorem skipBlanks_append_closing_cons {s r : List Char} {c : Char} (hs : skipBlanks s = c :: r)
    (w : List Char) : skipBlanks (s ++ ')' :: w) = c :: (r ++ ')' :: w) := by
  rw [skipBlanks_append_closing, hs, List.cons_append]

theorem takeWord_append_closing (s w : List Char) :
    (s ++ ')' :: w).takeWhile isWordChar = s.takeWhile isWordChar :=
  takeWhile_append_of_stop rfl s

theorem dropWord_append_closing (s w : List Char) :
    (s ++ ')' :: w).dropWhile isWordChar = s.dropWhile isWordChar ++ ')' :: w :=
  dropWhile_append_of_stop rfl s

theorem skipBlanks_append_closing_ne {s : List Char} (hs : ∀ r, skipBlanks s ≠ '(' :: r)
    (w r : List Char) : skipBlanks (s ++ ')' :: w) ≠ '(' :: r := by
  rw [skipBlanks_append_closing]
  intro h
  cases hskip : skipBlanks s with
  | nil =>
    rw [hskip] at h
    cases h
  | cons c u =>
    rw [hskip, List.cons_append] at h
    exact hs u (by rw [hskip, (List.cons.inj h).1])

/-- A phrase is read in the same way when a closing parenthesis follows. -/
theorem Reads.append_closing {k : Phrase} {s : List Char} {es : List Expr} {t : List Char}
    (h : Reads k s es t) (w : List Char) : Reads k (s ++ ')' :: w) es (t ++ ')' :: w) := by
  have hstop : startsWith isLiteralChar (')' :: w) = false := rfl
  induction h with
  | text hs hc h =>
    exact .text (skipBlanks_append_closing_cons hs w) hc (result_readString_append _ h)
  | @bracketed s path t hs hpath =>
    refine .bracketed ?_ hpath
    rw [skipBlanks_append_closing_cons hs, List.append_assoc, List.cons_append]
  | @argument s r hs hr =>
    have hname := takeWord_append_closing r w
    rw [← hname] at hr
    have hreads := Reads.argument (skipBlanks_append_closing_cons hs w) hr
    rw [hname, dropWord_append_closing] at hreads
    exact hreads
  | @date s r c hs hc hshape =>
    have hsame : hasShape dateShape (c :: (r ++ ')' :: w)) = hasShape dateShape (c :: r) :=
      hasShape_append_of_stop hstop (by decide) (c :: r)
    have htake := takeDate_append_of_stop hstop hshape
    rw [← hsame] at hshape
    have hreads := Reads.date (skipBlanks_append_closing_cons hs w) hc hshape
    rw [← List.cons_append, htake] at hreads
    exact hreads
  | @number s r c hs hdate hc =>
    have hsame : hasShape dateShape (c :: (r ++ ')' :: w)) = hasShape dateShape (c :: r) :=
      hasShape_append_of_stop hstop (by decide) (c :: r)
    have hdigit : startsWith Char.isDigit (r ++ ')' :: w) = startsWith Char.isDigit r :=
      startsWith_append_of_stop rfl r
    rw [← hsame] at hdate
    rw [← hdigit] at hc
    have hreads := Reads.number (skipBlanks_append_closing_cons hs w) hdate hc
    rw [takeNumberTail_append_of_stop hstop] at hreads
    exact hreads
  | @word s r c hs hc hopen =>
    have hword := takeWord_append_closing (c :: r) w
    have hrest := dropWord_append_closing (c :: r) w
    rw [List.cons_append] at hword hrest
    -- the parenthesis that follows closes, so the word is no more a call than it was before
    have hreads : Reads .value _ _ _ := .word (skipBlanks_append_closing_cons hs w) hc (by
      rw [hword, hrest]
      exact fun hnot inside => skipBlanks_append_closing_ne (hopen hnot) w inside)
    rw [hword, hrest] at hreads
    exact hreads
  | @call s r inside t c es hs hc hword hopen h ih =>
    have hsame := takeWord_append_closing (c :: r) w
    have hrest := dropWord_append_closing (c :: r) w
    rw [List.cons_append] at hsame hrest
    have hreads : Reads .value _ _ _ := .call (skipBlanks_append_closing_cons hs w) hc
      (by rw [hsame, hword]) (by rw [hrest, skipBlanks_append_closing_cons hopen]) ih
    rw [hsame] at hreads
    exact hreads
  | close hs => exact .close (skipBlanks_append_closing_cons hs w)
  | comma hs h ih => exact .comma (skipBlanks_append_closing_cons hs w) ih
  | more hs hc hcomma he h ih ih' =>
    exact .more (skipBlanks_append_closing_cons hs w) hc hcomma ih ih'
  | parentheses hs h ht ih =>
    exact .parentheses (skipBlanks_append_closing_cons hs w) ih
      (skipBlanks_append_closing_cons ht w)
  | comparison hs hleft hop hright ih ih' =>
    refine .comparison (skipBlanks_append_closing_ne hs w) ih ?_ ih'
    rw [skipBlanks_append_closing, readOperator?_append_closing, hop]
    rfl
  | lastConjunct h ht ih =>
    refine .lastConjunct ih ?_
    rw [skipBlanks_append_closing, afterAnd?_append_closing, ht]
    rfl
  | conjunct h hr hes ih ih' =>
    refine .conjunct ih ?_ ih'
    rw [skipBlanks_append_closing, afterAnd?_append_closing, hr]
    rfl
  | lastDisjunct h ht ih =>
    refine .lastDisjunct ih ?_
    rw [skipBlanks_append_closing, afterOr?_append_closing, ht]
    rfl
  | disjunct h hr hes ih ih' =>
    refine .disjunct ih ?_ ih'
    rw [skipBlanks_append_closing, afterOr?_append_closing, hr]
    rfl

/-! ## Texts in parentheses -/

/-- A filter text in parentheses is a term, whatever follows. -/
theorem reads_parentheses_of_parse {text : String} {e : Expr} (h : parse text = .ok e)
    (w : List Char) : Reads .term (("(" ++ text ++ ")").toList ++ w) [e] w := by
  obtain ⟨es, t, hreads, hblank, rfl⟩ := parse_eq_ok_iff.mp h
  have hclose : skipBlanks (t ++ ')' :: w) = ')' :: w := by
    rw [skipBlanks_append_closing, hblank, List.nil_append]
  have hopen : skipBlanks (("(" ++ text ++ ")").toList ++ w) =
      '(' :: (text.toList ++ ')' :: w) := by
    simp [skipBlanks, isBlank]
  exact .parentheses hopen (hreads.append_closing w) hclose

/-- The texts in parentheses with a connective between them. -/
def enclosed (connective : String) (texts : List String) : String :=
  connective.intercalate (texts.map fun text => "(" ++ text ++ ")")

theorem toList_enclosed_cons (connective text text' : String) (texts : List String) :
    (enclosed connective (text :: text' :: texts)).toList =
      ("(" ++ text ++ ")").toList ++
        (connective.toList ++ (enclosed connective (text' :: texts)).toList) := by
  simp [enclosed, String.intercalate_cons_cons]

/-- Texts joined by a connective are a phrase of what each of them denotes, if one term is such a
    phrase and so is a term with the connective and such a phrase after it. -/
theorem reads_enclosed {k : Phrase} {connective : String}
    (hlast : ∀ {s e}, Reads .term s [e] [] → Reads k s [e] [])
    (hmore : ∀ {s e es r}, Reads .term s [e] (connective.toList ++ r) → Reads k r es [] →
      Reads k s (e :: es) [])
    {texts : List String} {es : List Expr}
    (h : List.Forall₂ (fun text e => parse text = .ok e) texts es) (hne : texts ≠ []) :
    Reads k (enclosed connective texts).toList es [] := by
  induction h with
  | nil => exact absurd rfl hne
  | @cons text e texts es he hes ih =>
    cases hes with
    | nil =>
      have hterm := reads_parentheses_of_parse he []
      rw [List.append_nil] at hterm
      exact hlast hterm
    | cons he' hes' =>
      rw [toList_enclosed_cons]
      exact hmore (reads_parentheses_of_parse he _) (ih (by simp))

theorem Reads.blank {k : Phrase} {s : List Char} {es : List Expr} {t : List Char}
    (h : Reads k s es t) : Reads k (' ' :: s) es t :=
  h.of_skipBlanks_eq (skipBlanks_cons_of_blank rfl s)

/-- Texts joined by `and` are a conjunction of what each of them denotes. -/
theorem parse_enclosed_and {texts : List String} {es : List Expr}
    (h : List.Forall₂ (fun text e => parse text = .ok e) texts es) (hne : texts ≠ []) :
    parse (enclosed " and " texts) = .ok (joinOperands .all es) := by
  have hreads : Reads .conjuncts (enclosed " and " texts).toList es [] := by
    refine reads_enclosed ?_ ?_ h hne
    · intro s e hterm
      exact .lastConjunct hterm rfl
    · intro s e es r hterm hrest
      exact .conjunct hterm rfl hrest.blank
  exact parse_eq_ok_iff.mpr ⟨_, [], .lastDisjunct hreads rfl, rfl, rfl⟩

/-- Texts joined by `or` are a disjunction of what each of them denotes. -/
theorem parse_enclosed_or {texts : List String} {es : List Expr}
    (h : List.Forall₂ (fun text e => parse text = .ok e) texts es) (hne : texts ≠ []) :
    parse (enclosed " or " texts) = .ok (joinOperands .any es) := by
  have hreads : Reads .disjuncts (enclosed " or " texts).toList es [] := by
    refine reads_enclosed ?_ ?_ h hne
    · intro s e hterm
      exact .lastDisjunct (.lastConjunct hterm rfl) rfl
    · intro s e es r hterm hrest
      exact .disjunct (.lastConjunct hterm rfl) rfl hrest.blank
  exact parse_eq_ok_iff.mpr ⟨es, [], hreads, rfl, rfl⟩

/-- Filter texts can be put into a larger one: in parentheses and joined by `and` or `or` they
    denote the conjunction or disjunction of what they denote alone, and a single one denotes the
    same. -/
theorem parse_enclosed {texts : List String} {es : List Expr}
    (h : List.Forall₂ (fun text e => parse text = .ok e) texts es) :
    (∀ e, es = [e] → parse (enclosed " and " texts) = .ok e ∧
      parse (enclosed " or " texts) = .ok e) ∧
    (2 ≤ es.length → parse (enclosed " and " texts) = .ok (.all es) ∧
      parse (enclosed " or " texts) = .ok (.any es)) := by
  have hlen := h.length_eq
  constructor
  · rintro e rfl
    have hne : texts ≠ [] := by
      rintro rfl
      cases hlen
    exact ⟨parse_enclosed_and h hne, parse_enclosed_or h hne⟩
  · intro htwo
    have hne : texts ≠ [] := by
      rintro rfl
      rw [← hlen] at htwo
      exact absurd htwo (by simp)
    refine ⟨(parse_enclosed_and h hne).trans ?_, (parse_enclosed_or h hne).trans ?_⟩
    · rw [joinOperands_of_two_le .all htwo]
    · rw [joinOperands_of_two_le .any htwo]

theorem parse_enclosed_two :
    let first : Expr := .compare .equal (.property "a") .null
    let second : Expr := .compare .less (.property "b") (.number "1")
    parse "a = null" = .ok first ∧ parse "[b] < 1" = .ok second ∧
      parse "(a = null) and ([b] < 1)" = .ok (.all [first, second]) ∧
      parse "(a = null) or ([b] < 1)" = .ok (.any [first, second]) := by
  intro first second
  have ha : Reads .value "a = null".toList [.property "a"] " = null".toList :=
    .word (c := 'a') (r := " = null".toList) rfl rfl (by rintro - r ⟨⟩)
  have hnull : Reads .value " null".toList [.null] [] :=
    .word (c := 'n') (r := "ull".toList) rfl rfl (by rintro - r ⟨⟩)
  have hb : Reads .value "[b] < 1".toList [.property "b"] " < 1".toList :=
    @Reads.bracketed _ "b".toList _ rfl (by decide)
  have hone : Reads .value " 1".toList [.number "1"] [] :=
    .number (c := '1') (r := []) rfl (by decide) (by decide)
  have hfirst : parse "a = null" = .ok first :=
    parse_eq_ok_iff.mpr ⟨_, [], .lastDisjunct (.lastConjunct
      (.comparison (by rintro r ⟨⟩) ha rfl hnull) rfl) rfl, rfl, rfl⟩
  have hsecond : parse "[b] < 1" = .ok second :=
    parse_eq_ok_iff.mpr ⟨_, [], .lastDisjunct (.lastConjunct
      (.comparison (by rintro r ⟨⟩) hb rfl hone) rfl) rfl, rfl, rfl⟩
  have htexts : List.Forall₂ (fun text e => parse text = .ok e) ["a = null", "[b] < 1"]
      [first, second] := .cons hfirst (.cons hsecond .nil)
  exact ⟨hfirst, hsecond, (parse_enclosed htexts).2 (by decide)⟩

end ContentFilter.Expr
