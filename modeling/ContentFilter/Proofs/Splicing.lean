import ContentFilter.Proofs.PatternEquations

/-!
# A pattern and what is put after it

To match whole texts a pattern is put into a group, as text: a parenthesis and a dollar sign follow
it. A reader that works on the pattern with this `closing` after it does what it does on the pattern
alone. It reads the same and leaves `closing` after what it leaves of the pattern, or it fails where
the pattern fails. There are two exceptions. A comment at the end of the pattern takes `closing`
with it. And what is incomplete in the pattern, such as a backslash at its end, may be completed by
the parenthesis; then the parenthesis is used up, and the group stays open.
-/

namespace ContentFilter.Regex

open Text

/-- What is put after a pattern. -/
def closing : List Char := [')', '$']

/-- `t` is left of a pattern with `closing` after it where `s` is left of the pattern alone. -/
def Follows (s t : List Char) : Prop := t = s ++ closing ∨ (s = [] ∧ t = [])

/-- How what a reader makes of a pattern alone agrees with what it makes of the pattern with
    `closing` after it. A reader that needs `closing` to complete something leaves some end of
    `excess` and no more. -/
inductive Agree {α : Type} (excess : List Char) :
    Option (α × List Char) → Option (α × List Char) → Prop where
  /-- Both read the same. -/
  | read {v : α} {s t : List Char} (h : Follows s t) : Agree excess (some (v, s)) (some (v, t))
  /-- Both fail. -/
  | fail : Agree excess none none
  /-- What is incomplete in the pattern is completed by `closing`. -/
  | overrun {v : α} {t : List Char} (h : t <:+ excess) : Agree excess none (some (v, t))

theorem follows_append (s : List Char) : Follows s (s ++ closing) := .inl rfl

theorem Follows.eq_of_cons {c : Char} {s t : List Char} (h : Follows (c :: s) t) :
    t = c :: (s ++ closing) := by
  rcases h with h | ⟨h, -⟩
  · exact h
  · cases h

theorem Follows.exists_of_cons {c : Char} {s t : List Char} (h : Follows s (c :: t))
    (hc : c ≠ ')') : ∃ r, s = c :: r ∧ t = r ++ closing := by
  rcases h with h | ⟨-, h⟩
  · cases s with
    | nil => exact absurd (List.cons.inj h).1 hc
    | cons d r =>
      obtain ⟨rfl, rfl⟩ := List.cons.inj h
      exact ⟨r, rfl, rfl⟩
  · cases h

section Agreement

variable {α β : Type} {excess wider : List Char} {a b : Option (α × List Char)}

theorem Agree.mono (h : Agree excess a b) (hsub : excess <:+ wider) : Agree wider a b := by
  cases h with
  | read h => exact .read h
  | fail => exact .fail
  | overrun h => exact .overrun (h.trans hsub)

theorem Agree.map (h : Agree excess a b) (f : α → β) :
    Agree excess (a.map fun p => (f p.1, p.2)) (b.map fun p => (f p.1, p.2)) := by
  cases h with
  | read h => exact .read h
  | fail => exact .fail
  | overrun h => exact .overrun h

theorem Agree.filterMap (h : Agree excess a b) (f : α → Option β) :
    Agree excess (a.bind fun p => (f p.1).map fun v => (v, p.2))
      (b.bind fun p => (f p.1).map fun v => (v, p.2)) := by
  cases h with
  | @read v s t h =>
    show Agree excess ((f v).map _) ((f v).map _)
    cases f v with
    | none => exact .fail
    | some w => exact .read h
  | fail => exact .fail
  | @overrun v t h =>
    show Agree excess none ((f v).map _)
    cases f v with
    | none => exact .fail
    | some w => exact .overrun h

/-- One reader after the other. -/
theorem Agree.bind (h : Agree excess a b) {f : α × List Char → Option (β × List Char)}
    (hread : ∀ v s t, a = some (v, s) → Follows s t → Agree wider (f (v, s)) (f (v, t)))
    (hover : ∀ v t, t <:+ excess → Agree wider none (f (v, t))) :
    Agree wider (a.bind f) (b.bind f) := by
  cases h with
  | read h => exact hread _ _ _ rfl h
  | fail => exact .fail
  | overrun h => exact hover _ _ h

end Agreement

/-! ## Blanks, braces and codes -/

variable {verbose : Bool}

theorem follows_skipVerbose (inComment : Bool) (s : List Char) :
    Follows (skipVerbose inComment s) (skipVerbose inComment (s ++ closing)) := by
  induction s generalizing inComment with
  | nil =>
    cases inComment with
    | true => exact .inr ⟨rfl, rfl⟩
    | false => exact .inl rfl
  | cons c r ih =>
    rw [List.cons_append, skipVerbose, skipVerbose]
    split
    · exact ih _
    · split
      · exact ih _
      · split
        · exact ih _
        · exact .inl rfl

theorem Follows.skipIgnored {s t : List Char} (h : Follows s t) (verbose : Bool) :
    Follows (skipIgnored verbose s) (skipIgnored verbose t) := by
  unfold Regex.skipIgnored
  cases verbose with
  | false => exact h
  | true =>
    rcases h with rfl | ⟨rfl, rfl⟩
    · exact follows_skipVerbose false s
    · exact .inr ⟨rfl, rfl⟩

theorem takeBraced?_append (inComment : Bool) (s : List Char) :
    takeBraced? verbose inComment (s ++ closing) =
      (takeBraced? verbose inComment s).map fun p => (p.1, p.2 ++ closing) := by
  induction s generalizing inComment with
  | nil => cases verbose <;> cases inComment <;> rfl
  | cons c r ih =>
    rw [List.cons_append, takeBraced?, takeBraced?]
    split
    · exact ih _
    · split
      · exact ih _
      · split
        · exact ih _
        · split
          · rfl
          · rw [ih]
            cases takeBraced? verbose false r <;> rfl

theorem agree_takeHexDigits? (excess : List Char) (count start : Nat) {s t : List Char}
    (h : Follows s t) :
    Agree excess (takeHexDigits? verbose count start s) (takeHexDigits? verbose count start t) := by
  induction count generalizing start s t with
  | zero => exact .read h
  | succ count ih =>
    rw [takeHexDigits?, takeHexDigits?]
    rcases h.skipIgnored verbose with ht | ⟨hs, ht⟩
    · rw [ht]
      cases Regex.skipIgnored verbose s with
      | nil => exact .fail
      | cons c r =>
        show Agree excess ((hexDigit? c).bind _) ((hexDigit? c).bind _)
        cases hexDigit? c with
        | none => exact .fail
        | some d => exact ih _ (follows_append r)
    · rw [hs, ht]
      exact .fail

theorem agree_takeBraced? (excess : List Char) (inComment : Bool) (s : List Char) :
    Agree excess (takeBraced? verbose inComment s)
      (takeBraced? verbose inComment (s ++ closing)) := by
  rw [takeBraced?_append]
  cases takeBraced? verbose inComment s with
  | none => exact .fail
  | some p => exact .read (follows_append p.2)

theorem agree_readCode? (excess : List Char) (count : Nat) {s t : List Char} (h : Follows s t) :
    Agree excess (readCode? verbose count s) (readCode? verbose count t) := by
  have hskip := h.skipIgnored verbose
  unfold readCode?
  split
  · rename_i r hs
    rw [hs] at hskip
    rw [hskip.eq_of_cons]
    have hbraced : Agree excess (takeBraced? verbose false r)
        (takeBraced? verbose false (r ++ closing)) := agree_takeBraced? excess false r
    have hcode := hbraced.filterMap fun inside =>
      ((hexNumber? inside).bind charOfCode?).map fun c => (⟨c, false⟩ : Literal)
    simpa only [Option.map_map, Function.comp_def] using hcode
  · rename_i hs
    split
    · rename_i r ht
      rw [ht] at hskip
      obtain ⟨r', hr', -⟩ := hskip.exists_of_cons (by decide)
      exact absurd hr' (hs r')
    · have hdigits : Agree excess (takeHexDigits? verbose count 0 (Regex.skipIgnored verbose s))
          (takeHexDigits? verbose count 0 (Regex.skipIgnored verbose t)) :=
        agree_takeHexDigits? excess count 0 hskip
      have hcode := hdigits.filterMap fun n =>
        (charOfCode? n).map fun c => (⟨c, count == 2⟩ : Literal)
      simpa only [Option.map_map, Function.comp_def] using hcode

/-! ## Escapes -/

theorem agree_readProperty? {s t : List Char} (h : Follows s t) :
    Agree ['$'] (readProperty? verbose s) (readProperty? verbose t) := by
  have hskip := h.skipIgnored verbose
  unfold readProperty?
  rcases hskip with ht | ⟨hs, ht⟩
  · rw [ht]
    cases skipIgnored verbose s with
    | nil => exact .overrun (List.suffix_refl _)
    | cons c r =>
      simp only [List.cons_append]
      by_cases hbrace : c = '{'
      · rw [if_pos hbrace, if_pos hbrace]
        exact (agree_takeBraced? _ false r).map PropertyQuery.ofBraced
      · rw [if_neg hbrace, if_neg hbrace]
        by_cases hslash : c = '\\'
        · rw [if_pos hslash, if_pos hslash]
          exact .fail
        · rw [if_neg hslash, if_neg hslash]
          exact .read (follows_append r)
  · rw [hs, ht]
    exact .fail

theorem agree_readBoundary? (excess : List Char) {s t : List Char} (h : Follows s t) :
    Agree excess (readBoundary? verbose s) (readBoundary? verbose t) := by
  unfold readBoundary?
  split
  · rename_i r
    rw [h.eq_of_cons]
    have hname : (skipIgnored verbose (r ++ closing)).head?.any isBoundaryNameChar =
        (skipIgnored verbose r).head?.any isBoundaryNameChar := by
      rcases (follows_append r).skipIgnored verbose with ht | ⟨hs, ht⟩
      · rw [ht]
        cases skipIgnored verbose r <;> rfl
      · rw [hs, ht]
    simp only [hname]
    split
    · exact (agree_takeBraced? excess false r).filterMap boundaryNamed?
    · exact .read (follows_append _)
  · rename_i hs
    split
    · obtain ⟨r, hr, -⟩ := h.exists_of_cons (by decide)
      exact absurd hr (hs r)
    · exact .read h

theorem agree_readEscape? {s t : List Char} (h : Follows s t) :
    Agree ['$'] (result (readEscape? verbose s)) (result (readEscape? verbose t)) := by
  rcases h with rfl | ⟨rfl, rfl⟩
  · cases s with
    | nil => exact .overrun (List.suffix_refl _)
    | cons c r =>
      rw [List.cons_append, result_readEscape?_cons, result_readEscape?_cons]
      have hr := follows_append r
      cases EscapeKind.ofLetter c with
      | whole p => exact .read hr
      | code count => exact (agree_readCode? _ count hr).map _
      | property negated =>
        exact (agree_readProperty? hr).map fun q => Pattern.property q.1 (negated != q.2)
      | boundary => exact (agree_readBoundary? _ hr).map _
      | unknown => exact .fail
  · exact .fail

/-! ## Bracketed sets -/

theorem agree_readSetAtom? {s t : List Char} (h : Follows s t) :
    Agree ['$'] (result (readSetAtom? verbose s)) (result (readSetAtom? verbose t)) := by
  rcases h with rfl | ⟨rfl, rfl⟩
  · cases s with
    | nil => exact .overrun (List.suffix_refl _)
    | cons c r =>
      rw [List.cons_append, result_readSetAtom?_cons, result_readSetAtom?_cons]
      by_cases hslash : c = '\\'
      · rw [if_pos hslash, if_pos hslash]
        exact agree_readEscape? (follows_append r)
      · rw [if_neg hslash, if_neg hslash]
        exact .read (follows_append r)
  · exact .fail

theorem firstPastBlanks?_append (hashSeen : Bool) (s : List Char) :
    firstPastBlanks? hashSeen (s ++ closing) = (firstPastBlanks? hashSeen s).or (some ')') := by
  induction s generalizing hashSeen with
  | nil => cases hashSeen <;> rfl
  | cons c r ih =>
    rw [List.cons_append, firstPastBlanks?, firstPastBlanks?]
    split
    · exact ih _
    · split
      · exact ih _
      · rfl

theorem head?_of_firstPastBlanks?_eq_none {hashSeen : Bool} {s : List Char} {c : Char}
    (h : firstPastBlanks? hashSeen s = none) (hc : s.head? = some c) :
    isBlank c = true ∨ c = '#' := by
  cases s with
  | nil => cases hc
  | cons d r =>
    obtain rfl : d = c := Option.some.inj hc
    rw [firstPastBlanks?] at h
    split at h
    · rename_i hblank
      exact .inl hblank
    · split at h
      · rename_i hhash
        exact .inr hhash.1
      · cases h

/-- What decides whether a hyphen makes a range is not changed by `closing`. -/
theorem charAfterHyphen?_append (s : List Char) {c : Char} (hc : c = ']' ∨ c = '-') :
    charAfterHyphen? verbose (s ++ closing) = some c ↔ charAfterHyphen? verbose s = some c := by
  have hparenthesis : (')' : Char) ≠ c := by
    rcases hc with rfl | rfl <;> decide
  cases verbose with
  | false =>
    cases s with
    | nil => simpa [charAfterHyphen?, closing] using hparenthesis
    | cons d r => exact Iff.rfl
  | true =>
    simp only [charAfterHyphen?, if_true, firstPastBlanks?_append]
    cases hfirst : firstPastBlanks? false s with
    | some d => exact Iff.rfl
    | none =>
      constructor
      · intro h
        exact absurd (Option.some.inj h) hparenthesis
      · intro h
        have hhead := head?_of_firstPastBlanks?_eq_none hfirst h
        rcases hc with rfl | rfl
        · exact absurd hhead (by decide)
        · exact absurd hhead (by decide)

theorem eq_of_suffix_dollar {t : List Char} (h : t <:+ ['$']) : t = ['$'] ∨ t = [] := by
  rcases List.suffix_cons_iff.mp h with h | h
  · exact .inl h
  · exact .inr (List.suffix_nil.mp h)

theorem skipIgnored_dollar (verbose : Bool) : skipIgnored verbose ['$'] = ['$'] := by
  cases verbose <;> rfl

theorem skipIgnored_closing (verbose : Bool) : skipIgnored verbose closing = closing := by
  cases verbose <;> rfl

theorem skipIgnored_nil (verbose : Bool) : skipIgnored verbose [] = [] := by
  cases verbose <;> rfl

theorem agree_readSetItem? {s t : List Char} (h : Follows s t) :
    Agree closing (result (readSetItem? verbose s)) (result (readSetItem? verbose t)) := by
  rw [result_readSetItem?, result_readSetItem?]
  refine (agree_readSetAtom? h).bind ?_ ?_
  · intro p s t _ h
    rcases h.skipIgnored verbose with ht | ⟨hs, ht⟩
    · simp only [ht]
      cases skipIgnored verbose s with
      | nil =>
        show Agree closing none ((SetExpr.ofPattern? p).map _)
        cases SetExpr.ofPattern? p with
        | none => exact .fail
        | some e => exact .overrun (List.suffix_refl _)
      | cons c r =>
        simp only [List.cons_append, ne_eq, charAfterHyphen?_append r (.inl rfl),
          charAfterHyphen?_append r (.inr rfl)]
        split
        · have hlast : Agree ['$']
              (result (readSetAtom? verbose (skipIgnored verbose r)))
              (result (readSetAtom? verbose (skipIgnored verbose (r ++ closing)))) :=
            agree_readSetAtom? ((follows_append r).skipIgnored verbose)
          exact (hlast.filterMap fun q => SetExpr.range? p q).mono (List.suffix_cons _ _)
        · cases SetExpr.ofPattern? p with
          | none => exact .fail
          | some e => exact .read (follows_append (c :: r))
    · simp only [hs, ht]
      exact .fail
  · -- An escape has taken the parenthesis; the dollar sign, if it is left, ends the item.
    intro p t ht
    rcases eq_of_suffix_dollar ht with rfl | rfl
    · simp only [skipIgnored_dollar]
      show Agree closing none ((SetExpr.ofPattern? p).map _)
      cases SetExpr.ofPattern? p with
      | none => exact .fail
      | some e => exact .overrun (List.suffix_cons _ _)
    · simp only [skipIgnored_nil]
      exact .fail

/-- What is read up to a mark that is not in `closing` is read before `closing`. -/
theorem dropWhile_append_closing (mark : Char) (hmark : mark ∉ closing) (s : List Char) :
    (s.dropWhile (· ≠ mark) = [] ∧ (s ++ closing).dropWhile (· ≠ mark) = []) ∨
      ∃ r, s.dropWhile (· ≠ mark) = mark :: r ∧
        (s ++ closing).dropWhile (· ≠ mark) = mark :: (r ++ closing) ∧
        (s ++ closing).takeWhile (· ≠ mark) = s.takeWhile (· ≠ mark) := by
  induction s with
  | nil =>
    have hparenthesis : ')' ≠ mark := fun h => hmark (h ▸ List.mem_cons_self)
    have hdollar : '$' ≠ mark := fun h => hmark (h ▸ List.mem_cons_of_mem _ List.mem_cons_self)
    exact .inl ⟨rfl, by simp [closing, hparenthesis, hdollar]⟩
  | cons c r ih =>
    by_cases hc : c = mark
    · subst hc
      exact .inr ⟨r, by simp, by simp, by simp⟩
    · simpa [hc] using ih

theorem readPosixName?_append (negated : Bool) (s : List Char) :
    readPosixName? negated (s ++ closing) =
      (readPosixName? negated s).map fun p => (p.1, p.2 ++ closing) := by
  unfold readPosixName?
  rcases dropWhile_append_closing ':' (by decide) s with ⟨hs, ht⟩ | ⟨r, hs, ht, hname⟩
  · rw [hs, ht]
    rfl
  · rw [hs, ht, hname]
    cases r with
    | nil => rfl
    | cons d rest =>
      by_cases hd : d = ']'
      · simp only [afterPrefix?, List.cons_append, hd, if_true]
        cases CharSet.posix? (s.takeWhile (· ≠ ':')) <;> rfl
      · simp only [afterPrefix?, List.cons_append, hd, if_true, if_false]
        rfl

theorem readPosix?_append (s : List Char) :
    readPosix? (s ++ closing) = (readPosix? s).map fun p => (p.1, p.2 ++ closing) := by
  unfold readPosix?
  split
  · rename_i u ht
    obtain ⟨r, rfl, hr⟩ := (ht ▸ follows_append s).exists_of_cons (by decide)
    obtain ⟨v, rfl, rfl⟩ := (hr ▸ follows_append r).exists_of_cons (by decide)
    exact readPosixName?_append true v
  · rename_i u hu ht
    obtain ⟨r, rfl, rfl⟩ := (ht ▸ follows_append s).exists_of_cons (by decide)
    split
    · rename_i v hv
      exact absurd (congrArg (· ++ closing) (List.cons.inj hv).2) (hu _)
    · rename_i v _ hv
      obtain rfl := (List.cons.inj hv).2
      exact readPosixName?_append false r
    · rename_i hnone
      exact absurd rfl (hnone r)
  · rename_i hcaret hcolon
    split
    · exact absurd rfl (hcaret _)
    · exact absurd rfl (hcolon _)
    · rfl

theorem follows_takeHyphens (inComment : Bool) (s : List Char) :
    (takeHyphens verbose inComment (s ++ closing)).1 = (takeHyphens verbose inComment s).1 ∧
      Follows (takeHyphens verbose inComment s).2
        (takeHyphens verbose inComment (s ++ closing)).2 := by
  induction s generalizing inComment with
  | nil =>
    cases verbose with
    | false => cases inComment with
      | false => exact ⟨rfl, .inl rfl⟩
      | true => exact ⟨rfl, .inr ⟨rfl, rfl⟩⟩
    | true => cases inComment with
      | false => exact ⟨rfl, .inl rfl⟩
      | true => exact ⟨rfl, .inr ⟨rfl, rfl⟩⟩
  | cons c r ih =>
    rw [List.cons_append, takeHyphens, takeHyphens]
    split
    · exact ih _
    · split
      · exact ih _
      · split
        · exact ih _
        · split
          · obtain ⟨hitems, hrest⟩ := ih false
            exact ⟨by simp only [hitems], hrest⟩
          · exact ⟨rfl, .inl rfl⟩

/-- Two beginnings of sets are the same, apart from what is left after them. -/
structure SetOpening.Agrees (a b : SetOpening) : Prop where
  /-- Both are negated, or none is. -/
  negated : b.negated = a.negated
  /-- The items are the same. -/
  items : b.items = a.items
  /-- What is left has `closing` after it. -/
  rest : Follows a.rest b.rest

theorem agrees_openItems (negated : Bool) {s t : List Char} (h : Follows s t) :
    (openItems verbose negated s).Agrees (openItems verbose negated t) := by
  have hhyphens : (takeHyphens verbose false t).1 = (takeHyphens verbose false s).1 ∧
      Follows (takeHyphens verbose false s).2 (takeHyphens verbose false t).2 := by
    rcases h with rfl | ⟨rfl, rfl⟩
    · exact follows_takeHyphens false s
    · exact ⟨rfl, .inr ⟨rfl, rfl⟩⟩
  unfold openItems
  rcases hs : takeHyphens verbose false s with ⟨items, u⟩
  rcases ht : takeHyphens verbose false t with ⟨items', v⟩
  rw [hs, ht] at hhyphens
  obtain ⟨rfl, hrest⟩ := hhyphens
  split
  · rename_i r heq
    cases heq
    obtain rfl : v = ']' :: (r ++ closing) := hrest.eq_of_cons
    exact ⟨rfl, rfl, follows_append r⟩
  · rename_i items r hother heq
    cases heq
    split
    · rename_i r' heq
      cases heq
      obtain ⟨u, hu, -⟩ := hrest.exists_of_cons (by decide)
      exact (hother u rfl hu).elim
    · rename_i heq
      cases heq
      exact ⟨rfl, rfl, hrest⟩

theorem agrees_openSet (verbose : Bool) {s t : List Char} (h : Follows s t) :
    (openSet verbose s).Agrees (openSet verbose t) := by
  have hskip := h.skipIgnored verbose
  unfold openSet
  split
  · rename_i r hs
    rw [hs] at hskip
    rw [hskip.eq_of_cons]
    exact agrees_openItems true (follows_append r)
  · rename_i hs
    split
    · rename_i r ht
      rw [ht] at hskip
      obtain ⟨r', hr', -⟩ := hskip.exists_of_cons (by decide)
      exact absurd hr' (hs r')
    · exact agrees_openItems false hskip

theorem takeSetOperator?_append (c : Char) (r : List Char) :
    takeSetOperator? (c :: (r ++ closing)) =
      (takeSetOperator? (c :: r)).map fun p => (p.1, p.2 ++ closing) := by
  cases r with
  | nil =>
    have hnone : ∀ r : List Char, takeSetOperator? (c :: ')' :: r) = none := by
      intro r
      unfold takeSetOperator?
      split <;> simp_all
    rw [List.nil_append, closing, hnone]
    unfold takeSetOperator?
    split <;> simp_all
  | cons d r =>
    unfold takeSetOperator?
    split
    · simp_all
    · simp_all
    · simp_all
    · split <;> simp_all

/-- There is no closing bracket in `closing`. -/
theorem result_readSet?_dollar (pending : Option (SetOperator × SetExpr)) (items : List SetExpr) :
    result (readSet? verbose pending items ['$']) = none := by
  have hitem : result (readSetItem? verbose ['$']) = none := by
    rw [result_readSetItem?, result_readSetAtom?_cons, if_neg (by decide), Option.bind_some,
      skipIgnored_nil]
  have hoperator : takeSetOperator? ['$'] = none := rfl
  rw [result_readSet?, skipIgnored_dollar]
  simp only [hoperator, hitem]
  rfl

theorem result_readSet?_closing (pending : Option (SetOperator × SetExpr))
    (items : List SetExpr) : result (readSet? verbose pending items closing) = none := by
  have hitem : result (readSetItem? verbose [')', '$']) =
      some (.literal ⟨')', false⟩, ['$']) := by
    rw [result_readSetItem?, result_readSetAtom?_cons, if_neg (by decide), Option.bind_some,
      skipIgnored_dollar]
    rfl
  have hoperator : takeSetOperator? [')', '$'] = none := rfl
  rw [result_readSet?, skipIgnored_closing, closing]
  simp only [hoperator, hitem, Option.bind_some, result_readSet?_dollar]
  rfl

theorem result_readSet?_of_suffix (pending : Option (SetOperator × SetExpr))
    (items : List SetExpr) {t : List Char} (h : t <:+ closing) :
    result (readSet? verbose pending items t) = none := by
  rcases List.suffix_cons_iff.mp h with rfl | h
  · exact result_readSet?_closing pending items
  · rcases eq_of_suffix_dollar h with rfl | rfl
    · exact result_readSet?_dollar pending items
    · rw [result_readSet?, skipIgnored_nil]

theorem length_lt_of_result {α : Type} {s u : List Char} {o : Option (Parsed s α)} {v : α}
    (h : result o = some (v, u)) : u.length < s.length := by
  cases o with
  | none => cases h
  | some p =>
    cases h
    exact p.shorter

theorem agree_readSet? (pending : Option (SetOperator × SetExpr)) (items : List SetExpr)
    {s t : List Char} (h : Follows s t) :
    Agree [] (result (readSet? verbose pending items s))
      (result (readSet? verbose pending items t)) := by
  -- Inner brackets are read like outer ones, and what follows them is read after them: both are
  -- shorter, so the induction is on the length.
  generalize hn : s.length = n
  induction n using Nat.strongRecOn generalizing pending items s t with
  | ind n ih =>
    rw [result_readSet? _ _ _ s, result_readSet? _ _ _ t]
    rcases h.skipIgnored verbose with ht | ⟨hs, ht⟩
    · rw [ht]
      cases hs : skipIgnored verbose s with
      | nil =>
        have hnone : result (readSet? verbose pending items closing) = none :=
          result_readSet?_closing pending items
        rw [result_readSet?, skipIgnored_closing] at hnone
        simp only [List.nil_append, hnone]
        exact .fail
      | cons c r =>
        have hr := length_lt_of_skipIgnored_eq_cons hs
        simp only [List.cons_append]
        split
        · exact .read (follows_append r)
        · split
          · rw [readPosix?_append]
            cases hposix : readPosix? r with
            | some p =>
              have hp := length_lt_of_readPosix?_eq_some hposix
              exact ih _ (by omega) _ _ (follows_append p.2) rfl
            | none =>
              have hopen := agrees_openSet verbose (follows_append r)
              have hlength := length_rest_openSet_le verbose r
              simp only [Option.map_none, hopen.items, hopen.negated]
              refine (ih _ (by omega) none _ hopen.rest rfl).bind ?_ ?_
              · intro p u v hp huv
                have := length_lt_of_result hp
                exact ih u.length (by omega) _ _ huv rfl
              · intro p u hu
                obtain rfl := List.suffix_nil.mp hu
                rw [result_readSet?_of_suffix _ _ (List.nil_suffix)]
                exact .fail
          · rw [takeSetOperator?_append]
            cases hoperator : takeSetOperator? (c :: r) with
            | some p =>
              have hp := length_lt_of_takeSetOperator?_eq_some hoperator
              rw [List.length_cons] at hp
              exact ih p.2.length (by omega) _ _ (follows_append p.2) rfl
            | none =>
              refine (agree_readSetItem? (follows_append (c :: r))).bind ?_ ?_
              · intro p u v hp huv
                have := length_lt_of_result hp
                rw [List.length_cons] at this
                exact ih u.length (by omega) _ _ huv rfl
              · intro p u hu
                rw [result_readSet?_of_suffix _ _ hu]
                exact .fail
    · rw [hs, ht]
      exact .fail

theorem agree_readBracket? {s t : List Char} (h : Follows s t) :
    Agree [] (result (readBracket? verbose s)) (result (readBracket? verbose t)) := by
  have hopen := agrees_openSet verbose h
  rw [result_readBracket?, result_readBracket?, hopen.items, hopen.negated]
  exact (agree_readSet? none _ hopen.rest).map _

/-! ## Counts and groups -/

theorem agrees_takeLazyMark {s t : List Char} (h : Follows s t) :
    (takeLazyMark t).1 = (takeLazyMark s).1 ∧ Follows (takeLazyMark s).2 (takeLazyMark t).2 := by
  unfold takeLazyMark
  split
  · obtain ⟨r, rfl, rfl⟩ := h.exists_of_cons (by decide)
    exact ⟨rfl, follows_append r⟩
  · rename_i ht
    split
    · exact absurd h.eq_of_cons (ht _)
    · exact ⟨rfl, h⟩

theorem agree_readCount? (excess : List Char) (c : Char) (r : List Char) :
    Agree excess (result (readCount? verbose (c :: r)))
      (result (readCount? verbose (c :: (r ++ closing)))) := by
  obtain ⟨hmark, hrest⟩ := agrees_takeLazyMark (follows_append r)
  rw [result_readCount?_cons, result_readCount?_cons, hmark, takeBraced?_append]
  split
  · exact .read hrest
  · split
    · exact .read hrest
    · split
      · exact .read hrest
      · split
        · cases takeBraced? verbose false r with
          | none => exact .fail
          | some p =>
            have hafter := (follows_append p.2).skipIgnored verbose
            obtain ⟨hmark, hrest⟩ := agrees_takeLazyMark hafter
            simp only [Option.map_some, Option.bind_some, hmark]
            cases bounds? p.1 with
            | none => exact .fail
            | some b => exact .read hrest
        · exact .fail

/-- Flags and what ends them, as a value and what is left. -/
theorem agree_readFlags? (on dangling : Bool) (settings : FlagSettings) (s : List Char) :
    Agree ['$'] ((readFlags? on dangling settings s).map fun p => ((p.1, p.2.1), p.2.2))
      ((readFlags? on dangling settings (s ++ closing)).map fun p => ((p.1, p.2.1), p.2.2)) := by
  induction s generalizing on dangling settings with
  | nil =>
    cases dangling with
    | true => exact .fail
    | false => exact .overrun (List.suffix_refl _)
  | cons c r ih =>
    rw [List.cons_append, readFlags?, readFlags?]
    split
    · cases dangling with
      | true => exact .fail
      | false => exact .read (follows_append r)
    · split
      · split
        · exact ih _ _ _
        · exact .fail
      · cases Flag.ofLetter? c with
        | none => exact .fail
        | some flag =>
          simp only [Option.bind_some]
          split
          · exact .fail
          · exact ih _ _ _

theorem agree_readGroupName? (excess : List Char) (s : List Char) :
    Agree excess (readGroupName? s) (readGroupName? (s ++ closing)) := by
  unfold readGroupName?
  rcases dropWhile_append_closing '>' (by decide) s with ⟨hs, ht⟩ | ⟨r, hs, ht, hname⟩
  · rw [hs, ht]
    exact .fail
  · rw [hs, ht, hname]
    simp only
    split
    · exact .read (follows_append r)
    · exact .fail

/-- What flags and their end begin. -/
def headOfFlags? : FlagSettings × Bool → Option GroupHead
  | (settings, true) => some (.plain settings)
  | ([], false) => none
  | (settings, false) => some (.flags settings)

theorem readGroupHead?_flags {r : List Char} (hname : ∀ u, r ≠ 'P' :: '<' :: u)
    (hname' : ∀ u, r ≠ '<' :: u) :
    readGroupHead? ('?' :: r) =
      ((readFlags? true false [] r).map fun p => ((p.1, p.2.1), p.2.2)).bind fun p =>
        (headOfFlags? p.1).map fun head => (head, p.2) := by
  unfold readGroupHead?
  split
  · rename_i u h
    exact absurd (List.cons.inj h).2 (hname u)
  · rename_i u h
    exact absurd (List.cons.inj h).2 (hname' u)
  · rename_i u _ _ h
    obtain rfl := (List.cons.inj h).2
    rcases readFlags? true false [] r with _ | ⟨settings, isGroup, rest⟩
    · rfl
    · cases isGroup with
      | true => rfl
      | false => cases settings <;> rfl
  · rename_i h
    exact absurd rfl (h r)

theorem agree_readFlagged? (r : List Char) :
    Agree ['$'] (readGroupHead? ('?' :: r)) (readGroupHead? ('?' :: (r ++ closing))) := by
  by_cases hr : ∃ u, r = 'P' :: '<' :: u ∨ r = '<' :: u
  · obtain ⟨u, rfl | rfl⟩ := hr
    · exact agree_readGroupName? _ u
    · exact agree_readGroupName? _ u
  · have hlong : ∀ u, r ++ closing ≠ 'P' :: '<' :: u := by
      intro u hu
      obtain ⟨v, rfl, hv⟩ := (hu ▸ follows_append r).exists_of_cons (by decide)
      obtain ⟨w, rfl, -⟩ := (hv ▸ follows_append v).exists_of_cons (by decide)
      exact hr ⟨w, .inl rfl⟩
    have hshort : ∀ u, r ++ closing ≠ '<' :: u := by
      intro u hu
      obtain ⟨v, rfl, -⟩ := (hu ▸ follows_append r).exists_of_cons (by decide)
      exact hr ⟨v, .inr rfl⟩
    rw [readGroupHead?_flags (fun u hu => hr ⟨u, .inl hu⟩) (fun u hu => hr ⟨u, .inr hu⟩),
      readGroupHead?_flags hlong hshort]
    exact (agree_readFlags? true false [] r).filterMap headOfFlags?

theorem agree_readGroupHead? {s t : List Char} (h : Follows s t) :
    Agree ['$'] (readGroupHead? s) (readGroupHead? t) := by
  rcases h with rfl | ⟨rfl, rfl⟩
  · rcases hs : s with _ | ⟨c, r⟩
    · exact .read (follows_append [])
    · by_cases hc : c = '?'
      · subst hc
        exact agree_readFlagged? r
      · have hplain : ∀ u, readGroupHead? (c :: u) = some (.capturing none, c :: u) := by
          intro u
          unfold readGroupHead?
          split <;> simp_all
        rw [List.cons_append, hplain, hplain]
        exact .read (follows_append (c :: r))
  · exact .read (.inr ⟨rfl, rfl⟩)

/-! ## Patterns -/

theorem agree_readPart? (c : Char) (r : List Char) :
    Agree ['$'] (result (readPart? verbose (c :: r)))
      (result (readPart? verbose (c :: (r ++ closing)))) := by
  have hr := follows_append r
  rw [result_readPart?_cons, result_readPart?_cons]
  split
  · exact agree_readEscape? hr
  · split
    · exact (agree_readBracket? hr).mono List.nil_suffix
    · exact .read hr

theorem length_le_of_bodyResult {s u : List Char} {o : Option (Body s)} {v : Pattern × ReadState}
    (h : bodyResult o = some (v, u)) : u.length ≤ s.length := by
  cases o with
  | none => cases h
  | some b =>
    cases h
    exact b.within

theorem bodyResult_readBody?_nil (st : ReadState) (branches parts : List Pattern) :
    bodyResult (readBody? st branches parts []) =
      some ((joinBranches branches parts, st), []) := by
  rw [bodyResult_readBody?, skipIgnored_nil]

theorem bodyResult_readBody?_dollar (st : ReadState) (branches parts : List Pattern) :
    bodyResult (readBody? st branches parts ['$']) =
      some ((joinBranches branches (.assertion .lineEnd :: parts), st), []) := by
  have hpart : result (readPart? st.verbose ['$']) = some (.assertion .lineEnd, []) := by
    rw [result_readPart?_cons, if_neg (by decide), if_neg (by decide)]
    rfl
  rw [bodyResult_readBody?, skipIgnored_dollar]
  simp only [hpart, Option.bind_some, bodyResult_readBody?_nil]
  rfl

/-- Once the parenthesis is used up the pattern is read to its end. -/
theorem exists_bodyResult_of_suffix (st : ReadState) (branches parts : List Pattern)
    {t : List Char} (h : t <:+ ['$']) :
    ∃ v, bodyResult (readBody? st branches parts t) = some (v, []) := by
  rcases eq_of_suffix_dollar h with rfl | rfl
  · exact ⟨_, bodyResult_readBody?_dollar st branches parts⟩
  · exact ⟨_, bodyResult_readBody?_nil st branches parts⟩

theorem agree_of_suffix (st : ReadState) (branches parts : List Pattern)
    {t : List Char} (h : t <:+ ['$']) :
    Agree [] none (bodyResult (readBody? st branches parts t)) := by
  obtain ⟨v, hv⟩ := exists_bodyResult_of_suffix st branches parts h
  rw [hv]
  exact .overrun (List.suffix_refl _)

theorem bodyAfterHead_of_suffix (st : ReadState) (branches parts : List Pattern) (head : GroupHead)
    {t : List Char} (h : t <:+ ['$']) :
    Agree [] none (bodyAfterHead st branches parts head t) := by
  cases head with
  | flags settings => exact agree_of_suffix _ _ _ h
  | plain | capturing =>
    simp only [bodyAfterHead]
    cases st.entering? _ with
    | none => exact .fail
    | some inner =>
      obtain ⟨b, hb⟩ := exists_bodyResult_of_suffix inner [] [] h
      simp only [Option.bind_some, hb]
      exact .fail

/-- In a group, what agrees is what agrees in all that is left of the text. -/
theorem agree_bodyAfterHead (st : ReadState) (branches parts : List Pattern) (head : GroupHead)
    {u v : List Char} (h : Follows u v)
    (ih : ∀ (inner : ReadState) (branches parts : List Pattern) {s t : List Char},
      s.length ≤ u.length → Follows s t →
      Agree [] (bodyResult (readBody? inner branches parts s))
        (bodyResult (readBody? inner branches parts t))) :
    Agree [] (bodyAfterHead st branches parts head u)
      (bodyAfterHead st branches parts head v) := by
  cases head with
  | flags settings => exact ih _ _ _ (Nat.le_refl _) h
  | plain | capturing =>
    simp only [bodyAfterHead]
    cases st.entering? _ with
    | none => exact .fail
    | some inner =>
      refine (ih inner [] [] (Nat.le_refl _) h).bind ?_ ?_
      · intro b s t hs hst
        have hlength := length_le_of_bodyResult hs
        rcases hst with rfl | ⟨rfl, rfl⟩
        · cases s with
          -- The group is open at the end of the pattern, and `closing` ends it.
          | nil => exact agree_of_suffix _ _ _ (List.suffix_refl _)
          | cons d after =>
            rw [List.length_cons] at hlength
            exact ih _ _ _ (by omega) (follows_append after)
        · exact .fail
      · intro b t ht
        obtain rfl := List.suffix_nil.mp ht
        exact .fail

theorem agree_readBody? (st : ReadState) (branches parts : List Pattern) {s t : List Char}
    (h : Follows s t) :
    Agree [] (bodyResult (readBody? st branches parts s))
      (bodyResult (readBody? st branches parts t)) := by
  -- As for sets, the induction is on the length; a group is what brackets are there.
  generalize hn : s.length = n
  induction n using Nat.strongRecOn generalizing st branches parts s t with
  | ind n ih =>
    rw [bodyResult_readBody? _ _ _ s, bodyResult_readBody? _ _ _ t]
    rcases h.skipIgnored st.verbose with ht | ⟨hs, ht⟩
    · rw [ht]
      cases hs : skipIgnored st.verbose s with
      | nil => exact .read (.inl rfl)
      | cons c r =>
        have hr := length_lt_of_skipIgnored_eq_cons hs
        simp only [List.cons_append]
        split
        · exact .read (follows_append (c :: r))
        · split
          · exact ih r.length (by omega) _ _ _ (follows_append r) rfl
          · split
            · refine (agree_readGroupHead? ((follows_append r).skipIgnored st.verbose)).bind ?_ ?_
              · intro head u v hu huv
                have hhead : u.length ≤ (skipIgnored st.verbose r).length :=
                  length_le_of_readGroupHead?_eq_some hu
                have hskip := length_skipIgnored_le st.verbose r
                refine agree_bodyAfterHead st branches parts head (u := u) huv ?_
                intro inner branches parts u' v' hle huv'
                exact ih u'.length (by omega) inner branches parts huv' rfl
              · intro head u hu
                exact bodyAfterHead_of_suffix st branches parts head hu
            · split
              · cases parts with
                | nil => exact .fail
                | cons part before =>
                  simp only
                  split
                  · refine (agree_readCount? [] c r).bind ?_ ?_
                    · intro count u v hu huv
                      have := length_lt_of_result hu
                      rw [List.length_cons] at this
                      exact ih u.length (by omega) _ _ _ huv rfl
                    · intro count u hu
                      exact agree_of_suffix _ _ _ (hu.trans List.nil_suffix)
                  · exact .fail
              · refine (agree_readPart? c r).bind ?_ ?_
                · intro part u v hu huv
                  have := length_lt_of_result hu
                  rw [List.length_cons] at this
                  exact ih u.length (by omega) _ _ _ huv rfl
                · intro part u hu
                  exact agree_of_suffix _ _ _ hu
    · rw [hs, ht]
      exact .read (.inr ⟨rfl, rfl⟩)

end ContentFilter.Regex
