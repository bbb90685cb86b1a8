import ContentFilter.Proofs.CursorLexeme

/-!
# Operands and predicates by positions in bytes

The programs that call each other, and themselves on what they have left. They come to the same as
the readers, by induction on the length of what is left: each loop and each of the recursive calls
begins with less of it.
-/

namespace ContentFilter.Expr.Cursor

open Text

variable {self : Cursor} {s r u : List Char}

/-! ## Operands -/

theorem wordOperand_of_not_isLiteralWord {w : List Char} (h : ¬ isLiteralWord w = true) :
    wordOperand w = .property (String.ofList w) := by
  unfold isLiteralWord at h
  unfold wordOperand
  split <;> simp_all

/-- A literal word is found, or a property, or a call, if arguments are read further on. -/
theorem yields_word_of (hs : s <:+ self.text.toList) (hstart : startsWith isWordChar s = true)
    (ih : ∀ r, r <:+ s → r.length < s.length →
      (self.arguments []).Yields self.text r (readArguments false r).result) :
    self.word.Yields self.text s (wordResult s) := by
  have hrest : s.dropWhile isWordChar <:+ s := List.dropWhile_suffix _
  have hblanks : skipBlanks (s.dropWhile isWordChar) <:+ s := (skipBlanks_suffix _).trans hrest
  have hne : s.takeWhile isWordChar ≠ [] := by
    cases s with
    | nil => cases hstart
    | cons c s => rw [List.takeWhile_cons_of_pos (show isWordChar c = true from hstart)]; simp
  have hname := yields_identifier hs
  rw [identifierResult, if_neg hne] at hname
  rw [word, wordResult]
  refine hname.bind ?_
  rw [String.toList_ofList]
  by_cases hliteral : isLiteralWord (s.takeWhile isWordChar) = true
  · rw [if_pos hliteral, if_pos hliteral]
    rfl
  · rw [if_neg hliteral, if_neg hliteral, wordOperand_of_not_isLiteralWord hliteral]
    refine yields_position.bind ((yields_skipBlanks (hrest.trans hs)).bind
      ((yields_peek (hblanks.trans hs)).bind ?_))
    split
    · rename_i hopen
      obtain ⟨inside, hinside⟩ := List.head?_eq_some_iff.mp hopen
      rw [hinside] at hblanks ⊢
      have hlt := hblanks.length_le
      exact (yields_advance (hblanks.trans hs)).bind
        (ih inside ((List.suffix_cons _ inside).trans hblanks) hlt).map
    · rename_i hopen
      split
      · rename_i inside hinside
        rw [hinside] at hopen
        exact absurd rfl hopen
      · exact yields_moveTo.bind rfl

theorem yields_signFollows {c : Char} (hs : c :: r <:+ self.text.toList) :
    (self.signFollows c).Yields self.text (c :: r)
      (.ok (decide ((c = '-' ∨ c = '+') ∧ startsWith Char.isDigit r = true), c :: r)) := by
  rw [signFollows]
  by_cases hc : c = '-' ∨ c = '+'
  · rw [if_pos hc]
    have hdigit := yields_digitIsSecond hs
    simpa only [hc, true_and, Bool.decide_eq_true, List.tail_cons] using hdigit
  · rw [if_neg hc, decide_eq_false (fun h => hc h.1)]
    rfl

/-- An operand is read, if the arguments of calls are read further on. -/
theorem yields_value_of (hs : s <:+ self.text.toList)
    (ih : ∀ r, r <:+ s → r.length < s.length →
      (self.arguments []).Yields self.text r (readArguments false r).result) :
    self.value.Yields self.text s (readValue s).result := by
  have hblanks : skipBlanks s <:+ s := skipBlanks_suffix s
  have hstart := hblanks.trans hs
  rw [value]
  refine (yields_skipBlanks hs).bind ((yields_peek hstart).bind ?_)
  cases hskip : skipBlanks s with
  | nil =>
    rw [result_readValue_nil hskip]
    exact yields_failHere List.nil_suffix
  | cons c r =>
    rw [hskip] at hblanks hstart
    have hr : r <:+ self.text.toList := (List.suffix_cons c r).trans hstart
    rw [result_readValue hskip]
    simp only [List.head?_cons]
    split
    · exact (yields_string hstart).map
    split
    · rename_i hopen
      subst hopen
      exact yields_bracketed hstart
    split
    · rw [result_readArgument]
      exact (yields_advance hstart).bind (yields_identifier hr).map
    by_cases hdigit : c.isDigit = true
    · simp only [hdigit, true_and, true_or, if_true]
      refine (yields_goesOnLike (by decide) hstart).bind ?_
      split
      · exact yields_date hstart
      · exact yields_number (.inl hdigit) hstart
    · have hdate : ¬ (c.isDigit = true ∧ hasShape dateShape (c :: r) = true) :=
        fun h => hdigit h.1
      rw [if_neg hdigit, if_neg hdate]
      refine (yields_signFollows hstart).bind ?_
      by_cases hsign : (c = '-' ∨ c = '+') ∧ startsWith Char.isDigit r = true
      · rw [decide_eq_true hsign, if_pos rfl, if_pos (Or.inr hsign)]
        exact yields_number (.inr hsign.1) hstart
      · rw [decide_eq_false hsign, if_neg Bool.false_ne_true, if_neg (not_or.mpr ⟨hdigit, hsign⟩)]
        split
        · rename_i hword
          exact yields_word_of hstart (isWordChar_of_isWordStart hword) fun r hsuffix hlt =>
            ih r (hsuffix.trans hblanks) (Nat.lt_of_lt_of_le hlt hblanks.length_le)
        · exact yields_failHere hstart

theorem result_readValue_skipBlanks (s : List Char) :
    (readValue (skipBlanks s)).result = (readValue s).result := by
  cases hs : skipBlanks s with
  | nil => rw [result_readValue_nil hs, result_readValue_nil rfl]
  | cons c r =>
    rw [result_readValue hs, result_readValue (hs ▸ skipBlanks_skipBlanks s)]

/-- Arguments are read, if operands are read and arguments further on. -/
theorem yields_arguments_of (args : List Expr) (hs : s <:+ self.text.toList)
    (hvalue : self.value.Yields self.text (skipBlanks s) (readValue (skipBlanks s)).result)
    (ih : ∀ args r, r <:+ s → r.length < s.length → (self.arguments args).Yields self.text r
      (resumed args (readArguments (decide (args ≠ [])) r).result)) :
    (self.arguments args).Yields self.text s
      (resumed args (readArguments (decide (args ≠ [])) s).result) := by
  have hblanks : skipBlanks s <:+ s := skipBlanks_suffix s
  have hstart := hblanks.trans hs
  rw [arguments]
  refine (yields_skipBlanks hs).bind ((yields_peek hstart).bind ?_)
  cases hskip : skipBlanks s with
  | nil =>
    rw [result_readArguments_nil hskip]
    exact yields_failHere List.nil_suffix
  | cons c r =>
    rw [hskip] at hblanks hstart
    have hr : r <:+ s := (List.suffix_cons c r).trans hblanks
    rw [result_readArguments hskip]
    simp only [List.head?_cons]
    split
    · rw [resumed_ok, List.append_nil]
      exact (yields_advance hstart).bind rfl
    simp only [decide_eq_true_eq]
    split
    · rename_i hcomma
      have hnext := ih args r hr hblanks.length_le
      rw [decide_eq_true hcomma.2] at hnext
      exact (yields_advance hstart).bind hnext
    · rw [result_readValue_skipBlanks, hskip] at hvalue
      rw [resumed_bind]
      refine hvalue.andThen fun e t he => ?_
      rw [resumed_cons]
      have hshorter := Outcome.length_lt_of_result he
      have hnext := ih (args ++ [e]) t (suffix_of_readValue he) hshorter
      rwa [decide_eq_true (List.append_ne_nil_of_right_ne_nil _ (List.cons_ne_nil _ _))] at hnext

/-- The loop over the arguments ends: each turn takes a comma or an operand off the text. -/
theorem yields_arguments (args : List Expr) (hs : s <:+ self.text.toList) :
    (self.arguments args).Yields self.text s
      (resumed args (readArguments (decide (args ≠ [])) s).result) := by
  induction hn : s.length using Nat.strong_induction_on generalizing s args with
  | _ n ih =>
    subst hn
    have hnext : ∀ args r, r <:+ s → r.length < s.length → (self.arguments args).Yields self.text r
        (resumed args (readArguments (decide (args ≠ [])) r).result) :=
      fun args r hr hlt => ih _ hlt args (hr.trans hs) rfl
    have hblanks : skipBlanks s <:+ s := skipBlanks_suffix s
    refine yields_arguments_of args hs (yields_value_of (hblanks.trans hs) fun r hr hlt => ?_) hnext
    have hfirst := hnext [] r (hr.trans hblanks) (Nat.lt_of_lt_of_le hlt hblanks.length_le)
    rwa [resumed_nil] at hfirst

theorem yields_arguments_nil (hs : s <:+ self.text.toList) :
    (self.arguments []).Yields self.text s (readArguments false s).result := by
  have h := yields_arguments [] hs
  rwa [resumed_nil] at h

theorem yields_value (hs : s <:+ self.text.toList) :
    self.value.Yields self.text s (readValue s).result :=
  yields_value_of hs fun _ hr _ => yields_arguments_nil (hr.trans hs)

theorem yields_word (hs : s <:+ self.text.toList) (hstart : startsWith isWordChar s = true) :
    self.word.Yields self.text s (wordResult s) :=
  yields_word_of hs hstart fun _ hr _ => yields_arguments_nil (hr.trans hs)

/-! ## Comparisons and terms -/

/-- What reading a comparison comes to. -/
def comparisonResult (s : List Char) : Except Failure (Expr × List Char) :=
  (readValue s).result.bind fun x =>
    match readOperator? (skipBlanks x.2) with
    | none => .error ⟨.expectedOperator, skipBlanks x.2⟩
    | some (op, r) => (readValue r).result.map fun y => (.compare op x.1 y.1, y.2)

theorem yields_comparison (hs : s <:+ self.text.toList) :
    self.comparison.Yields self.text s (comparisonResult s) := by
  refine (yields_value hs).andThen fun left t hleft => ?_
  have ht : skipBlanks t <:+ self.text.toList :=
    (skipBlanks_suffix t).trans ((suffix_of_readValue hleft).trans hs)
  refine (yields_skipBlanks ((suffix_of_readValue hleft).trans hs)).bind ?_
  have hoperator := yields_operator ht
  cases hfound : readOperator? (skipBlanks t) with
  | none =>
    rw [hfound] at hoperator
    exact hoperator.bind ((yields_column ht).bind yields_fail)
  | some found =>
    obtain ⟨op, r⟩ := found
    have hr : r <:+ self.text.toList := (suffix_of_readOperator? hfound).trans ht
    rw [hfound] at hoperator
    exact hoperator.bind ((yields_column hr).bind (yields_value hr).map)

/-- What reading the operands of a disjunction comes to, the blanks after them skipped. -/
def disjunctsResult (s : List Char) : Except Failure (List Expr × List Char) :=
  (readDisjuncts s).result.map fun x => (x.1, skipBlanks x.2)

/-- What reading the operands of a conjunction comes to, the blanks after them skipped. -/
def conjunctsResult (s : List Char) : Except Failure (List Expr × List Char) :=
  (readConjuncts s).result.map fun x => (x.1, skipBlanks x.2)

/-- What reading a disjunction comes to. -/
def disjunctionResult (s : List Char) : Except Failure (Expr × List Char) :=
  (disjunctsResult s).map fun x => (joinOperands .any x.1, x.2)

/-- What reading a conjunction comes to. -/
def conjunctionResult (s : List Char) : Except Failure (Expr × List Char) :=
  (conjunctsResult s).map fun x => (joinOperands .all x.1, x.2)

theorem shorter_of_disjunctionResult {e : Expr} {t : List Char}
    (h : disjunctionResult s = .ok (e, t)) : t <:+ s ∧ t.length < s.length := by
  obtain ⟨x, hx, heq⟩ := map_eq_ok_iff.mp h
  obtain ⟨⟨es, t'⟩, hread, rfl⟩ := map_eq_ok_iff.mp hx
  cases heq
  exact ⟨(skipBlanks_suffix t').trans (suffix_of_read (k := .disjuncts) hread),
    Nat.lt_of_le_of_lt (length_skipBlanks_le t') (Outcome.length_lt_of_result hread)⟩

theorem shorter_of_conjunctionResult {e : Expr} {t : List Char}
    (h : conjunctionResult s = .ok (e, t)) : t <:+ s ∧ t.length < s.length := by
  obtain ⟨x, hx, heq⟩ := map_eq_ok_iff.mp h
  obtain ⟨⟨es, t'⟩, hread, rfl⟩ := map_eq_ok_iff.mp hx
  cases heq
  exact ⟨(skipBlanks_suffix t').trans (suffix_of_read (k := .conjuncts) hread),
    Nat.lt_of_le_of_lt (length_skipBlanks_le t') (Outcome.length_lt_of_result hread)⟩

/-- The closing parenthesis is looked for behind the blanks. -/
theorem result_readTerm_disjunction (hs : skipBlanks s = '(' :: r) :
    (readTerm s).result = (disjunctionResult r).bind fun x =>
      (expectResult ')' (skipBlanks x.2)).map fun y => (x.1, y.2) := by
  rw [result_readTerm_parenthesis hs, disjunctionResult, disjunctsResult]
  cases (readDisjuncts r).result with
  | error e => rfl
  | ok x =>
    simp only [Except.bind, Except.map, skipBlanks_skipBlanks]
    cases skipBlanks x.2 with
    | nil => rfl
    | cons c t =>
      simp only [expectResult, List.head?_cons, Option.some.injEq]
      split <;> rfl

/-- A term is read, if disjunctions are read further on. -/
theorem yields_term_of (hs : s <:+ self.text.toList)
    (ih : ∀ r, r <:+ s → r.length < s.length →
      self.disjunction.Yields self.text r (disjunctionResult r)) :
    self.term.Yields self.text s (readTerm s).result := by
  have hblanks : skipBlanks s <:+ s := skipBlanks_suffix s
  rw [term]
  refine (yields_skipBlanks hs).bind ((yields_peek (hblanks.trans hs)).bind ?_)
  split
  · rename_i hopen
    obtain ⟨r, hskip⟩ := List.head?_eq_some_iff.mp hopen
    rw [hskip] at hblanks ⊢
    have hr : r <:+ s := (List.suffix_cons _ r).trans hblanks
    rw [result_readTerm_disjunction hskip]
    refine (yields_advance (hblanks.trans hs)).bind
      ((ih r hr hblanks.length_le).andThen fun e t he => ?_)
    have ht : t <:+ self.text.toList := (shorter_of_disjunctionResult he).1.trans (hr.trans hs)
    exact (yields_skipBlanks ht).bind (yields_expect ((skipBlanks_suffix t).trans ht)).map
  · rename_i hopen
    have hcomparison : ∀ r, skipBlanks s ≠ '(' :: r := by
      intro r hskip
      rw [hskip] at hopen
      exact hopen rfl
    have hresult := result_readTerm_comparison hcomparison
    rw [← result_readValue_skipBlanks] at hresult
    rw [hresult]
    exact yields_comparison (hblanks.trans hs)

/-! ## Conjunctions and disjunctions -/

/-- The operands that follow the first ones: none, or as many as are read after a connective. -/
def moreOperands (word symbol : String)
    (whole : List Char → Except Failure (List Expr × List Char)) (s : List Char) :
    Except Failure (List Expr × List Char) :=
  match (afterPrefix? symbol.toList (skipBlanks s)).or
      (afterKeyword? word.toList (skipBlanks s)) with
  | some r => whole r
  | none => .ok ([], skipBlanks s)

/-- A loop that reads operands with a connective between them: an operand comes to `one` and all of
    them to `whole`. -/
structure IsChain (cursor : Cursor) (word symbol : String) (operand : Program Expr)
    (loop : List Expr → Program (List Expr)) (one : List Char → Except Failure (Expr × List Char))
    (whole : List Char → Except Failure (List Expr × List Char)) : Prop where
  connective : IsConnective word symbol
  ascii : ∀ c ∈ symbol.toList, c.toNat < 128
  turn : ∀ operands, loop operands = do
    cursor.skipWhile isBlank
    if ← cursor.connective symbol.toList word.toList then
      let e ← operand
      loop (operands ++ [e])
    else return operands
  whole_eq : ∀ s, whole s = (one s).bind fun x =>
    (moreOperands word symbol whole x.2).map fun y => (x.1 :: y.1, y.2)
  suffix : ∀ {s e t}, one s = .ok (e, t) → t <:+ s

section Chains

variable {word symbol : String} {operand : Program Expr} {loop : List Expr → Program (List Expr)}
  {one : List Char → Except Failure (Expr × List Char)}
  {whole : List Char → Except Failure (List Expr × List Char)}

theorem length_lt_of_connective (h : IsConnective word symbol)
    (hr : (afterPrefix? symbol.toList s).or (afterKeyword? word.toList s) = some r) :
    r.length < s.length := by
  have hsymbol := List.length_pos_iff.mpr h.ne_nil
  have hword := List.length_pos_iff.mpr h.keyword.ne_nil
  rcases Option.or_eq_some_iff.mp hr with hr | ⟨-, hr⟩
  · have := length_of_afterPrefix?_eq_some hr
    omega
  · have := length_of_afterKeyword?_eq_some hr
    omega

/-- The loop ends: each turn takes a connective off the text. -/
theorem IsChain.yields_loop (h : IsChain self word symbol operand loop one whole)
    (operands : List Expr) (hs : s <:+ self.text.toList)
    (hoperand : ∀ r, r <:+ s → operand.Yields self.text r (one r)) :
    (loop operands).Yields self.text s (resumed operands (moreOperands word symbol whole s)) := by
  induction hn : s.length using Nat.strong_induction_on generalizing s operands with
  | _ n ih =>
    subst hn
    have hblanks : skipBlanks s <:+ s := skipBlanks_suffix s
    have hconnective := yields_connective h.ascii h.connective.keyword.isLower (hblanks.trans hs)
    rw [h.turn, moreOperands]
    refine (yields_skipBlanks hs).bind ?_
    cases hfound : (afterPrefix? symbol.toList (skipBlanks s)).or
        (afterKeyword? word.toList (skipBlanks s)) with
    | none =>
      rw [hfound] at hconnective
      rw [resumed_ok, List.append_nil]
      exact hconnective.bind (Program.yields_pure operands)
    | some r =>
      rw [hfound] at hconnective
      have hr : r <:+ s := (suffix_of_connective hfound).trans hblanks
      have hlt := Nat.lt_of_lt_of_le (length_lt_of_connective h.connective hfound)
        hblanks.length_le
      refine hconnective.bind ?_
      simp only [if_true]
      rw [h.whole_eq, resumed_bind]
      refine (hoperand r hr).andThen fun e t he => ?_
      rw [resumed_cons]
      have ht := h.suffix he
      exact ih _ (Nat.lt_of_le_of_lt ht.length_le hlt) _ (ht.trans (hr.trans hs))
        (fun u hu => hoperand u (hu.trans (ht.trans hr))) rfl

/-- All operands are read and joined. -/
theorem IsChain.yields_joined (h : IsChain self word symbol operand loop one whole)
    (join : List Expr → Expr) (hs : s <:+ self.text.toList)
    (hoperand : ∀ r, r <:+ s → operand.Yields self.text r (one r)) :
    (do
      let first ← operand
      let operands ← loop [first]
      return join operands : Program Expr).Yields self.text s
      ((whole s).map fun x => (join x.1, x.2)) := by
  have hmap : ∀ {o : Except Failure (Expr × List Char)}
      {g : Expr × List Char → Except Failure (List Expr × List Char)},
      (o.bind g).map (fun x => (join x.1, x.2)) =
        o.bind fun x => (g x).map fun y => (join y.1, y.2) := by
    intro o g
    cases o <;> rfl
  rw [h.whole_eq, hmap]
  refine (hoperand s (List.suffix_refl s)).andThen fun e t he => ?_
  have ht := h.suffix he
  exact (h.yields_loop [e] (ht.trans hs) fun r hr => hoperand r (hr.trans ht)).map

end Chains

theorem isChain_conjuncts : IsChain self "and" "&&" self.term self.conjuncts
    (fun s => (readTerm s).result) conjunctsResult where
  connective := isConnective_and
  ascii := by decide
  turn operands := by rw [conjuncts]; rfl
  whole_eq s := by
    rw [conjunctsResult, result_readConjuncts]
    cases (readTerm s).result with
    | error e => rfl
    | ok x =>
      simp only [Except.bind, moreOperands, ← afterAnd?_eq]
      cases afterAnd? (skipBlanks x.2) with
      | none => rfl
      | some r =>
        simp only [conjunctsResult]
        cases (readConjuncts r).result <;> rfl
  suffix := suffix_of_readTerm

theorem isChain_disjuncts : IsChain self "or" "||" self.conjunction self.disjuncts
    conjunctionResult disjunctsResult where
  connective := isConnective_or
  ascii := by decide
  turn operands := by rw [disjuncts]; rfl
  whole_eq s := by
    rw [disjunctsResult, result_readDisjuncts, conjunctionResult, conjunctsResult]
    cases (readConjuncts s).result with
    | error e => rfl
    | ok x =>
      simp only [Except.bind, Except.map, moreOperands, skipBlanks_skipBlanks, ← afterOr?_eq]
      cases afterOr? (skipBlanks x.2) with
      | none => rfl
      | some r =>
        simp only [disjunctsResult]
        cases (readDisjuncts r).result <;> rfl
  suffix h := (shorter_of_conjunctionResult h).1

/-- A conjunction is read, if terms are read from here on. -/
theorem yields_conjunction_of (hs : s <:+ self.text.toList)
    (hterm : ∀ r, r <:+ s → self.term.Yields self.text r (readTerm r).result) :
    self.conjunction.Yields self.text s (conjunctionResult s) := by
  rw [conjunction]
  exact isChain_conjuncts.yields_joined (joinOperands .all) hs hterm

/-- The recursion ends: a disjunction in parentheses is read further on. -/
theorem yields_disjunction (hs : s <:+ self.text.toList) :
    self.disjunction.Yields self.text s (disjunctionResult s) := by
  induction hn : s.length using Nat.strong_induction_on generalizing s with
  | _ n ih =>
    subst hn
    have hterm : ∀ r, r <:+ s → self.term.Yields self.text r (readTerm r).result := fun r hr =>
      yields_term_of (hr.trans hs) fun u hu hlt =>
        ih u.length (Nat.lt_of_lt_of_le hlt hr.length_le) (hu.trans (hr.trans hs)) rfl
    rw [disjunction]
    exact isChain_disjuncts.yields_joined (joinOperands .any) hs fun r hr =>
      yields_conjunction_of (hr.trans hs) fun u hu => hterm u (hu.trans hr)

theorem yields_term (hs : s <:+ self.text.toList) :
    self.term.Yields self.text s (readTerm s).result :=
  yields_term_of hs fun _ hr _ => yields_disjunction (hr.trans hs)

theorem yields_conjunction (hs : s <:+ self.text.toList) :
    self.conjunction.Yields self.text s (conjunctionResult s) :=
  yields_conjunction_of hs fun _ hr => yields_term (hr.trans hs)

/-! ## Filter texts -/

theorem result_readTerm_skipBlanks (s : List Char) :
    (readTerm (skipBlanks s)).result = (readTerm s).result := by
  by_cases hopen : ∃ r, skipBlanks s = '(' :: r
  · obtain ⟨r, hs⟩ := hopen
    rw [result_readTerm_disjunction hs,
      result_readTerm_disjunction ((skipBlanks_skipBlanks s).trans hs)]
  · rw [not_exists] at hopen
    rw [result_readTerm_comparison hopen, result_readTerm_comparison
      (by rwa [skipBlanks_skipBlanks]), result_readValue_skipBlanks]

theorem result_readDisjuncts_skipBlanks (s : List Char) :
    (readDisjuncts (skipBlanks s)).result = (readDisjuncts s).result := by
  rw [result_readDisjuncts, result_readDisjuncts, result_readConjuncts, result_readConjuncts,
    result_readTerm_skipBlanks]

theorem run?_filter (self : Cursor) :
    (self.filter.run? 0).map (·.map Prod.fst) = some (parse self.text) := by
  have hs : self.text.toList <:+ self.text.toList := List.suffix_refl _
  have hblanks : skipBlanks self.text.toList <:+ self.text.toList := skipBlanks_suffix _
  have hdisjunction := yields_disjunction hblanks
  rw [disjunctionResult, disjunctsResult, result_readDisjuncts_skipBlanks] at hdisjunction
  rw [← place_toList self.text, filter, (yields_skipBlanks hs).bind_eq,
    (yields_atEnd hblanks).bind_eq, parse, ofChars]
  by_cases hempty : skipBlanks self.text.toList = []
  · rw [decide_eq_true hempty, if_pos hempty]
    rfl
  rw [decide_eq_false hempty, if_neg hempty, if_neg Bool.false_ne_true]
  cases hread : readDisjuncts self.text.toList with
  | error f =>
    rw [hread] at hdisjunction
    exact congrArg (Option.map _) hdisjunction.bind_error
  | ok p =>
    have hrest : p.rest <:+ self.text.toList :=
      suffix_of_read (k := .disjuncts) (congrArg Outcome.result hread)
    have hend := (skipBlanks_suffix p.rest).trans hrest
    rw [hread] at hdisjunction
    rw [hdisjunction.bind_eq, (yields_skipBlanks hend).bind_eq, skipBlanks_skipBlanks,
      (yields_atEnd hend).bind_eq]
    cases hleft : skipBlanks p.rest with
    | nil =>
      simp only [hleft]
      rfl
    | cons c left =>
      rw [hleft] at hend
      have hword : self.nextWord.Yields self.text (c :: left)
          (.ok (String.ofList ((c :: left).takeWhile (!isBlank ·)), c :: left)) := by
        have hself : skipBlanks (c :: left) = c :: left := hleft ▸ skipBlanks_skipBlanks p.rest
        have hread := (yields_remaining hend).map
          (g := fun s => String.ofList ((skipBlanks s).takeWhile (!isBlank ·)))
        rw [Except.map, hself] at hread
        exact hread
      have hfail := hword.bind
        (f := fun token => self.failHere (α := Expr) (.unexpectedToken token))
        (yields_failHere hend)
      simp only [hleft]
      exact congrArg (Option.map _) hfail

/-- Read by positions a filter text is what it is when it is read from its characters: the reading
    ends, and the text is sliced at boundaries only. -/
theorem parse?_eq (text : String) : parse? text = some (parse text) :=
  run?_filter ⟨text⟩

end ContentFilter.Expr.Cursor
