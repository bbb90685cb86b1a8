import ContentFilter.Proofs.Grammar
import ContentFilter.Proofs.Spelling
import ContentFilter.Proofs.StringLiteral

/-!
# What is left of a text

The readers take something off the front of a text and leave the rest as it is: what is left of a
text is one of its ends.
-/

namespace ContentFilter.Expr

open Text

/-! ## Lexemes -/

theorem suffix_of_skipBlanks_eq_cons {s r : List Char} {c : Char} (h : skipBlanks s = c :: r) :
    c :: r <:+ s :=
  h ▸ skipBlanks_suffix s

theorem suffix_of_afterPrefix? {f s r : List Char} (h : afterPrefix? f s = some r) : r <:+ s :=
  ⟨f, (eq_append_of_afterPrefix?_eq_some h).symm⟩

theorem suffix_of_afterKeyword? {word s r : List Char} (h : afterKeyword? word s = some r) :
    r <:+ s := by
  obtain ⟨hafter, -⟩ := Option.filter_eq_some_iff.mp h
  obtain ⟨w, hs, -⟩ := afterWord?_eq_some_iff.mp hafter
  exact ⟨w, hs.symm⟩

theorem suffix_of_afterPhrase? {words : List (List Char)} {s r : List Char}
    (h : afterPhrase? words s = some r) : r <:+ s := by
  fun_induction afterPhrase? words s generalizing r with
  | case1 s =>
    cases h
    exact List.suffix_refl s
  | case2 word s => exact suffix_of_afterKeyword? h
  | case3 word words s hne ih =>
    obtain ⟨t, ht, hr⟩ := Option.bind_eq_some_iff.mp h
    rw [Option.ite_none_right_eq_some] at hr
    exact (ih _ hr.2).trans ((skipBlanks_suffix t).trans (suffix_of_afterKeyword? ht))

/-- What follows a connective, written as a symbol or as a word. -/
theorem suffix_of_connective {symbol word s r : List Char}
    (h : (afterPrefix? symbol s).or (afterKeyword? word s) = some r) : r <:+ s := by
  rcases Option.or_eq_some_iff.mp h with h | ⟨-, h⟩
  · exact suffix_of_afterPrefix? h
  · exact suffix_of_afterKeyword? h

theorem suffix_of_afterOr? {s r : List Char} (h : afterOr? s = some r) : r <:+ s := by
  rw [afterOr?_eq] at h
  exact suffix_of_connective h

theorem suffix_of_afterAnd? {s r : List Char} (h : afterAnd? s = some r) : r <:+ s := by
  rw [afterAnd?_eq] at h
  exact suffix_of_connective h

theorem suffix_of_readOperator? {s r : List Char} {op : Operator}
    (h : readOperator? s = some (op, r)) : r <:+ s := by
  rw [readOperator?_eq] at h
  rcases Option.or_eq_some_iff.mp h with h | ⟨-, h⟩
  · obtain ⟨x, -, hx⟩ := List.exists_of_findSome?_eq_some h
    obtain ⟨t, ht, heq⟩ := Option.map_eq_some_iff.mp hx
    cases heq
    exact suffix_of_afterPrefix? ht
  · obtain ⟨x, -, hx⟩ := List.exists_of_findSome?_eq_some h
    obtain ⟨t, ht, heq⟩ := Option.map_eq_some_iff.mp hx
    cases heq
    exact suffix_of_afterPhrase? ht

theorem takeNumberTail_suffix (s : List Char) : (takeNumberTail s).2 <:+ s :=
  ⟨_, takeNumberTail_append s⟩

theorem takeSeconds_suffix (s : List Char) : (takeSeconds s).2 <:+ s :=
  ⟨_, takeSeconds_append s⟩

theorem takeZone_suffix (s : List Char) : (takeZone s).2 <:+ s :=
  ⟨_, takeZone_append s⟩

theorem takeDate_suffix (s : List Char) : (takeDate s).2 <:+ s := by
  have hdate : s.drop 10 <:+ s := List.drop_suffix 10 s
  have hseconds : (takeSeconds ((s.drop 10).drop 6)).2 <:+ s :=
    (takeSeconds_suffix _).trans ((List.drop_suffix 6 _).trans hdate)
  simp only [takeDate]
  split
  · split
    · exact hseconds
    · exact (takeZone_suffix _).trans hseconds
  · exact hdate

/-! ## Phrases -/

/-- What follows a phrase is an end of the text that the phrase stands at the front of. -/
theorem Reads.suffix {k : Phrase} {s : List Char} {es : List Expr} {t : List Char}
    (h : Reads k s es t) : t <:+ s := by
  have hrest : ∀ {s r t : List Char} {c : Char}, skipBlanks s = c :: r → t <:+ r → t <:+ s :=
    fun hs ht => (ht.trans (List.suffix_cons _ _)).trans (suffix_of_skipBlanks_eq_cons hs)
  have hwhole : ∀ {s r t : List Char} {c : Char}, skipBlanks s = c :: r → t <:+ c :: r → t <:+ s :=
    fun hs ht => ht.trans (suffix_of_skipBlanks_eq_cons hs)
  induction h with
  | @text s r cs t c hs hc h =>
    obtain ⟨body, rfl, -⟩ := (result_readString_eq_ok_iff (backslash_ne hc)).mp h
    exact hrest hs ((List.suffix_cons _ _).trans (List.suffix_append _ _))
  | bracketed hs hpath => exact hrest hs ((List.suffix_cons _ _).trans (List.suffix_append _ _))
  | argument hs hr => exact hrest hs (List.dropWhile_suffix _)
  | date hs hc hshape => exact hwhole hs (takeDate_suffix _)
  | number hs hdate hc => exact hrest hs (takeNumberTail_suffix _)
  | word hs hc hopen => exact hwhole hs (List.dropWhile_suffix _)
  | call hs hc hword hopen h ih =>
    exact hwhole hs ((hrest hopen ih).trans (List.dropWhile_suffix _))
  | close hs => exact hrest hs (List.suffix_refl _)
  | comma hs h ih => exact hrest hs ih
  | more hs hc hcomma he h ihe ih => exact ih.trans ihe
  | parentheses hs h ht ih =>
    exact hrest hs ((hrest ht (List.suffix_refl _)).trans ih)
  | comparison hs hleft hop hright ihl ihr =>
    have hoperator := (suffix_of_readOperator? hop).trans (skipBlanks_suffix _)
    exact ihr.trans (hoperator.trans ihl)
  | lastConjunct h ht ih => exact ih
  | conjunct h hr hes ih ihs =>
    exact ihs.trans (((suffix_of_afterAnd? hr).trans (skipBlanks_suffix _)).trans ih)
  | lastDisjunct h ht ih => exact ih
  | disjunct h hr hes ih ihs =>
    exact ihs.trans (((suffix_of_afterOr? hr).trans (skipBlanks_suffix _)).trans ih)

theorem suffix_of_read {k : Phrase} {s t : List Char} {es : List Expr}
    (h : k.read s = .ok (es, t)) : t <:+ s :=
  (read_eq_ok_iff.mp h).suffix

theorem suffix_of_readValue {s t : List Char} {e : Expr} (h : (readValue s).result = .ok (e, t)) :
    t <:+ s := by
  have hread : Phrase.value.read s = .ok ([e], t) := by
    rw [Phrase.read, h]
    rfl
  exact suffix_of_read hread

theorem suffix_of_readTerm {s t : List Char} {e : Expr} (h : (readTerm s).result = .ok (e, t)) :
    t <:+ s := by
  have hread : Phrase.term.read s = .ok ([e], t) := by
    rw [Phrase.read, h]
    rfl
  exact suffix_of_read hread

end ContentFilter.Expr
