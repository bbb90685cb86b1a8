import ContentFilter.Filter.Compile
import ContentFilter.Proofs.Grammar
import ContentFilter.Proofs.Literal

/-!
# Trees of filter texts are well-formed

`Expr` has more trees than filter texts denote. Here the well-formed ones are singled out:
predicates and operands stand where they belong, conjunctions and disjunctions have two operands at
least, and names and lexemes have the shape they are documented with. Every tree that the reader
returns is of this kind. The compiler relies on it without a check: `compileStrict?` is the compiler
that gives up where `compile` falls back on a node in the wrong place, and on trees of filter texts
the two agree.
-/

namespace ContentFilter.Expr

open Text

/-! ## Names -/

/-- A word: one or more identifier characters. -/
structure IsWord (s : List Char) : Prop where
  ne_nil : s ≠ []
  isWordChar : ∀ c ∈ s, isWordChar c = true

/-- The name of a function: a word that begins like one and is no literal in any case. -/
structure IsFunctionName (s : List Char) : Prop where
  word : IsWord s
  start : startsWith isWordStart s = true
  not_literal : s.map Char.toLower ∉ ["null".toList, "true".toList, "false".toList]

/-- The path of a property: no closing bracket in it and no blank at its ends. -/
structure IsPath (s : List Char) : Prop where
  no_bracket : ']' ∉ s
  start : startsWith isBlank s = false
  last : startsWith isBlank s.reverse = false

/-! ## Well-formed trees -/

/-- A well-formed operand. -/
inductive IsOperand : Expr → Prop where
  | call {name : String} {es : List Expr} (hname : IsFunctionName name.toList)
      (hes : ∀ e ∈ es, IsOperand e) : IsOperand (.call name es)
  | property {path : String} (h : IsPath path.toList) : IsOperand (.property path)
  | number {lexeme : String} (h : IsNumber lexeme.toList) : IsOperand (.number lexeme)
  | null : IsOperand .null
  | date {lexeme : String} (h : IsDate lexeme.toList) : IsOperand (.date lexeme)
  | localTime {lexeme : String} (h : IsLocalTime lexeme.toList) : IsOperand (.localTime lexeme)
  | offsetTime {lexeme : String} (h : IsOffsetTime lexeme.toList) :
      IsOperand (.offsetTime lexeme)
  | argument {name : String} (h : IsWord name.toList) : IsOperand (.argument name)
  | text (s : String) : IsOperand (.text s)

/-- A well-formed filter: a predicate whose conjunctions and disjunctions have two operands at
    least. -/
inductive IsFilter : Expr → Prop where
  | all {es : List Expr} (hlen : 2 ≤ es.length) (hes : ∀ e ∈ es, IsFilter e) : IsFilter (.all es)
  | any {es : List Expr} (hlen : 2 ≤ es.length) (hes : ∀ e ∈ es, IsFilter e) : IsFilter (.any es)
  | compare {op : Operator} {left right : Expr} (hleft : IsOperand left)
      (hright : IsOperand right) : IsFilter (.compare op left right)

/-! ## Lexemes that are read -/

theorem isOperand_takeDate {s : List Char} (h : hasShape dateShape s = true) :
    (takeDate s).1.IsOperand := by
  have hdate : IsDate (s.take 10) := fits_take h
  simp only [takeDate]
  split
  · rename_i htime
    have hseconds := isSeconds_takeSeconds ((s.drop 10).drop 6)
    have hlocal := IsLocalTime.mk hdate (.mk (fits_take htime) hseconds)
    rw [← List.append_assoc] at hlocal
    split
    · refine .localTime ?_
      rw [String.toList_ofList]
      exact hlocal
    · rename_i hzone
      refine .offsetTime ?_
      rw [String.toList_ofList]
      exact .mk hlocal (isZone_takeZone hzone)
  · refine .date ?_
    rw [String.toList_ofList]
    exact hdate

theorem isWord_takeWhile {s : List Char} (h : s.takeWhile isWordChar ≠ []) :
    IsWord (s.takeWhile isWordChar) :=
  ⟨h, fun _ hc => List.mem_takeWhile_imp hc⟩

theorem isLiteralWord_eq_true_iff {word : List Char} :
    isLiteralWord word = true ↔
      word.map Char.toLower ∈ ["null".toList, "true".toList, "false".toList] := by
  unfold isLiteralWord
  split <;> simp_all

/-- The word of a call names a function. -/
theorem isFunctionName_takeWhile {c : Char} {r : List Char} (hc : isWordStart c = true)
    (h : isLiteralWord ((c :: r).takeWhile isWordChar) = false) :
    IsFunctionName ((c :: r).takeWhile isWordChar) := by
  have htake : (c :: r).takeWhile isWordChar = c :: r.takeWhile isWordChar :=
    List.takeWhile_cons_of_pos (isWordChar_of_isWordStart hc)
  refine ⟨isWord_takeWhile ?_, ?_, ?_⟩
  · rw [htake]
    exact List.cons_ne_nil _ _
  · rw [htake]
    exact hc
  · intro hmem
    rw [isLiteralWord_eq_true_iff.mpr hmem] at h
    cases h

theorem startsWith_of_prefix {p : Char → Bool} {s t : List Char} (h : s <+: t)
    (ht : startsWith p t = false) : startsWith p s = false := by
  obtain ⟨u, rfl⟩ := h
  cases s with
  | nil => rfl
  | cons c s => exact ht

/-- Trimming leaves the path of a property. -/
theorem isPath_trimBlanks {path : List Char} (h : ']' ∉ path) : IsPath (trimBlanks path) := by
  have hfront : trimBlanks path <+: skipBlanks path := by
    rw [trimBlanks, ← List.reverse_suffix, List.reverse_reverse]
    exact skipBlanks_suffix _
  refine ⟨?_, ?_, ?_⟩
  · intro hmem
    exact h ((skipBlanks_suffix path).subset (hfront.subset hmem))
  · exact startsWith_of_prefix hfront (startsWith_dropWhile isBlank path)
  · rw [trimBlanks, List.reverse_reverse]
    exact startsWith_dropWhile isBlank _

theorem startsWith_isBlank_of_isWordChar {s : List Char} (h : ∀ c ∈ s, isWordChar c = true) :
    startsWith isBlank s = false := by
  cases s with
  | nil => rfl
  | cons c s => exact isBlank_of_isWordChar (h c (by simp))

/-- A word is the path of a property. -/
theorem IsWord.isPath {s : List Char} (h : IsWord s) : IsPath s := by
  refine ⟨?_, startsWith_isBlank_of_isWordChar h.isWordChar, ?_⟩
  · intro hmem
    have hbracket := h.isWordChar _ hmem
    revert hbracket
    decide
  · refine startsWith_isBlank_of_isWordChar fun c hc => h.isWordChar c ?_
    exact List.mem_reverse.mp hc

theorem isOperand_wordOperand {word : List Char} (h : IsWord word) :
    (wordOperand word).IsOperand := by
  unfold wordOperand
  split
  · exact .null
  · exact .text _
  · exact .text _
  · refine .property ?_
    rw [String.toList_ofList]
    exact h.isPath

/-! ## Trees that are read -/

/-- What a phrase denotes: operands, or at least one filter. -/
def Phrase.Yields : Phrase → List Expr → Prop
  | value, es | arguments _, es => ∀ e ∈ es, e.IsOperand
  | term, es | conjuncts, es | disjuncts, es => es ≠ [] ∧ ∀ e ∈ es, e.IsFilter

/-- Filters that are joined are a filter. -/
theorem isFilter_joinOperands {join : List Expr → Expr}
    (hjoin : ∀ {es : List Expr}, 2 ≤ es.length → (∀ e ∈ es, e.IsFilter) → (join es).IsFilter)
    {es : List Expr} (hne : es ≠ []) (hes : ∀ e ∈ es, e.IsFilter) :
    (joinOperands join es).IsFilter := by
  rcases es with - | ⟨e₁, - | ⟨e₂, es⟩⟩
  · exact absurd rfl hne
  · exact hes e₁ (by simp)
  · exact hjoin (by simp) hes

/-- The rules of the grammar build well-formed trees from well-formed ones. -/
theorem Reads.yields {k : Phrase} {s : List Char} {es : List Expr} {t : List Char}
    (h : Reads k s es t) : k.Yields es := by
  induction h with
  | text => exact List.forall_mem_singleton.mpr (.text _)
  | bracketed hs hpath =>
    refine List.forall_mem_singleton.mpr (.property ?_)
    rw [String.toList_ofList]
    exact isPath_trimBlanks hpath
  | argument hs hr =>
    refine List.forall_mem_singleton.mpr (.argument ?_)
    rw [String.toList_ofList]
    exact isWord_takeWhile hr
  | date hs hc hshape => exact List.forall_mem_singleton.mpr (isOperand_takeDate hshape)
  | number hs hdate hc =>
    refine List.forall_mem_singleton.mpr (.number ?_)
    rw [String.toList_ofList]
    exact isNumber_takeNumberTail hc
  | word hs hc hopen =>
    refine List.forall_mem_singleton.mpr (isOperand_wordOperand (isWord_takeWhile ?_))
    rw [List.takeWhile_cons_of_pos (isWordChar_of_isWordStart hc)]
    exact List.cons_ne_nil _ _
  | call hs hc hword hopen h ih =>
    refine List.forall_mem_singleton.mpr (.call ?_ ih)
    rw [String.toList_ofList]
    exact isFunctionName_takeWhile hc hword
  | close hs => exact List.forall_mem_nil _
  | comma hs h ih => exact ih
  | more hs hc hcomma he h ih ih' =>
    exact List.forall_mem_cons.mpr ⟨List.forall_mem_singleton.mp ih, ih'⟩
  | parentheses hs h ht ih =>
    exact ⟨List.cons_ne_nil _ _,
      List.forall_mem_singleton.mpr (isFilter_joinOperands .any ih.1 ih.2)⟩
  | comparison hs hleft hop hright ih ih' =>
    refine ⟨List.cons_ne_nil _ _, List.forall_mem_singleton.mpr ?_⟩
    exact .compare (List.forall_mem_singleton.mp ih) (List.forall_mem_singleton.mp ih')
  | lastConjunct h ht ih => exact ih
  | conjunct h hr hes ih ih' =>
    exact ⟨List.cons_ne_nil _ _,
      List.forall_mem_cons.mpr ⟨List.forall_mem_singleton.mp ih.2, ih'.2⟩⟩
  | lastDisjunct h ht ih =>
    exact ⟨List.cons_ne_nil _ _,
      List.forall_mem_singleton.mpr (isFilter_joinOperands .all ih.1 ih.2)⟩
  | disjunct h hr hes ih ih' =>
    exact ⟨List.cons_ne_nil _ _,
      List.forall_mem_cons.mpr ⟨isFilter_joinOperands .all ih.1 ih.2, ih'.2⟩⟩

/-- What a filter text denotes is a well-formed filter. -/
theorem isFilter_of_parse {text : String} {e : Expr} (h : parse text = .ok e) : e.IsFilter := by
  obtain ⟨es, t, hreads, -, rfl⟩ := parse_eq_ok_iff.mp h
  obtain ⟨hne, hes⟩ := hreads.yields
  exact isFilter_joinOperands .any hne hes

end ContentFilter.Expr

/-! ## Compiling without fallbacks -/

namespace ContentFilter.Context

open ContentFilter.Expr

mutual

/-- Compiles an operand, none for a predicate. -/
def compileValueStrict? (c : Context) : Expr → Option Provider
  | .call name arguments => (compileValuesStrict? c arguments).map (c.callProvider name)
  | .all _ | .any _ | .compare _ _ _ => none
  | e => some (c.compileValue e)

/-- Compiles operands, none if there is a predicate. -/
def compileValuesStrict? (c : Context) : List Expr → Option (List Provider)
  | [] => some []
  | e :: es =>
    (compileValueStrict? c e).bind fun p => (compileValuesStrict? c es).map (p :: ·)

end

mutual

/-- Compiles a predicate, none for an operand, an empty conjunction or an empty disjunction. -/
def compileStrict? (c : Context) : Expr → Option Predicate
  | .all [] | .any [] => none
  | .all [e] | .any [e] => compileStrict? c e
  | .all es => (compileAllStrict? c es).map .all
  | .any es => (compileAllStrict? c es).map .any
  | .compare op left right =>
    (c.compileValueStrict? left).bind fun l =>
      (c.compileValueStrict? right).map fun r => .comparison op l r
  | _ => none

/-- Compiles predicates, none if there is an operand. -/
def compileAllStrict? (c : Context) : List Expr → Option (List Predicate)
  | [] => some []
  | e :: es => (compileStrict? c e).bind fun p => (compileAllStrict? c es).map (p :: ·)

end

theorem compileValuesStrict?_of_forall {c : Context} {es : List Expr}
    (h : ∀ e ∈ es, c.compileValueStrict? e = some (c.compileValue e)) :
    c.compileValuesStrict? es = some (c.compileValues es) := by
  induction es with
  | nil => rw [compileValuesStrict?, compileValues]
  | cons e es ih =>
    have he := h e (by simp)
    have hes := ih fun e' he' => h e' (by simp [he'])
    rw [compileValuesStrict?, compileValues, he, hes]
    rfl

theorem compileAllStrict?_of_forall {c : Context} {es : List Expr}
    (h : ∀ e ∈ es, c.compileStrict? e = some (c.compile e)) :
    c.compileAllStrict? es = some (c.compileAll es) := by
  induction es with
  | nil => rw [compileAllStrict?, compileAll]
  | cons e es ih =>
    have he := h e (by simp)
    have hes := ih fun e' he' => h e' (by simp [he'])
    rw [compileAllStrict?, compileAll, he, hes]
    rfl

/-- A well-formed operand compiles without a fallback. -/
theorem compileValueStrict?_of_isOperand (c : Context) {e : Expr} (h : e.IsOperand) :
    c.compileValueStrict? e = some (c.compileValue e) := by
  induction h with
  | call hname hes ih =>
    rw [compileValueStrict?, compileValue, compileValuesStrict?_of_forall ih]
    rfl
  | property | number | null | date | localTime | offsetTime | argument | text => rfl

/-- A well-formed filter compiles without a fallback. -/
theorem compileStrict?_of_isFilter (c : Context) {e : Expr} (h : e.IsFilter) :
    c.compileStrict? e = some (c.compile e) := by
  induction h with
  | @all es hlen hes ih =>
    rcases es with - | ⟨e₁, - | ⟨e₂, es⟩⟩
    · exact absurd hlen (by simp)
    · exact absurd hlen (by simp)
    · show (c.compileAllStrict? (e₁ :: e₂ :: es)).map Predicate.all = _
      rw [compileAllStrict?_of_forall ih]
      rfl
  | @any es hlen hes ih =>
    rcases es with - | ⟨e₁, - | ⟨e₂, es⟩⟩
    · exact absurd hlen (by simp)
    · exact absurd hlen (by simp)
    · show (c.compileAllStrict? (e₁ :: e₂ :: es)).map Predicate.any = _
      rw [compileAllStrict?_of_forall ih]
      rfl
  | compare hleft hright =>
    rw [compileStrict?, compile, compileValueStrict?_of_isOperand c hleft,
      compileValueStrict?_of_isOperand c hright]
    rfl

/-- The tree of a filter text is a well-formed filter, and it compiles without a fallback whatever
    the context. -/
theorem compileStrict?_of_parse {text : String} {e : Expr} (h : parse text = .ok e) :
    e.IsFilter ∧ ∀ c : Context, c.compileStrict? e = some (c.compile e) := by
  have hfilter := isFilter_of_parse h
  exact ⟨hfilter, fun c => compileStrict?_of_isFilter c hfilter⟩

theorem compileStrict?_of_parse_disjunction :
    let e : Expr := .any [.compare .lessEqual (.property "b") (.number "-1"),
      .compare .equal (.property "a") .null]
    parse "[ b ] <= -1 or a = null" = .ok e ∧ e.IsFilter ∧
      ∀ c : Context, c.compileStrict? e = some (c.compile e) := by
  intro e
  have hb : Reads .value "[ b ] <= -1 or a = null".toList [.property "b"]
      " <= -1 or a = null".toList :=
    @Reads.bracketed _ " b ".toList _ rfl (by decide)
  have hnumber : Reads .value " -1 or a = null".toList [.number "-1"] " or a = null".toList :=
    .number (c := '-') (r := "1 or a = null".toList) rfl (by decide) (by decide)
  have hfirst : Reads .term "[ b ] <= -1 or a = null".toList
      [.compare .lessEqual (.property "b") (.number "-1")] " or a = null".toList :=
    .comparison (by rintro r ⟨⟩) hb rfl hnumber
  have ha : Reads .value " a = null".toList [.property "a"] " = null".toList :=
    .word (c := 'a') (r := " = null".toList) rfl rfl (by rintro - r ⟨⟩)
  have hnull : Reads .value " null".toList [.null] [] :=
    .word (c := 'n') (r := "ull".toList) rfl rfl (by rintro - r ⟨⟩)
  have hsecond : Reads .term " a = null".toList [.compare .equal (.property "a") .null] [] :=
    .comparison (by rintro r ⟨⟩) ha rfl hnull
  have hreads : Reads .disjuncts "[ b ] <= -1 or a = null".toList [_, _] [] :=
    .disjunct (.lastConjunct hfirst rfl) rfl (.lastDisjunct (.lastConjunct hsecond rfl) rfl)
  have h : parse "[ b ] <= -1 or a = null" = .ok e :=
    parse_eq_ok_iff.mpr ⟨_, [], hreads, rfl, rfl⟩
  exact ⟨h, compileStrict?_of_parse h⟩

end ContentFilter.Context
