import ContentFilter.Proofs.RoundTrip

/-!
# Commas between arguments

Arguments are kept apart by blanks and commas. The documented rule has at most one comma between two
arguments and none before the first or after the last one. What the readers ask for is less: only
before the first argument there must be no comma. The main statement `parse_call_eq_ok_iff` says so
of lists of any length whose arguments are written in any of their ways; the arguments come out as
they were written down, in order.
-/

namespace ContentFilter.Expr

open Text

/-! ## Lists of arguments -/

/-- Commas and blanks. -/
def IsSeparator (s : List Char) : Prop :=
  ∀ c ∈ s, c = ',' ∨ isBlank c = true

instance (s : List Char) : Decidable (IsSeparator s) :=
  inferInstanceAs (Decidable (∀ c ∈ s, c = ',' ∨ isBlank c = true))

/-- An argument in one of its ways to be written, and what stands between it and the next one or the
    closing parenthesis. -/
structure Argument where
  value : Expr
  isOperand : value.IsOperand
  text : List Char
  ends : Bool
  renders : Renders (.operand value) text ends
  separator : List Char
  isSeparator : IsSeparator separator

/-- The text of the arguments with their separators. -/
def argumentsText (arguments : List Argument) : List Char :=
  arguments.flatMap fun a => a.text ++ a.separator

/-- A call: the name and, in parentheses, what stands before the first argument and the
    arguments. -/
def callText (name : String) (before : List Char) (arguments : List Argument) : List Char :=
  name.toList ++ '(' :: (before ++ (argumentsText arguments ++ [')']))

/-- The text of a call compared with the number one, with the gaps around the operator. -/
def comparedText (name : String) (before : List Char) (arguments : List Argument)
    (g g' : List Char) : String :=
  String.ofList (callText name before arguments ++ (g ++ '=' :: (g' ++ ['1'])))

/-- The documented rule: at most one comma between two arguments and no others. -/
structure FollowsRule (before : List Char) (arguments : List Argument) : Prop where
  first : ',' ∉ before
  inner : ∀ a ∈ arguments.dropLast, a.separator.count ',' ≤ 1
  last : ∀ a ∈ arguments.getLast?, ',' ∉ a.separator

/-! ## Reading the list -/

section Reading

variable {s t : List Char} {es : List Expr}

/-- Once there is an argument, commas and blanks make no difference. -/
theorem Reads.separator (h : Reads (.arguments true) s es t) {g : List Char} (hg : IsSeparator g) :
    Reads (.arguments true) (g ++ s) es t := by
  induction g with
  | nil => exact h
  | cons c g ih =>
    have hrest := ih fun d hd => hg d (List.mem_cons_of_mem c hd)
    rcases hg c List.mem_cons_self with rfl | hc
    · exact .comma rfl hrest
    · exact hrest.of_skipBlanks_eq (skipBlanks_cons_of_blank hc (g ++ s))

/-- A separator ends every operand. -/
theorem follows_of_isSeparator {g : List Char} (hg : IsSeparator g) (hne : g ≠ []) (ends : Bool) :
    Follows ends (g ++ s) := by
  cases g with
  | nil => exact absurd rfl hne
  | cons c g =>
    rcases hg c List.mem_cons_self with rfl | hc
    · exact ⟨rfl, fun _ => rfl⟩
    · exact .of_blank hc

/-- What stands after an argument does not go on with it, if only the last one may have nothing
    after it. -/
theorem Argument.follows {a : Argument} {rest : List Argument}
    (hinner : ∀ b ∈ (a :: rest).dropLast, b.separator ≠ []) (t : List Char) :
    Follows a.ends (a.separator ++ (argumentsText rest ++ ')' :: t)) := by
  by_cases hne : a.separator = []
  · cases rest with
    | nil =>
      rw [hne]
      exact .closing a.ends (show IsGap [] by decide)
    | cons => exact absurd hne (hinner a List.mem_cons_self)
  · exact follows_of_isSeparator a.isSeparator hne a.ends

/-- The arguments are read up to the closing parenthesis. -/
theorem reads_argumentsText {arguments : List Argument}
    (hinner : ∀ a ∈ arguments.dropLast, a.separator ≠ []) (started : Bool) (t : List Char) :
    Reads (.arguments started) (argumentsText arguments ++ ')' :: t)
      (arguments.map Argument.value) t := by
  induction arguments generalizing started with
  | nil => exact .close rfl
  | cons a rest ih =>
    have hrest : ∀ b ∈ rest.dropLast, b.separator ≠ [] := by
      intro b hb
      refine hinner b ?_
      cases rest with
      | nil => cases hb
      | cons => exact List.mem_cons_of_mem a hb
    have hvalue := a.renders.readsBack a.isOperand _ (Argument.follows hinner t)
    have hstart := startsWith_of_renders a.renders a.isOperand
    rw [argumentsText, List.flatMap_cons, ← argumentsText, List.append_assoc, List.append_assoc]
    have hmore : Reads (.arguments started) ([] ++ (a.text ++ _)) _ t :=
      reads_more (by decide) hstart hvalue ((ih hrest true).separator a.isSeparator)
    exact hmore

/-- A value begins like an operand. -/
theorem startsWith_of_reads_value (h : Reads .value s es t) :
    startsWith isOperandStart (skipBlanks s) = true := by
  cases h with
  | text hs hc h =>
    rw [hs]
    rcases hc with rfl | rfl
    · rfl
    · rfl
  | bracketed hs hpath =>
    rw [hs]
    rfl
  | argument hs hr =>
    rw [hs]
    rfl
  | date hs hc hshape =>
    rw [hs]
    exact isOperandStart_eq_true_iff.mpr (.inr (.inl hc))
  | number hs hdate hc =>
    rw [hs]
    rcases hc with hc | ⟨rfl | rfl, -⟩
    · exact isOperandStart_eq_true_iff.mpr (.inr (.inl hc))
    · rfl
    · rfl
  | word hs hc hopen =>
    rw [hs]
    exact isOperandStart_eq_true_iff.mpr (.inr (.inr hc))
  | call hs hc hword hopen h =>
    rw [hs]
    exact isOperandStart_eq_true_iff.mpr (.inr (.inr hc))

theorem exists_skipBlanks_eq_comma {g : List Char} (hg : IsSeparator g) (hcomma : ',' ∈ g)
    (s : List Char) : ∃ r, skipBlanks (g ++ s) = ',' :: r := by
  induction g with
  | nil => cases hcomma
  | cons c g ih =>
    by_cases hc : c = ','
    · subst hc
      exact ⟨g ++ s, rfl⟩
    · have hblank : isBlank c = true := (hg c List.mem_cons_self).resolve_left hc
      have hrest : ',' ∈ g := (List.mem_cons.mp hcomma).resolve_left (Ne.symm hc)
      rw [List.cons_append, skipBlanks_cons_of_blank hblank]
      exact ih (fun d hd => hg d (List.mem_cons_of_mem c hd)) hrest

/-- There is no comma before the first argument. -/
theorem comma_not_mem_of_reads {before : List Char} (hbefore : IsSeparator before)
    (h : Reads (.arguments false) (before ++ s) es t) : ',' ∉ before := by
  intro hcomma
  obtain ⟨r, hr⟩ := exists_skipBlanks_eq_comma hbefore hcomma s
  cases h with
  | close hs =>
    rw [hr] at hs
    cases hs
  | more hs hc hnot he h =>
    have hstart := startsWith_of_reads_value he
    rw [hr] at hstart
    cases hstart

end Reading

/-! ## Calls -/

/-- A disjunction that begins with no parenthesis begins with a value. -/
theorem Reads.exists_value {s t : List Char} {es : List Expr} (h : Reads .disjuncts s es t)
    (hs : ∀ r, skipBlanks s ≠ '(' :: r) : ∃ e r, Reads .value s [e] r := by
  have hterm : ∀ {e : Expr} {r : List Char}, Reads .term s [e] r → ∃ e r, Reads .value s [e] r := by
    intro e r h
    cases h with
    | parentheses hopen h ht => exact absurd hopen (hs _)
    | comparison hnot hleft hop hright => exact ⟨_, _, hleft⟩
  have hconjuncts : ∀ {es : List Expr} {r : List Char}, Reads .conjuncts s es r →
      ∃ e r, Reads .value s [e] r := by
    intro es r h
    cases h with
    | lastConjunct h ht => exact hterm h
    | conjunct h hr hes => exact hterm h
  cases h with
  | lastDisjunct h ht => exact hconjuncts h
  | disjunct h hr hes => exact hconjuncts h

theorem callText_append (name : String) (before : List Char) (arguments : List Argument)
    (t : List Char) : callText name before arguments ++ t =
      name.toList ++ ([] ++ '(' :: (before ++ (argumentsText arguments ++ ')' :: t))) := by
  simp [callText]

section Calls

variable {name : String} {before : List Char} {arguments : List Argument} {t : List Char}

/-- A call without a comma before its arguments is read. -/
theorem reads_callText (hname : IsFunctionName name.toList) (hbefore : IsSeparator before)
    (hinner : ∀ a ∈ arguments.dropLast, a.separator ≠ []) (hcomma : ',' ∉ before) :
    Reads .value (callText name before arguments ++ t)
      [.call name (arguments.map Argument.value)] t := by
  have hgap : IsGap before := by
    intro c hc
    refine (hbefore c hc).resolve_left ?_
    rintro rfl
    exact hcomma hc
  have hnone : IsGap [] := by decide
  rw [callText_append]
  exact reads_call hname hnone ((reads_argumentsText hinner false t).gap hgap)

/-- A call with a comma before its arguments is not read. -/
theorem comma_not_mem_of_reads_callText (hname : IsFunctionName name.toList)
    (hbefore : IsSeparator before) {es : List Expr} {u : List Char}
    (h : Reads .value (callText name before arguments ++ t) es u) : ',' ∉ before := by
  have hnone : IsGap [] := by decide
  rw [callText_append] at h
  obtain ⟨x, hread, -⟩ := map_eq_ok_iff.mp h.read_eq_ok
  rw [result_readValue_call hname hnone] at hread
  obtain ⟨⟨es', u'⟩, hargs, -⟩ := map_eq_ok_iff.mp hread
  exact comma_not_mem_of_reads hbefore (read_eq_ok_iff.mp hargs)

/-- A call begins with its name and not with a parenthesis. -/
theorem skipBlanks_callText (hname : IsFunctionName name.toList) (r : List Char) :
    skipBlanks (callText name before arguments ++ t) ≠ '(' :: r := by
  have hname_start : startsWith isOperandStart name.toList = true :=
    startsWith_mono (fun c hc => isOperandStart_eq_true_iff.mpr (.inr (.inr hc))) hname.start
  have hstart : startsWith isOperandStart (callText name before arguments ++ t) = true := by
    rwa [callText_append, startsWith_append_of_ne_nil hname.word.ne_nil]
  rw [skipBlanks_of_isOperandStart hstart]
  exact ne_cons_of_startsWith hstart rfl r

theorem isOperand_one : Expr.IsOperand (.number "1") := by
  have hdigits : IsDigits ['1'] := ⟨by decide, by decide⟩
  exact .number (.mk .none hdigits .none .none)

/-- A value is read on the left of a comparison with the number one. -/
theorem reads_compare_one {s g g' : List Char} {e : Expr} (hg : IsGap g) (hg' : IsGap g')
    (h : Reads .value s [e] (g ++ '=' :: (g' ++ ['1']))) :
    Reads .term s [.compare .equal e (.number "1")] [] := by
  have hrenders : Renders (.operand (.number "1")) ['1'] false := .number
  have hfollows : Follows false [] := ⟨rfl, nofun⟩
  have hends : EndsOperator (g' ++ (['1'] ++ [])) :=
    endsOperator_of_renders hrenders isOperand_one id hfollows hg'
  have hop : readOperator? (skipBlanks (g ++ '=' :: (g' ++ ['1']))) =
      some (.equal, g' ++ ['1']) := by
    rw [skipBlanks_gap hg]
    exact readOperator?_symbol (show "=" ∈ Operator.equal.symbols by decide) hends
  have hright : Reads .value (['1'] ++ []) [.number "1"] [] :=
    hrenders.readsBack isOperand_one [] hfollows
  have hopen : ∀ r, skipBlanks s ≠ '(' :: r :=
    ne_cons_of_startsWith (startsWith_of_reads_value h) rfl
  exact .comparison hopen h hop (hright.gap hg')

/-- A call without a comma before its arguments is read as one side of a comparison. -/
theorem parse_callText (hname : IsFunctionName name.toList) (hbefore : IsSeparator before)
    (hinner : ∀ a ∈ arguments.dropLast, a.separator ≠ []) (hcomma : ',' ∉ before)
    {g g' : List Char} (hg : IsGap g) (hg' : IsGap g') :
    parse (comparedText name before arguments g g') =
      .ok (.compare .equal (.call name (arguments.map Argument.value)) (.number "1")) := by
  refine parse_of_reads_term ?_
  rw [comparedText, String.toList_ofList]
  exact reads_compare_one hg hg' (reads_callText hname hbefore hinner hcomma)

end Calls

/-! ## Which separators are accepted -/

/-- A call compared with the number one is read exactly if there is no comma before its first
    argument, and its arguments are the ones that were written, in order. The documented rule is
    enough for that, but commas may also be repeated or stand after the last argument. -/
theorem parse_call_eq_ok_iff {name : String} (hname : IsFunctionName name.toList)
    {before : List Char} (hbefore : IsSeparator before) {arguments : List Argument}
    (hinner : ∀ a ∈ arguments.dropLast, a.separator ≠ []) {g g' : List Char} (hg : IsGap g)
    (hg' : IsGap g') {e : Expr} :
    parse (comparedText name before arguments g g') = .ok e ↔
      ',' ∉ before ∧
        e = .compare .equal (.call name (arguments.map Argument.value)) (.number "1") := by
  constructor
  · intro h
    obtain ⟨es, t, hreads, -, -⟩ := parse_eq_ok_iff.mp h
    rw [comparedText, String.toList_ofList] at hreads
    obtain ⟨left, u, hleft⟩ := hreads.exists_value (skipBlanks_callText hname)
    have hcomma := comma_not_mem_of_reads_callText hname hbefore hleft
    rw [parse_callText hname hbefore hinner hcomma hg hg', Except.ok.injEq] at h
    exact ⟨hcomma, h.symm⟩
  · rintro ⟨hcomma, rfl⟩
    exact parse_callText hname hbefore hinner hcomma hg hg'

/-- The number one as an argument. -/
def Argument.one (separator : List Char) (h : IsSeparator separator) : Argument where
  value := .number "1"
  isOperand := isOperand_one
  text := ['1']
  ends := false
  renders := .number
  separator := separator
  isSeparator := h

/-- Two arguments with a comma and blanks between them, and the same with a comma before them. -/
theorem parse_call_eq_ok_iff_two :
    let arguments := [Argument.one [' ', ',', ' '] (by decide), .one [] (by decide)]
    let call : Expr := .call "f" [.number "1", .number "1"]
    IsFunctionName "f".toList ∧ (∀ a ∈ arguments.dropLast, a.separator ≠ []) ∧
      IsSeparator [' '] ∧ IsSeparator [','] ∧ IsGap [' '] ∧
      parse (comparedText "f" [' '] arguments [' '] [' ']) =
        .ok (.compare .equal call (.number "1")) ∧
      ∀ e, parse (comparedText "f" [','] arguments [' '] [' ']) ≠ .ok e := by
  intro arguments call
  have hname : IsFunctionName "f".toList := ⟨⟨by decide, by decide⟩, by decide, by decide⟩
  have hinner : ∀ a ∈ arguments.dropLast, a.separator ≠ [] := by simp [arguments, Argument.one]
  have hblank : IsSeparator [' '] := by decide
  have hcomma : IsSeparator [','] := by decide
  have hgap : IsGap [' '] := by decide
  refine ⟨hname, hinner, hblank, hcomma, hgap, ?_, ?_⟩
  · exact (parse_call_eq_ok_iff hname hblank hinner hgap hgap).mpr ⟨by decide, rfl⟩
  · intro e h
    obtain ⟨hnot, -⟩ := (parse_call_eq_ok_iff hname hcomma hinner hgap hgap).mp h
    exact hnot List.mem_cons_self

/-- A comma after the last argument is read, which the documented rule does not have. -/
theorem not_forall_parse_call_iff_followsRule :
    ¬ ∀ (name : String) (before : List Char) (arguments : List Argument) (e : Expr),
      IsFunctionName name.toList → IsSeparator before →
      (∀ a ∈ arguments.dropLast, a.separator ≠ []) →
      (parse (comparedText name before arguments [' '] [' ']) = .ok e ↔
        FollowsRule before arguments ∧
          e = .compare .equal (.call name (arguments.map Argument.value)) (.number "1")) := by
  intro h
  have hname : IsFunctionName "f".toList := ⟨⟨by decide, by decide⟩, by decide, by decide⟩
  have hnone : IsSeparator [] := by decide
  have hgap : IsGap [' '] := by decide
  have hcomma : IsSeparator [','] := by decide
  have hinner : ∀ a ∈ [Argument.one [','] hcomma].dropLast, a.separator ≠ [] := nofun
  have hparse := parse_callText hname hnone hinner List.not_mem_nil hgap hgap
  obtain ⟨hrule, -⟩ := (h _ _ _ _ hname hnone hinner).mp hparse
  exact hrule.last _ rfl List.mem_cons_self

end ContentFilter.Expr
