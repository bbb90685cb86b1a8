import ContentFilter.Proofs.Rendering

/-!
# Trees are read back from their texts

Each lexeme ends where the next one begins, whatever blanks stand between them, and so every part
of a tree is read back in front of any text that does not go on with it. The induction is over the
rules of `Renders`; what has to follow a part is `Part.Follows`.
-/

namespace ContentFilter.Expr

open Text

/-! ## Operands are read back -/

/-- What stands after a lexeme and does not go on with it; `ends` says that the lexeme is a word. -/
structure Follows (ends : Bool) (x : List Char) : Prop where
  literal : startsWith isLiteralChar x = false
  word : ends = true → startsWith isWordChar x = false

theorem Reads.gap {k : Phrase} {g s : List Char} {es : List Expr} {t : List Char}
    (h : Reads k s es t) (hg : IsGap g) : Reads k (g ++ s) es t :=
  h.of_skipBlanks_eq (skipBlanks_gap hg s)

/-- A string is read back from its escaped characters. -/
theorem result_readString_escaped {q : Char} (hq : q = '\'' ∨ q = '"') (opening cs x : List Char) :
    (readString q opening (escaped q cs ++ q :: x)).result = .ok (cs, x) := by
  induction cs with
  | nil =>
    show (readString q opening (q :: x)).result = _
    rw [result_readString_cons, if_pos rfl]
  | cons c cs ih =>
    have hback : '\\' ≠ q := by
      rcases hq with rfl | rfl
      · decide
      · decide
    rw [escaped, List.flatMap_cons, ← escaped]
    by_cases hc : c = q ∨ c = '\\'
    · have hescape : readEscape? (c :: (escaped q cs ++ q :: x)) = some (.single c) := by
        rcases hc with rfl | rfl
        · rcases hq with rfl | rfl
          · rfl
          · rfl
        · rfl
      rw [if_pos hc]
      show (readString q opening ('\\' :: c :: (escaped q cs ++ q :: x))).result = _
      rw [result_readString_cons, if_neg hback, if_pos rfl, hescape]
      show ((readString q opening (escaped q cs ++ q :: x)).result.map _) = _
      rw [ih]
      rfl
    · rw [if_neg hc]
      rw [not_or] at hc
      show (readString q opening (c :: (escaped q cs ++ q :: x))).result = _
      rw [result_readString_cons, if_neg hc.1, if_neg hc.2, ih]
      rfl

section Operands

variable {x : List Char}

theorem reads_text {q : Char} (hq : q = '\'' ∨ q = '"') (s : String) :
    Reads .value (q :: (escaped q s.toList ++ q :: x)) [.text s] x := by
  have hblank : isBlank q = false := by
    rcases hq with rfl | rfl
    · rfl
    · rfl
  have hreads := Reads.text (skipBlanks_cons_of_not_blank hblank _) hq
    (result_readString_escaped hq _ s.toList x)
  rw [String.ofList_toList] at hreads
  exact hreads

theorem reads_null {w : List Char} (hw : InAnyCase "null" w)
    (hx : startsWith isWordChar x = false) : Reads .value (w ++ x) [.null] x := by
  have hkey := isKeyword_null
  have htake : (w ++ x).takeWhile isWordChar = w :=
    takeWhile_run (isWordChar_of_inAnyCase hkey hw) hx
  have hdrop : (w ++ x).dropWhile isWordChar = x := dropWhile_of_inAnyCase hkey hw hx
  have hliteral : isLiteralWord w = true :=
    isLiteralWord_eq_true_iff.mpr (by rw [show w.map Char.toLower = "null".toList from hw]; simp)
  have hoperand : wordOperand w = .null := by
    unfold wordOperand
    rw [show w.map Char.toLower = ['n', 'u', 'l', 'l'] from hw]
    rfl
  have hstart := startsWith_isWordStart_of_inAnyCase hkey hw
  rcases w with - | ⟨c, w⟩
  · cases hw
  have hskip : skipBlanks (c :: w ++ x) = c :: (w ++ x) :=
    skipBlanks_cons_of_not_blank (isBlank_of_isWordChar (isWordChar_of_isWordStart hstart)) _
  have hreads : Reads .value _ _ _ := .word hskip hstart (by
    rw [← List.cons_append, htake, hliteral]
    intro h
    cases h)
  rw [← List.cons_append, htake, hdrop, hoperand] at hreads
  exact hreads

theorem reads_argument {name : String} (h : IsWord name.toList)
    (hx : startsWith isWordChar x = false) :
    Reads .value ('$' :: (name.toList ++ x)) [.argument name] x := by
  have htake := takeWhile_run h.isWordChar hx
  have hne : (name.toList ++ x).takeWhile isWordChar ≠ [] := by
    rw [htake]
    exact h.ne_nil
  have hreads := Reads.argument (skipBlanks_cons_of_not_blank rfl (name.toList ++ x)) hne
  rw [htake, dropWhile_run h.isWordChar hx, String.ofList_toList] at hreads
  exact hreads

theorem trimBlanks_gaps {g g' path : List Char} (hg : IsGap g) (hg' : IsGap g')
    (hpath : IsPath path) : trimBlanks (g ++ (path ++ g')) = path := by
  have hend : skipBlanks (g'.reverse ++ path.reverse) = path.reverse := by
    rw [skipBlanks_gap fun c hc => hg' c (List.mem_reverse.mp hc),
      skipBlanks_of_startsWith hpath.last]
  rw [trimBlanks, skipBlanks_gap hg]
  cases hp : path with
  | nil =>
    have hnil : skipBlanks g' = [] := List.dropWhile_eq_nil_iff.mpr hg'
    rw [List.nil_append, hnil]
    rfl
  | cons c r =>
    have hstart : startsWith isBlank (c :: r ++ g') = false := by
      have := hpath.start
      rw [hp] at this
      exact this
    rw [skipBlanks_of_startsWith hstart, ← hp, List.reverse_append, hend, List.reverse_reverse]

theorem reads_property {path : String} {g g' : List Char} (hg : IsGap g) (hg' : IsGap g')
    (h : IsPath path.toList) :
    Reads .value ('[' :: (g ++ (path.toList ++ (g' ++ ']' :: x)))) [.property path] x := by
  have hgap : ∀ {g : List Char}, IsGap g → ']' ∉ g := by
    intro g hg hmem
    have := hg _ hmem
    revert this
    decide
  have hbracket : ']' ∉ g ++ (path.toList ++ g') := by
    simp only [List.mem_append, not_or]
    exact ⟨hgap hg, h.no_bracket, hgap hg'⟩
  have hskip : skipBlanks ('[' :: (g ++ (path.toList ++ (g' ++ ']' :: x)))) =
      '[' :: (g ++ (path.toList ++ g') ++ ']' :: x) := by
    rw [skipBlanks_cons_of_not_blank rfl]
    simp only [List.append_assoc]
  have hreads := Reads.bracketed hskip hbracket
  rw [trimBlanks_gaps hg hg' h, String.ofList_toList] at hreads
  exact hreads

theorem reads_number {lexeme : String} (h : IsNumber lexeme.toList)
    (hx : startsWith isLiteralChar x = false) :
    Reads .value (lexeme.toList ++ x) [.number lexeme] x := by
  have hdate := hasShape_dateShape_of_isNumber h
  rw [← hasShape_append_of_stop hx (by decide)] at hdate
  obtain ⟨c, l, hlexeme, htake, hc⟩ := h.exists_cons
  have hblank : isBlank c = false := by
    rcases hc with hc | ⟨rfl | rfl, -⟩
    · exact isBlank_of_isWordChar (isWordChar_of_isDigit hc)
    · rfl
    · rfl
  rw [hlexeme] at hdate
  have hnumber : c.isDigit = true ∨
      ((c = '-' ∨ c = '+') ∧ startsWith Char.isDigit (l ++ x) = true) := by
    rw [startsWith_append_of_stop (startsWith_isDigit_of_stop hx)]
    exact hc
  have hreads := Reads.number (skipBlanks_cons_of_not_blank hblank (l ++ x))
    (by rw [← List.cons_append, hdate]; rintro ⟨-, h⟩; cases h) hnumber
  rw [takeNumberTail_append_of_stop hx, htake, ← hlexeme, String.ofList_toList] at hreads
  rw [hlexeme]
  exact hreads

/-- What begins with a date is read as one. -/
theorem reads_takeDate {s : List Char} {e : Expr} (h : hasShape dateShape s = true)
    (htake : takeDate s = (e, x)) : Reads .value s [e] x := by
  have hdigit := startsWith_of_dateShape h
  rcases s with - | ⟨c, r⟩
  · cases hdigit
  have hblank := isBlank_of_isWordChar (isWordChar_of_isDigit hdigit)
  have hreads := Reads.date (skipBlanks_cons_of_not_blank hblank r) hdigit h
  rw [htake] at hreads
  exact hreads

theorem reads_date {lexeme : String} (h : IsDate lexeme.toList)
    (hx : startsWith isLiteralChar x = false) :
    Reads .value (lexeme.toList ++ x) [.date lexeme] x := by
  have htake := takeDate_of_isDate h hx
  rw [String.ofList_toList] at htake
  exact reads_takeDate (hasShape_of_isDate h x) htake

theorem reads_localTime {lexeme : String} (h : IsLocalTime lexeme.toList)
    (hx : startsWith isLiteralChar x = false) :
    Reads .value (lexeme.toList ++ x) [.localTime lexeme] x := by
  have htake := takeDate_of_isLocalTime h hx
  rw [String.ofList_toList] at htake
  exact reads_takeDate (hasShape_of_isLocalTime h x) htake

theorem reads_offsetTime {lexeme : String} (h : IsOffsetTime lexeme.toList) :
    Reads .value (lexeme.toList ++ x) [.offsetTime lexeme] x := by
  have htake := takeDate_of_isOffsetTime h x
  rw [String.ofList_toList] at htake
  exact reads_takeDate (hasShape_of_isOffsetTime h x) htake

/-- A name with an opening parenthesis after it is a call. -/
theorem result_readValue_call {name : String} {g : List Char} (hname : IsFunctionName name.toList)
    (hg : IsGap g) (inside : List Char) :
    (readValue (name.toList ++ (g ++ '(' :: inside))).result =
      (readArguments false inside).result.map fun x => (.call name x.1, x.2) := by
  have hstop : startsWith isWordChar (g ++ '(' :: inside) = false := by
    cases g with
    | nil => rfl
    | cons c g => exact isWordChar_of_isBlank (hg c (by simp))
  have htake := takeWhile_run hname.word.isWordChar hstop
  have hdrop := dropWhile_run hname.word.isWordChar hstop
  have hliteral : ¬ isLiteralWord name.toList = true := by
    rw [isLiteralWord_eq_true_iff]
    exact hname.not_literal
  have hopen : skipBlanks (g ++ '(' :: inside) = '(' :: inside := by
    rw [skipBlanks_gap hg]
    rfl
  have hword : wordResult (name.toList ++ (g ++ '(' :: inside)) =
      (readArguments false inside).result.map fun x => (.call name x.1, x.2) := by
    rw [wordResult, htake, hdrop, if_neg hliteral, hopen, String.ofList_toList]
    rfl
  rw [← hword]
  obtain ⟨c, r, hc⟩ := List.exists_cons_of_ne_nil hname.word.ne_nil
  have hstart := hname.start
  rw [hc] at hstart ⊢
  have hblank := isBlank_of_isWordChar (isWordChar_of_isWordStart hstart)
  exact result_readValue_word (skipBlanks_cons_of_not_blank hblank _) hstart

theorem reads_call {name : String} {es : List Expr} {g inside t : List Char}
    (hname : IsFunctionName name.toList) (hg : IsGap g)
    (h : Reads (.arguments false) inside es t) :
    Reads .value (name.toList ++ (g ++ '(' :: inside)) [.call name es] t := by
  have hargs : (readArguments false inside).result = .ok (es, t) := h.read_eq_ok
  refine read_eq_ok_iff.mp ?_
  rw [Phrase.read, result_readValue_call hname hg, hargs]
  rfl

end Operands

/-! ## What follows a part -/

theorem Follows.of_blank {s : List Char} {ends : Bool} (hs : startsWith isBlank s = true) :
    Follows ends s := by
  cases s with
  | nil => cases hs
  | cons c s => exact ⟨isLiteralChar_of_isBlank hs, fun _ => isWordChar_of_isBlank hs⟩

theorem Follows.of_gap {g s : List Char} {ends : Bool} (hg : IsGap g)
    (hliteral : startsWith isLiteralChar s = false)
    (hword : ends = true → g = [] → startsWith isWordChar s = false) : Follows ends (g ++ s) := by
  cases g with
  | nil => exact ⟨hliteral, fun h => hword h rfl⟩
  | cons c g => exact .of_blank (hg c (by simp))

/-- A lexeme that is kept apart does not go on with the one before it. -/
theorem Separates.follows {g s : List Char} {ends : Bool} (h : Separates ends g s) (hs : Opens s)
    (x : List Char) : Follows ends (g ++ (s ++ x)) := by
  refine .of_gap h.gap (hs.append x).literal fun hends hg => ?_
  rw [startsWith_append_of_ne_nil hs.ne_nil]
  exact h.apart hends hg

/-- A word that is kept apart ends where it does. -/
theorem Separates.startsWith_eq_false {g s : List Char} {ends : Bool} (h : Separates ends g s)
    (hs : s ≠ []) (x : List Char) (hends : ends = true) :
    startsWith isWordChar (g ++ (s ++ x)) = false := by
  cases g with
  | nil =>
    rw [List.nil_append, startsWith_append_of_ne_nil hs]
    exact h.apart hends rfl
  | cons c g => exact isWordChar_of_isBlank (h.gap c (by simp))

theorem Follows.closing {g x : List Char} (ends : Bool) (hg : IsGap g) :
    Follows ends (g ++ ')' :: x) :=
  .of_gap hg rfl fun _ _ => rfl

/-- Arguments after an operand do not go on with it. -/
theorem follows_of_renders_arguments {es : List Expr} {cs : List Char} {b : Bool}
    (h : Renders (.arguments true es) cs b) (ends : Bool) (x : List Char) :
    Follows ends (cs ++ x) := by
  cases h with
  | close hg =>
    rw [List.append_assoc]
    exact .closing ends hg
  | comma hg hg' he h =>
    rw [List.append_assoc]
    exact .of_gap hg rfl fun _ _ => rfl
  | blank hg hne he h =>
    rw [List.append_assoc]
    exact .of_blank (startsWith_isBlank_gap hg hne _)

/-- The texts after a part that leave it as it is. -/
def Part.Follows : Part → Bool → List Char → Prop
  | operand _, ends, x | term _, ends, x => Expr.Follows ends x
  | conjuncts _, ends, x | conjunction _, ends, x =>
    Expr.Follows ends x ∧ afterAnd? (skipBlanks x) = none
  | disjuncts _, ends, x | filter _, ends, x =>
    Expr.Follows ends x ∧ afterAnd? (skipBlanks x) = none ∧ afterOr? (skipBlanks x) = none
  | arguments _ _, _, _ => True

/-- What reading a part in front of the text `x` has to come to. -/
def Part.ReadsBack : Part → (s x : List Char) → Prop
  | operand e, s, x => Reads .value s [e] x
  | arguments started es, s, x => Reads (.arguments started) s es x
  | term e, s, x => Reads .term s [e] x
  | conjuncts es, s, x => Reads .conjuncts s es x
  | conjunction e, s, x => ∃ es, joinOperands .all es = e ∧ Reads .conjuncts s es x
  | disjuncts es, s, x => Reads .disjuncts s es x
  | filter e, s, x => ∃ es, joinOperands .any es = e ∧ Reads .disjuncts s es x

/-- A filter that is well-formed and unambiguous. -/
def IsReadable (e : Expr) : Prop :=
  e.IsFilter ∧ e.IsUnambiguous

/-- The trees of a part are well-formed. -/
def Part.WellFormed : Part → Prop
  | operand e => e.IsOperand
  | arguments _ es => ∀ e ∈ es, e.IsOperand
  | term e | conjunction e | filter e => e.IsReadable
  | conjuncts es | disjuncts es => ∀ e ∈ es, e.IsReadable

/-- A text that goes on with neither a lexeme nor a connective follows every part. -/
theorem Part.follows_of (p : Part) {ends : Bool} {x : List Char} (h : Expr.Follows ends x)
    (hand : afterAnd? (skipBlanks x) = none) (hor : afterOr? (skipBlanks x) = none) :
    p.Follows ends x := by
  cases p with
  | operand | term => exact h
  | arguments => trivial
  | conjuncts | conjunction => exact ⟨h, hand⟩
  | disjuncts | filter => exact ⟨h, hand, hor⟩

theorem Part.follows_gap (p : Part) (ends : Bool) {g : List Char} (hg : IsGap g) :
    p.Follows ends g := by
  have hskip : skipBlanks g = [] := List.dropWhile_eq_nil_iff.mpr hg
  have h : Expr.Follows ends (g ++ []) := .of_gap hg rfl fun _ _ => rfl
  rw [List.append_nil] at h
  refine p.follows_of h ?_ ?_
  · rw [hskip]
    rfl
  · rw [hskip]
    rfl

theorem Part.follows_closing (p : Part) (ends : Bool) {g : List Char} (hg : IsGap g)
    (x : List Char) : p.Follows ends (g ++ ')' :: x) := by
  have hskip : skipBlanks (g ++ ')' :: x) = ')' :: x := skipBlanks_gap hg _
  refine p.follows_of (.closing ends hg) ?_ ?_
  · rw [hskip]
    rfl
  · rw [hskip]
    rfl

/-- What is read back from a text is not read from nothing. -/
theorem Part.ReadsBack.ne_nil {p : Part} {cs : List Char} (h : p.ReadsBack (cs ++ []) []) :
    cs ≠ [] := by
  have hne : ∀ {k : Phrase} {es : List Expr}, Reads k (cs ++ []) es [] → cs ≠ [] := by
    rintro k es hreads rfl
    exact hreads.skipBlanks_ne_nil rfl
  cases p with
  | operand | arguments | term | conjuncts | disjuncts => exact hne h
  | conjunction | filter =>
    obtain ⟨es, -, h⟩ := h
    exact hne h

/-! ## Right operands -/

theorem headWord_ne {c d : Char} (h : c.toLower ≠ d) (s ds : List Char) :
    headWord (c :: s) ≠ d :: ds := by
  rw [headWord, List.takeWhile_cons]
  split
  · rw [List.map_cons]
    exact fun heq => h (List.cons.inj heq).1
  · exact List.cons_ne_nil _ _ ∘ Eq.symm

/-- A text that begins neither with `n` nor with `a` goes on with no operator. -/
theorem headWord_ne_of_startsWith {s : List Char}
    (h : startsWith (fun c => c.toLower ≠ 'n' ∧ c.toLower ≠ 'a') s = true) :
    headWord s ≠ "not".toList ∧ headWord s ≠ "any".toList := by
  cases s with
  | nil => cases h
  | cons c s =>
    obtain ⟨hn, ha⟩ : c.toLower ≠ 'n' ∧ c.toLower ≠ 'a' := by simpa using h
    exact ⟨headWord_ne hn s _, headWord_ne ha s _⟩

theorem toLower_of_isDigit {c : Char} (h : c.isDigit = true) :
    c.toLower ≠ 'n' ∧ c.toLower ≠ 'a' := by
  have hrange := isDigit_iff.mp h
  have hletter : ∀ d : Char, d.isLower = true → c.toLower ≠ d := by
    intro d hd hlower
    have halpha := isAlpha_iff.mp (isAlpha_of_toLower hd hlower)
    omega
  exact ⟨hletter 'n' rfl, hletter 'a' rfl⟩

/-- The first word of a right operand does not go on with the operator before it. -/
theorem headWord_of_renders {e : Expr} {cs x : List Char} {ends : Bool}
    (h : Renders (.operand e) cs ends) (he : e.IsOperand) (hright : ¬ e.GoesOn)
    (hx : Follows ends x) :
    headWord (cs ++ x) ≠ "not".toList ∧ headWord (cs ++ x) ≠ "any".toList := by
  have hdigit : ∀ {s : List Char}, startsWith Char.isDigit s = true →
      headWord s ≠ "not".toList ∧ headWord s ≠ "any".toList := by
    intro s hs
    refine headWord_ne_of_startsWith (startsWith_mono ?_ hs)
    intro c hc
    simpa using toLower_of_isDigit hc
  cases h with
  | text hq =>
    rcases hq with rfl | rfl
    · exact headWord_ne_of_startsWith rfl
    · exact headWord_ne_of_startsWith rfl
  | null hw =>
    rw [headWord_of_inAnyCase isKeyword_null hw (hx.word rfl)]
    exact ⟨by decide, by decide⟩
  | number =>
    cases he with
    | number h =>
      obtain ⟨c, l, hs, -, hc⟩ := h.exists_cons
      rw [hs]
      rcases hc with hc | ⟨rfl | rfl, -⟩
      · exact hdigit hc
      · exact headWord_ne_of_startsWith rfl
      · exact headWord_ne_of_startsWith rfl
  | date =>
    cases he with
    | date h => exact hdigit (startsWith_of_dateShape (hasShape_of_isDate h x))
  | localTime =>
    cases he with
    | localTime h => exact hdigit (startsWith_of_dateShape (hasShape_of_isLocalTime h x))
  | offsetTime =>
    cases he with
    | offsetTime h => exact hdigit (startsWith_of_dateShape (hasShape_of_isOffsetTime h x))
  | argument => exact headWord_ne_of_startsWith rfl
  | property hg hg' => exact headWord_ne_of_startsWith rfl
  | @call name es g cs hg h =>
    cases he with
    | call hname hes =>
      have hopen : Follows true (g ++ '(' :: (cs ++ x)) := .of_gap hg rfl fun _ _ => rfl
      have hhead : headWord (name.toList ++ (g ++ '(' :: cs) ++ x) =
          name.toList.map Char.toLower := by
        rw [List.append_assoc, List.append_assoc, List.cons_append, headWord,
          takeWhile_run hname.word.isWordChar (hopen.word rfl)]
      rw [hhead]
      exact not_or.mp hright

theorem endsOperator_of_renders {e : Expr} {g cs x : List Char} {ends : Bool}
    (h : Renders (.operand e) cs ends) (he : e.IsOperand) (hright : ¬ e.GoesOn)
    (hx : Follows ends x) (hg : IsGap g) : EndsOperator (g ++ (cs ++ x)) := by
  have hstart := startsWith_of_renders h he
  have hne := ne_nil_of_startsWith hstart
  rw [← startsWith_append_of_ne_nil hne isOperandStart x] at hstart
  refine ⟨?_, ?_⟩
  · intro r
    cases g with
    | nil => exact ⟨ne_cons_of_startsWith hstart rfl r, ne_cons_of_startsWith hstart rfl r⟩
    | cons c g =>
      have hc : startsWith isBlank (c :: g ++ (cs ++ x)) = true := hg c (by simp)
      exact ⟨ne_cons_of_startsWith hc rfl r, ne_cons_of_startsWith hc rfl r⟩
  · rw [skipBlanks_gap hg, skipBlanks_of_isOperandStart hstart]
    exact headWord_of_renders h he hright hx

/-! ## Reading back -/

theorem IsReadable.of_all {es : List Expr} (h : (Expr.all es).IsReadable) :
    2 ≤ es.length ∧ ∀ e ∈ es, e.IsReadable := by
  obtain ⟨hfilter, hright⟩ := h
  cases hfilter with
  | all hlen hes =>
    cases hright with
    | all hright => exact ⟨hlen, fun e he => ⟨hes e he, hright e he⟩⟩

theorem IsReadable.of_any {es : List Expr} (h : (Expr.any es).IsReadable) :
    2 ≤ es.length ∧ ∀ e ∈ es, e.IsReadable := by
  obtain ⟨hfilter, hright⟩ := h
  cases hfilter with
  | any hlen hes =>
    cases hright with
    | any hright => exact ⟨hlen, fun e he => ⟨hes e he, hright e he⟩⟩

theorem IsReadable.of_compare {op : Operator} {left right : Expr}
    (h : (Expr.compare op left right).IsReadable) :
    left.IsOperand ∧ right.IsOperand ∧ ¬ right.GoesOn := by
  obtain ⟨hfilter, hright⟩ := h
  cases hfilter with
  | compare hl hr =>
    cases hright with
    | compare hgo => exact ⟨hl, hr, hgo⟩

/-- An argument is read back in front of the arguments after it. -/
theorem reads_more {started : Bool} {e : Expr} {es : List Expr} {g a y t : List Char}
    (hg : IsGap g) (hstart : startsWith isOperandStart a = true) (he : Reads .value (a ++ y) [e] y)
    (h : Reads (.arguments true) y es t) :
    Reads (.arguments started) (g ++ (a ++ y)) (e :: es) t := by
  rcases a with - | ⟨c, a⟩
  · cases hstart
  have hskip : skipBlanks (g ++ (c :: a ++ y)) = c :: (a ++ y) := by
    rw [skipBlanks_gap hg]
    exact skipBlanks_of_isOperandStart hstart
  have hclose : c ≠ ')' := by
    rintro rfl
    cases hstart
  have hcomma : c ≠ ',' := by
    rintro rfl
    cases hstart
  exact .more hskip hclose (fun h => hcomma h.1) (he.gap hg) h

/-- Every part is read back from each of its texts. -/
theorem Renders.readsBack {p : Part} {cs : List Char} {ends : Bool} (h : Renders p cs ends) :
    p.WellFormed → ∀ x, p.Follows ends x → p.ReadsBack (cs ++ x) x := by
  induction h with
  | @text s q hq =>
    rintro - x -
    show Reads .value (q :: (escaped q s.toList ++ [q]) ++ x) [.text s] x
    rw [List.cons_append, List.append_assoc]
    exact reads_text hq s
  | null hw =>
    rintro - x hx
    exact reads_null hw (hx.word rfl)
  | number =>
    intro hwf x hx
    cases hwf with
    | number h => exact reads_number h hx.literal
  | @date lexeme =>
    intro hwf x hx
    cases hwf with
    | date h => exact reads_date h hx.literal
  | @localTime lexeme =>
    intro hwf x hx
    cases hwf with
    | localTime h => exact reads_localTime h hx.literal
  | @offsetTime lexeme =>
    rintro hwf x -
    cases hwf with
    | offsetTime h => exact reads_offsetTime h
  | argument =>
    intro hwf x hx
    cases hwf with
    | argument h => exact reads_argument h (hx.word rfl)
  | @property path g g' hg hg' =>
    rintro hwf x -
    cases hwf with
    | property h =>
      show Reads .value ('[' :: (g ++ (path.toList ++ (g' ++ [']']))) ++ x) [.property path] x
      simp only [List.cons_append, List.append_assoc, List.nil_append]
      exact reads_property hg hg' h
  | @call name es g cs hg h ih =>
    rintro hwf x -
    cases hwf with
    | call hname hes =>
      show Reads .value (name.toList ++ (g ++ '(' :: cs) ++ x) [.call name es] x
      rw [List.append_assoc, List.append_assoc, List.cons_append]
      exact reads_call hname hg (ih hes x trivial)
  | @close started g hg =>
    rintro - x -
    show Reads (.arguments started) (g ++ [')'] ++ x) [] x
    rw [List.append_assoc]
    refine .close ?_
    rw [skipBlanks_gap hg]
    rfl
  | @first e es g a cs aends hg he h ihe ih =>
    rintro hwf x -
    obtain ⟨hwfe, hwfes⟩ := List.forall_mem_cons.mp hwf
    show Reads (.arguments false) (g ++ (a ++ cs) ++ x) (e :: es) x
    rw [List.append_assoc, List.append_assoc]
    exact reads_more hg (startsWith_of_renders he hwfe)
      (ihe hwfe (cs ++ x) (follows_of_renders_arguments h aends x)) (ih hwfes x trivial)
  | @comma e es g g' a cs aends hg hg' he h ihe ih =>
    rintro hwf x -
    obtain ⟨hwfe, hwfes⟩ := List.forall_mem_cons.mp hwf
    show Reads (.arguments true) (g ++ ',' :: (g' ++ (a ++ cs)) ++ x) (e :: es) x
    simp only [List.append_assoc, List.cons_append]
    refine .comma (r := g' ++ (a ++ (cs ++ x))) ?_ ?_
    · rw [skipBlanks_gap hg]
      rfl
    · exact reads_more hg' (startsWith_of_renders he hwfe)
        (ihe hwfe (cs ++ x) (follows_of_renders_arguments h aends x)) (ih hwfes x trivial)
  | @blank e es g a cs aends hg hne he h ihe ih =>
    rintro hwf x -
    obtain ⟨hwfe, hwfes⟩ := List.forall_mem_cons.mp hwf
    show Reads (.arguments true) (g ++ (a ++ cs) ++ x) (e :: es) x
    rw [List.append_assoc, List.append_assoc]
    exact reads_more hg (startsWith_of_renders he hwfe)
      (ihe hwfe (cs ++ x) (follows_of_renders_arguments h aends x)) (ih hwfes x trivial)
  | @comparison op left right l r o g g' lends oends rends hleft hg hop hg' hright ihl ihr =>
    intro hwf x hx
    obtain ⟨hwfl, hwfr, hgo⟩ := hwf.of_compare
    have hstart := startsWith_of_renders hleft hwfl
    have hr := ne_nil_of_startsWith (startsWith_of_renders hright hwfr)
    show Reads .term (l ++ (g ++ (o ++ (g' ++ r))) ++ x) [.compare op left right] x
    simp only [List.append_assoc]
    have hne : ∀ u, skipBlanks (l ++ (g ++ (o ++ (g' ++ (r ++ x))))) ≠ '(' :: u := by
      rw [← startsWith_append_of_ne_nil (ne_nil_of_startsWith hstart)] at hstart
      rw [skipBlanks_of_isOperandStart hstart]
      exact ne_cons_of_startsWith hstart rfl
    have hread : readOperator? (skipBlanks (g ++ (o ++ (g' ++ (r ++ x))))) =
        some (op, g' ++ (r ++ x)) := by
      rw [skipBlanks_gap hg.gap, skipBlanks_of_startsWith (hop.opens.append _).blank]
      exact readOperator?_spells hop (endsOperator_of_renders hright hwfr hgo hx hg'.gap)
        (hg'.startsWith_eq_false hr x)
    exact .comparison hne (ihl hwfl _ (hg.follows hop.opens _)) hread ((ihr hwfr x hx).gap hg'.gap)
  | @parentheses e g g' cs ends hg h hg' ih =>
    rintro hwf x -
    obtain ⟨es, hes, hreads⟩ := ih hwf (g' ++ ')' :: x) (Part.follows_closing _ ends hg' x)
    show Reads .term ('(' :: (g ++ (cs ++ (g' ++ [')']))) ++ x) [e] x
    simp only [List.cons_append, List.append_assoc, List.nil_append]
    rw [← hes]
    exact .parentheses (skipBlanks_cons_of_not_blank rfl _) (hreads.gap hg) (skipBlanks_gap hg' _)
  | lastConjunct h ih =>
    intro hwf x hx
    exact .lastConjunct (ih (hwf _ (List.mem_singleton_self _)) x hx.1) hx.2
  | @conjunct e es a o g g' cs aends oends ends h hg ho hg' hes ih ihs =>
    intro hwf x hx
    obtain ⟨hwfe, hwfes⟩ := List.forall_mem_cons.mp hwf
    -- the induction hypothesis in front of nothing: the text after `and` is not empty
    have hcs := Part.ReadsBack.ne_nil (ihs hwfes [] (Part.follows_gap _ ends (by decide)))
    have hopens := opens_and ho
    show Reads .conjuncts (a ++ (g ++ (o ++ (g' ++ cs))) ++ x) (e :: es) x
    simp only [List.append_assoc]
    have hread : afterAnd? (skipBlanks (g ++ (o ++ (g' ++ (cs ++ x))))) =
        some (g' ++ (cs ++ x)) := by
      rw [skipBlanks_gap hg.gap, skipBlanks_of_startsWith (hopens.append _).blank]
      exact afterAnd?_connects ho (hg'.startsWith_eq_false hcs x)
    exact .conjunct (ih hwfe _ (hg.follows hopens _)) hread ((ihs hwfes x hx).gap hg'.gap)
  | single h ih =>
    intro hwf x hx
    exact ⟨_, rfl, .lastConjunct (ih hwf x hx.1) hx.2⟩
  | all h ih =>
    intro hwf x hx
    obtain ⟨hlen, hes⟩ := hwf.of_all
    exact ⟨_, joinOperands_of_two_le .all hlen, ih hes x hx⟩
  | lastDisjunct h ih =>
    intro hwf x hx
    obtain ⟨es, hes, hreads⟩ := ih (hwf _ (List.mem_singleton_self _)) x ⟨hx.1, hx.2.1⟩
    rw [← hes]
    exact .lastDisjunct hreads hx.2.2
  | @disjunct e es a o g g' cs aends oends ends h hg ho hg' hes ih ihs =>
    intro hwf x hx
    obtain ⟨hwfe, hwfes⟩ := List.forall_mem_cons.mp hwf
    have hcs := Part.ReadsBack.ne_nil (ihs hwfes [] (Part.follows_gap _ ends (by decide)))
    have hopens := opens_or ho
    have hstop := hg'.startsWith_eq_false hcs x
    have hskip : skipBlanks (g ++ (o ++ (g' ++ (cs ++ x)))) = o ++ (g' ++ (cs ++ x)) := by
      rw [skipBlanks_gap hg.gap, skipBlanks_of_startsWith (hopens.append _).blank]
    -- the conjunction ends before `or`, which is no `and` in any spelling
    have hand : afterAnd? (skipBlanks (g ++ (o ++ (g' ++ (cs ++ x))))) = none := by
      rw [hskip]
      exact afterAnd?_connects_or ho hstop
    obtain ⟨es', hes', hreads⟩ := ih hwfe _ ⟨hg.follows hopens _, hand⟩
    show Reads .disjuncts (a ++ (g ++ (o ++ (g' ++ cs))) ++ x) (e :: es) x
    simp only [List.append_assoc]
    rw [← hes']
    refine .disjunct hreads ?_ ((ihs hwfes x hx).gap hg'.gap)
    rw [hskip]
    exact afterOr?_connects ho hstop
  | @alone e cs ends h ih =>
    intro hwf x hx
    obtain ⟨es, hes, hreads⟩ := ih hwf x ⟨hx.1, hx.2.1⟩
    refine ⟨[e], rfl, ?_⟩
    rw [← hes]
    exact .lastDisjunct hreads hx.2.2
  | any h ih =>
    intro hwf x hx
    obtain ⟨hlen, hes⟩ := hwf.of_any
    exact ⟨_, joinOperands_of_two_le .any hlen, ih hes x hx⟩

/-! ## Whole texts -/

/-- The text of a test of a property: its path in brackets, a symbol and an operand. -/
def testText (path symbol operand : String) : String :=
  "[" ++ path ++ "] " ++ symbol ++ " " ++ operand

/-- The test of a property is read back from its text. -/
theorem parse_testText {path symbol : String} {op : Operator} {e : Expr} {cs : List Char}
    {ends : Bool} (hpath : IsPath path.toList) (hsymbol : symbol ∈ op.symbols) (he : e.IsOperand)
    (hgo : ¬ e.GoesOn) (h : Renders (.operand e) cs ends) :
    parse (testText path symbol (String.ofList cs)) = .ok (.compare op (.property path) e) := by
  have hnone : IsGap [] := by decide
  have hrenders : Renders (.term (.compare op (.property path) e)) _ _ :=
    .comparison (.property hnone hnone) (separates_space _ _) (.symbol hsymbol)
      (separates_space _ _) h
  have hreads := hrenders.readsBack
    ⟨.compare (.property hpath) he, .compare hgo⟩ [] ((Part.term _).follows_gap ends hnone)
  have htext : (testText path symbol (String.ofList cs)).toList =
      '[' :: ([] ++ (path.toList ++ ([] ++ [']']))) ++
        ([' '] ++ (symbol.toList ++ ([' '] ++ cs))) ++ [] := by
    simp [testText, String.toList_append]
  rw [← htext] at hreads
  exact parse_of_reads_term hreads

/-- A tree is read back from each of its texts, with any blanks around it. -/
theorem parse_of_renders {e : Expr} (he : e.IsFilter) (hright : e.IsUnambiguous)
    {g cs g' : List Char} {ends : Bool} (hg : IsGap g) (h : Renders (.filter e) cs ends)
    (hg' : IsGap g') : parse (String.ofList (g ++ (cs ++ g'))) = .ok e := by
  have hskip : skipBlanks g' = [] := List.dropWhile_eq_nil_iff.mpr hg'
  have hfollows := (Part.filter e).follows_gap ends hg'
  obtain ⟨es, hes, hreads⟩ := h.readsBack ⟨he, hright⟩ g' hfollows
  refine parse_eq_ok_iff.mpr ⟨es, g', ?_, hskip, hes⟩
  rw [String.toList_ofList]
  exact hreads.gap hg

theorem parse_of_renders_nested :
    let e : Expr := .all [.any [.compare .notEqual (.property "a") .null,
      .compare .less (.argument "x") (.number "1")], .compare .equal (.property "b") (.text "it's")]
    parse " ([a] IS NOT null||$x<1)and [b]='it\\'s'" = .ok e := by
  intro e
  have hnone : IsGap [] := by decide
  have hgap : IsGap [' '] := by decide
  have hwords : IsPhrase ["is", "not"] ("IS".toList ++ ([' '] ++ "NOT".toList)) :=
    .more (by decide) hgap (by decide) (.word (by decide))
  have hisnot : Spells .notEqual "IS NOT".toList true := .phrase (by decide) hwords
  have hnull : Renders (.term (.compare .notEqual (.property "a") .null))
      ("[a]".toList ++ ([' '] ++ ("IS NOT".toList ++ ([' '] ++ "null".toList)))) true :=
    .comparison (.property hnone hnone) ⟨hgap, by decide⟩ hisnot ⟨hgap, by decide⟩
      (.null (by decide))
  have hless : Renders (.term (.compare .less (.argument "x") (.number "1")))
      ("$x".toList ++ ([] ++ ("<".toList ++ ([] ++ "1".toList)))) false :=
    .comparison .argument ⟨hnone, by decide⟩ (.symbol (by decide)) ⟨hnone, by decide⟩ .number
  have hany : Renders (.filter (.any [_, _])) _ false :=
    .any (.disjunct (.single hnull) ⟨hnone, by decide⟩ .symbol ⟨hnone, by decide⟩
      (.lastDisjunct (.single hless)))
  have hequal : Renders (.term (.compare .equal (.property "b") (.text "it's")))
      ("[b]".toList ++ ([] ++ ("=".toList ++ ([] ++ "'it\\'s'".toList)))) false :=
    .comparison (.property hnone hnone) ⟨hnone, by decide⟩ (.symbol (by decide))
      ⟨hnone, by decide⟩ (.text (.inl rfl))
  have hand : Connects "and" "&&" "and".toList true := .word (by decide)
  have hall : Renders (.conjuncts [_, _]) _ false :=
    .conjunct (.parentheses hnone hany hnone) ⟨hnone, by decide⟩ hand ⟨hgap, by decide⟩
      (.lastConjunct hequal)
  have hone : IsDigits ['1'] := ⟨by decide, by decide⟩
  have hfilter : e.IsFilter := by
    have hfirst : (Expr.compare .notEqual (.property "a") .null).IsFilter :=
      .compare (.property ⟨by decide, rfl, rfl⟩) .null
    have hsecond : (Expr.compare .less (.argument "x") (.number "1")).IsFilter :=
      .compare (.argument ⟨by decide, by decide⟩) (.number (.mk .none hone .none .none))
    have hthird : (Expr.compare .equal (.property "b") (.text "it's")).IsFilter :=
      .compare (.property ⟨by decide, rfl, rfl⟩) (.text _)
    refine .all (by decide) (List.forall_mem_cons.mpr ⟨.any (by decide) ?_, ?_⟩)
    · simp [hfirst, hsecond]
    · simp [hthird]
  have hright : e.IsUnambiguous := by
    refine .all (List.forall_mem_cons.mpr ⟨.any (List.forall_mem_cons.mpr ⟨.compare id, ?_⟩), ?_⟩)
    · exact List.forall_mem_singleton.mpr (.compare id)
    · exact List.forall_mem_singleton.mpr (.compare id)
  have htext := parse_of_renders hfilter hright hgap (.alone (.all hall)) hnone
  refine (congrArg parse ?_).trans htext
  decide

end ContentFilter.Expr
