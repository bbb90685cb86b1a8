import ContentFilter.Proofs.Spelling
import ContentFilter.Proofs.WellFormed

/-!
# Filter texts of trees

A well-formed tree has many filter texts: operators in all of their spellings, words in any case,
strings in either quote, blanks wherever lexemes stay apart, and parentheses where they are needed
and anywhere else around a predicate. `Renders` is the relation between trees and their texts. Trees
are read back from them with one exception, which `IsUnambiguous` leaves out: a right operand that
calls a function named `not` or `any`, whose name would go on with the operator.
-/

namespace ContentFilter.Expr

open Text

/-! ## Texts of trees -/

/-- What may stand between a lexeme and the text `x` after it: blanks, and at least one if the
    lexeme is a word that `x` would go on with. -/
structure Separates (word : Bool) (g x : List Char) : Prop where
  gap : IsGap g
  apart : word = true → g = [] → startsWith isWordChar x = false

/-- The characters of a string, quotes of its own kind and backslashes behind a backslash. -/
def escaped (quote : Char) (cs : List Char) : List Char :=
  cs.flatMap fun c => if c = quote ∨ c = '\\' then ['\\', c] else [c]

/-- What a text is rendered from. -/
inductive Part where
  /-- An operand. -/
  | operand (e : Expr)
  /-- Arguments with the closing parenthesis; `started` says that there are others before. -/
  | arguments (started : Bool) (es : List Expr)
  /-- A predicate that may stand next to `and`. -/
  | term (e : Expr)
  /-- Predicates with `and` between them. -/
  | conjuncts (es : List Expr)
  /-- A predicate that may stand next to `or`. -/
  | conjunction (e : Expr)
  /-- Predicates with `or` between them. -/
  | disjuncts (es : List Expr)
  /-- A predicate that stands alone or in parentheses. -/
  | filter (e : Expr)

/-- The texts of trees and parts of them; `ends` says that the text ends in a word. -/
inductive Renders : Part → List Char → (ends : Bool) → Prop where
  | text {s : String} {q : Char} (hq : q = '\'' ∨ q = '"') :
      Renders (.operand (.text s)) (q :: (escaped q s.toList ++ [q])) false
  | null {w : List Char} (hw : InAnyCase "null" w) : Renders (.operand .null) w true
  | number {lexeme : String} : Renders (.operand (.number lexeme)) lexeme.toList false
  | date {lexeme : String} : Renders (.operand (.date lexeme)) lexeme.toList false
  | localTime {lexeme : String} : Renders (.operand (.localTime lexeme)) lexeme.toList false
  | offsetTime {lexeme : String} : Renders (.operand (.offsetTime lexeme)) lexeme.toList false
  | argument {name : String} : Renders (.operand (.argument name)) ('$' :: name.toList) true
  | property {path : String} {g g' : List Char} (hg : IsGap g) (hg' : IsGap g') :
      Renders (.operand (.property path)) ('[' :: (g ++ (path.toList ++ (g' ++ [']'])))) false
  | call {name : String} {es : List Expr} {g cs : List Char} (hg : IsGap g)
      (h : Renders (.arguments false es) cs false) :
      Renders (.operand (.call name es)) (name.toList ++ (g ++ '(' :: cs)) false
  | close {started : Bool} {g : List Char} (hg : IsGap g) :
      Renders (.arguments started []) (g ++ [')']) false
  | first {e : Expr} {es : List Expr} {g a cs : List Char} {ends : Bool} (hg : IsGap g)
      (he : Renders (.operand e) a ends) (h : Renders (.arguments true es) cs false) :
      Renders (.arguments false (e :: es)) (g ++ (a ++ cs)) false
  | comma {e : Expr} {es : List Expr} {g g' a cs : List Char} {ends : Bool} (hg : IsGap g)
      (hg' : IsGap g') (he : Renders (.operand e) a ends)
      (h : Renders (.arguments true es) cs false) :
      Renders (.arguments true (e :: es)) (g ++ ',' :: (g' ++ (a ++ cs))) false
  | blank {e : Expr} {es : List Expr} {g a cs : List Char} {ends : Bool} (hg : IsGap g)
      (hne : g ≠ []) (he : Renders (.operand e) a ends)
      (h : Renders (.arguments true es) cs false) :
      Renders (.arguments true (e :: es)) (g ++ (a ++ cs)) false
  | comparison {op : Operator} {left right : Expr} {l r o g g' : List Char}
      {lends oends rends : Bool} (hleft : Renders (.operand left) l lends)
      (hg : Separates lends g o) (hop : Spells op o oends) (hg' : Separates oends g' r)
      (hright : Renders (.operand right) r rends) :
      Renders (.term (.compare op left right)) (l ++ (g ++ (o ++ (g' ++ r)))) rends
  | parentheses {e : Expr} {g g' cs : List Char} {ends : Bool} (hg : IsGap g)
      (h : Renders (.filter e) cs ends) (hg' : IsGap g') :
      Renders (.term e) ('(' :: (g ++ (cs ++ (g' ++ [')'])))) false
  | lastConjunct {e : Expr} {cs : List Char} {ends : Bool} (h : Renders (.term e) cs ends) :
      Renders (.conjuncts [e]) cs ends
  | conjunct {e : Expr} {es : List Expr} {a o g g' cs : List Char} {aends oends ends : Bool}
      (h : Renders (.term e) a aends) (hg : Separates aends g o) (ho : Connects "and" "&&" o oends)
      (hg' : Separates oends g' cs) (hes : Renders (.conjuncts es) cs ends) :
      Renders (.conjuncts (e :: es)) (a ++ (g ++ (o ++ (g' ++ cs)))) ends
  | single {e : Expr} {cs : List Char} {ends : Bool} (h : Renders (.term e) cs ends) :
      Renders (.conjunction e) cs ends
  | all {es : List Expr} {cs : List Char} {ends : Bool} (h : Renders (.conjuncts es) cs ends) :
      Renders (.conjunction (.all es)) cs ends
  | lastDisjunct {e : Expr} {cs : List Char} {ends : Bool}
      (h : Renders (.conjunction e) cs ends) : Renders (.disjuncts [e]) cs ends
  | disjunct {e : Expr} {es : List Expr} {a o g g' cs : List Char} {aends oends ends : Bool}
      (h : Renders (.conjunction e) a aends) (hg : Separates aends g o)
      (ho : Connects "or" "||" o oends) (hg' : Separates oends g' cs)
      (hes : Renders (.disjuncts es) cs ends) :
      Renders (.disjuncts (e :: es)) (a ++ (g ++ (o ++ (g' ++ cs)))) ends
  | alone {e : Expr} {cs : List Char} {ends : Bool} (h : Renders (.conjunction e) cs ends) :
      Renders (.filter e) cs ends
  | any {es : List Expr} {cs : List Char} {ends : Bool} (h : Renders (.disjuncts es) cs ends) :
      Renders (.filter (.any es)) cs ends

/-- The operand calls a function whose name goes on with an operator. -/
def GoesOn : Expr → Prop
  | .call name _ => InAnyCase "not" name.toList ∨ InAnyCase "any" name.toList
  | _ => False

/-- No right operand goes on with the operator before it. -/
inductive IsUnambiguous : Expr → Prop where
  | all {es : List Expr} (hes : ∀ e ∈ es, IsUnambiguous e) : IsUnambiguous (.all es)
  | any {es : List Expr} (hes : ∀ e ∈ es, IsUnambiguous e) : IsUnambiguous (.any es)
  | compare {op : Operator} {left right : Expr} (h : ¬ right.GoesOn) :
      IsUnambiguous (.compare op left right)

/-! ## Where operands begin -/

/-- Whether an operand may begin with the character. -/
def isOperandStart (c : Char) : Bool :=
  ['\'', '"', '[', '$', '+', '-'].contains c || c.isDigit || isWordStart c

theorem isOperandStart_eq_true_iff {c : Char} : isOperandStart c = true ↔
    c ∈ ['\'', '"', '[', '$', '+', '-'] ∨ c.isDigit = true ∨ isWordStart c = true := by
  rw [isOperandStart, Bool.or_eq_true, Bool.or_eq_true, List.contains_iff_mem, or_assoc]

theorem isBlank_of_isOperandStart {c : Char} (h : isOperandStart c = true) :
    isBlank c = false := by
  rcases isOperandStart_eq_true_iff.mp h with hmem | hdigit | hstart
  · have hall : ∀ d ∈ ['\'', '"', '[', '$', '+', '-'], isBlank d = false := by decide
    exact hall c hmem
  · exact isBlank_of_isWordChar (isWordChar_of_isDigit hdigit)
  · exact isBlank_of_isWordChar (isWordChar_of_isWordStart hstart)

theorem skipBlanks_of_isOperandStart {s : List Char} (hs : startsWith isOperandStart s = true) :
    skipBlanks s = s := by
  cases s with
  | nil => cases hs
  | cons c s => exact skipBlanks_cons_of_not_blank (isBlank_of_isOperandStart hs) s

/-- What a text begins with it does not begin with otherwise. -/
theorem ne_cons_of_startsWith {p : Char → Bool} {s : List Char} (hs : startsWith p s = true)
    {d : Char} (hd : p d = false) (r : List Char) : s ≠ d :: r := by
  rintro rfl
  rw [startsWith_cons, hd] at hs
  cases hs

theorem ne_nil_of_startsWith {p : Char → Bool} {s : List Char} (hs : startsWith p s = true) :
    s ≠ [] := by
  rintro rfl
  cases hs

/-- The text of an operand begins like one. -/
theorem startsWith_of_renders {e : Expr} {cs : List Char} {ends : Bool}
    (h : Renders (.operand e) cs ends) (he : e.IsOperand) :
    startsWith isOperandStart cs = true := by
  have hdigit : ∀ {s : List Char}, startsWith Char.isDigit (s ++ []) = true →
      startsWith isOperandStart s = true := by
    intro s hs
    rw [List.append_nil] at hs
    exact startsWith_mono (fun c hc => isOperandStart_eq_true_iff.mpr (.inr (.inl hc))) hs
  have hletter : ∀ {s : List Char}, startsWith isWordStart s = true →
      startsWith isOperandStart s = true :=
    startsWith_mono fun c hc => isOperandStart_eq_true_iff.mpr (.inr (.inr hc))
  cases h with
  | text hq =>
    rcases hq with rfl | rfl
    · rfl
    · rfl
  | null hw => exact hletter (startsWith_isWordStart_of_inAnyCase isKeyword_null hw)
  | number =>
    cases he with
    | number h =>
      obtain ⟨c, l, hs, -, hc⟩ := h.exists_cons
      rw [hs]
      rcases hc with hc | ⟨rfl | rfl, -⟩
      · exact isOperandStart_eq_true_iff.mpr (.inr (.inl hc))
      · rfl
      · rfl
  | date =>
    cases he with
    | date h => exact hdigit (startsWith_of_dateShape (hasShape_of_isDate h []))
  | localTime =>
    cases he with
    | localTime h => exact hdigit (startsWith_of_dateShape (hasShape_of_isLocalTime h []))
  | offsetTime =>
    cases he with
    | offsetTime h => exact hdigit (startsWith_of_dateShape (hasShape_of_isOffsetTime h []))
  | argument => rfl
  | property hg hg' => rfl
  | call hg h =>
    cases he with
    | call hname hes =>
      rw [startsWith_append_of_ne_nil hname.word.ne_nil]
      exact hletter hname.start

/-! ## Every tree has a text -/

theorem separates_space (ends : Bool) (x : List Char) : Separates ends [' '] x := by
  refine ⟨by decide, fun _ h => ?_⟩
  cases h

theorem exists_renders_arguments {es : List Expr}
    (h : ∀ e ∈ es, ∃ cs ends, Renders (.operand e) cs ends) (started : Bool) :
    ∃ cs, Renders (.arguments started es) cs false := by
  have hgap : IsGap [' '] := by decide
  induction es generalizing started with
  | nil => exact ⟨_, .close hgap⟩
  | cons e es ih =>
    obtain ⟨a, ends, ha⟩ := h e (by simp)
    obtain ⟨cs, hcs⟩ := ih (fun e' hmem => h e' (by simp [hmem])) true
    cases started with
    | false => exact ⟨_, .first hgap ha hcs⟩
    | true => exact ⟨_, .blank hgap (by simp) ha hcs⟩

theorem exists_renders_operand {e : Expr} (h : e.IsOperand) :
    ∃ cs ends, Renders (.operand e) cs ends := by
  have hgap : IsGap [' '] := by decide
  induction h with
  | call hname hes ih =>
    obtain ⟨cs, hcs⟩ := exists_renders_arguments ih false
    exact ⟨_, _, .call hgap hcs⟩
  | property => exact ⟨_, _, .property hgap hgap⟩
  | number => exact ⟨_, _, .number⟩
  | null => exact ⟨"null".toList, _, .null (by decide)⟩
  | date => exact ⟨_, _, .date⟩
  | localTime => exact ⟨_, _, .localTime⟩
  | offsetTime => exact ⟨_, _, .offsetTime⟩
  | argument => exact ⟨_, _, .argument⟩
  | text => exact ⟨_, _, .text (.inl rfl)⟩

/-- Terms have a text as a part if one of them has and the first can be put before the others. -/
theorem exists_renders_terms {part : List Expr → Part}
    (hlast : ∀ {e a ends}, Renders (.term e) a ends → Renders (part [e]) a ends)
    (hmore : ∀ {e es a cs aends ends}, Renders (.term e) a aends → Renders (part es) cs ends →
      ∃ cs ends, Renders (part (e :: es)) cs ends)
    {es : List Expr} (hne : es ≠ []) (h : ∀ e ∈ es, ∃ cs ends, Renders (.term e) cs ends) :
    ∃ cs ends, Renders (part es) cs ends := by
  induction es with
  | nil => exact absurd rfl hne
  | cons e es ih =>
    obtain ⟨a, aends, ha⟩ := h e (by simp)
    by_cases hes : es = []
    · subst hes
      exact ⟨a, aends, hlast ha⟩
    · obtain ⟨cs, ends, hcs⟩ := ih hes fun e' hmem => h e' (by simp [hmem])
      exact hmore ha hcs

theorem exists_renders_conjuncts {es : List Expr} (hne : es ≠ [])
    (h : ∀ e ∈ es, ∃ cs ends, Renders (.term e) cs ends) :
    ∃ cs ends, Renders (.conjuncts es) cs ends := by
  refine exists_renders_terms .lastConjunct ?_ hne h
  intro e es a cs aends ends ha hcs
  exact ⟨_, _, .conjunct ha (separates_space _ _) .symbol (separates_space _ _) hcs⟩

theorem exists_renders_disjuncts {es : List Expr} (hne : es ≠ [])
    (h : ∀ e ∈ es, ∃ cs ends, Renders (.term e) cs ends) :
    ∃ cs ends, Renders (.disjuncts es) cs ends := by
  refine exists_renders_terms (fun ha => .lastDisjunct (.single ha)) ?_ hne h
  intro e es a cs aends ends ha hcs
  exact ⟨_, _, .disjunct (.single ha) (separates_space _ _) .symbol (separates_space _ _) hcs⟩

/-- Every well-formed filter has a text, so there is something to read it back from. -/
theorem exists_renders {e : Expr} (h : e.IsFilter) : ∃ cs ends, Renders (.term e) cs ends := by
  have hgap : IsGap [' '] := by decide
  have hne : ∀ {es : List Expr}, 2 ≤ es.length → es ≠ [] := by
    rintro es hlen rfl
    exact absurd hlen (by simp)
  induction h with
  | all hlen hes ih =>
    obtain ⟨cs, ends, hcs⟩ := exists_renders_conjuncts (hne hlen) ih
    exact ⟨_, _, .parentheses hgap (.alone (.all hcs)) hgap⟩
  | any hlen hes ih =>
    obtain ⟨cs, ends, hcs⟩ := exists_renders_disjuncts (hne hlen) ih
    exact ⟨_, _, .parentheses hgap (.any hcs) hgap⟩
  | @compare op left right hleft hright =>
    obtain ⟨l, lends, hl⟩ := exists_renders_operand hleft
    obtain ⟨r, rends, hr⟩ := exists_renders_operand hright
    obtain ⟨o, oends, ho⟩ := exists_spells op
    exact ⟨_, _, .comparison hl (separates_space _ _) ho (separates_space _ _) hr⟩

end ContentFilter.Expr
