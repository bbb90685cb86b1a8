import ContentFilter.Proofs.Lexeme

/-!
# Spellings of operators and connectives

An operator has several spellings, with symbols or with words. The words may be in any case and have
blanks between them. Whatever spelling is chosen, the operator is read back, provided that what
follows does not go on with another operator: `is` before the word `not` would be `is not`.
-/

namespace ContentFilter.Operator

/-- The documented spellings with symbols. -/
def symbols : Operator → List String
  | equal => ["==", "="]
  | notEqual => ["!=", "<>"]
  | less => ["<"]
  | lessEqual => ["<="]
  | greater => [">"]
  | greaterEqual => [">="]
  | _ => []

/-- The documented spellings with words. -/
def phrases : Operator → List (List String)
  | equal => [["is"]]
  | notEqual => [["is", "not"]]
  | less => [["less", "than"]]
  | greater => [["greater", "than"]]
  | like => [["like"]]
  | notLike => [["like", "not"], ["not", "like"]]
  | contains => [["contains"]]
  | notContains => [["contains", "not"]]
  | containsAny => [["contains", "any"]]
  | notContainsAny => [["contains", "not", "any"]]
  | isIn => [["in"]]
  | notIn => [["not", "in"]]
  | lessEqual | greaterEqual => []

end ContentFilter.Operator

namespace ContentFilter.Expr

open Text

/-- A run of blanks. -/
def IsGap (g : List Char) : Prop :=
  ∀ c ∈ g, isBlank c = true

instance (g : List Char) : Decidable (IsGap g) :=
  inferInstanceAs (Decidable (∀ c ∈ g, isBlank c = true))

/-- The word in any case. -/
def InAnyCase (word : String) (w : List Char) : Prop :=
  w.map Char.toLower = word.toList

instance (word : String) (w : List Char) : Decidable (InAnyCase word w) :=
  inferInstanceAs (Decidable (w.map Char.toLower = word.toList))

/-- Words in any case with blanks between them. -/
inductive IsPhrase : List String → List Char → Prop where
  | word {word : String} {w : List Char} (hw : InAnyCase word w) : IsPhrase [word] w
  | more {word : String} {words : List String} {w g cs : List Char} (hw : InAnyCase word w)
      (hg : IsGap g) (hne : g ≠ []) (h : IsPhrase words cs) :
      IsPhrase (word :: words) (w ++ (g ++ cs))

/-- The text spells the operator; `word` says that it ends in a word. -/
inductive Spells : Operator → List Char → (word : Bool) → Prop where
  | symbol {op : Operator} {s : String} (h : s ∈ op.symbols) : Spells op s.toList false
  | phrase {op : Operator} {words : List String} {cs : List Char} (h : words ∈ op.phrases)
      (hcs : IsPhrase words cs) : Spells op cs true

/-- The text is the connective, written as a word or as a symbol. -/
inductive Connects (word symbol : String) : List Char → (word : Bool) → Prop where
  | symbol : Connects word symbol symbol.toList false
  | word {w : List Char} (hw : InAnyCase word w) : Connects word symbol w true

/-! ## Reading phrases -/

/-- Words that phrases are made of: lower-case letters. -/
structure IsKeyword (word : String) : Prop where
  ne_nil : word.toList ≠ []
  isLower : ∀ d ∈ word.toList, d.isLower = true

theorem isKeyword_null : IsKeyword "null" := ⟨by decide, by decide⟩

/-- The word at the front of the text in lower case. -/
def headWord (s : List Char) : List Char :=
  (s.takeWhile isWordChar).map Char.toLower

section Words

variable {word : String} {w x : List Char} (hword : IsKeyword word) (hw : InAnyCase word w)

include hword hw

theorem isWordChar_of_inAnyCase : ∀ c ∈ w, isWordChar c = true :=
  isWordChar_of_map_toLower hword.isLower hw

theorem ne_nil_of_inAnyCase : w ≠ [] := by
  rintro rfl
  exact hword.ne_nil hw.symm

theorem headWord_of_inAnyCase (hx : startsWith isWordChar x = false) :
    headWord (w ++ x) = word.toList := by
  rw [headWord, takeWhile_run (isWordChar_of_inAnyCase hword hw) hx]
  exact hw

theorem startsWith_of_inAnyCase : startsWith isWordChar (w ++ x) = true := by
  cases w with
  | nil => exact absurd rfl (ne_nil_of_inAnyCase hword hw)
  | cons c w => exact isWordChar_of_inAnyCase hword hw c (by simp)

theorem startsWith_isWordStart_of_inAnyCase : startsWith isWordStart w = true := by
  cases w with
  | nil => exact absurd rfl (ne_nil_of_inAnyCase hword hw)
  | cons c w =>
    have hmem : c.toLower ∈ word.toList := by
      rw [← (show (c :: w).map Char.toLower = word.toList from hw)]
      simp
    have halpha := isAlphabetic_of_isAlpha (isAlpha_of_toLower (hword.isLower _ hmem) rfl)
    rw [startsWith_cons, isWordStart, halpha, Bool.true_or]

theorem dropWhile_of_inAnyCase (hx : startsWith isWordChar x = false) :
    (w ++ x).dropWhile isWordChar = x :=
  dropWhile_run (isWordChar_of_inAnyCase hword hw) hx

end Words

theorem startsWith_isWordChar_of_isBlank {x : List Char} (hx : startsWith isBlank x = true) :
    startsWith isWordChar x = false := by
  cases x with
  | nil => rfl
  | cons c x => exact isWordChar_of_isBlank hx

/-- Nothing is skipped in front of a word. -/
theorem skipBlanks_of_isWordChar {s : List Char} (hs : startsWith isWordChar s = true) :
    skipBlanks s = s := by
  cases s with
  | nil => rfl
  | cons c s =>
    exact skipBlanks_cons_of_not_blank (isBlank_of_isWordChar hs) s

theorem afterKeyword?_eq_headWord {word : List Char} (hword : ∀ d ∈ word, d.isLower = true)
    (s : List Char) :
    afterKeyword? word s = if headWord s = word then some (s.dropWhile isWordChar) else none :=
  afterKeyword?_eq hword s

theorem afterPhrase?_cons {word : List Char} {words : List (List Char)} (hne : words ≠ [])
    (s : List Char) :
    afterPhrase? (word :: words) s = (afterKeyword? word s).bind fun r =>
      if startsWith isBlank r then afterPhrase? words (skipBlanks r) else none := by
  cases words with
  | nil => exact absurd rfl hne
  | cons word' words => rw [afterPhrase?]; simp

/-- A phrase has to begin with its first word. -/
theorem afterPhrase?_eq_none_of_headWord {word : List Char} {words : List (List Char)}
    (hword : ∀ d ∈ word, d.isLower = true) {s : List Char} (hs : headWord s ≠ word) :
    afterPhrase? (word :: words) s = none := by
  have hnone : afterKeyword? word s = none := by
    rw [afterKeyword?_eq_headWord hword, if_neg hs]
  cases words with
  | nil => exact hnone
  | cons word' words =>
    rw [afterPhrase?_cons (by simp), hnone]
    rfl

section Phrases

variable {words : List String} {cs x : List Char}

theorem startsWith_of_isPhrase (h : IsPhrase words cs) (hwords : ∀ word ∈ words, IsKeyword word) :
    startsWith isWordChar (cs ++ x) = true := by
  cases h with
  | word hw => exact startsWith_of_inAnyCase (hwords _ (by simp)) hw
  | more hw hg hne h =>
    rw [List.append_assoc]
    exact startsWith_of_inAnyCase (hwords _ (by simp)) hw

theorem startsWith_isBlank_gap {g : List Char} (hg : IsGap g) (hne : g ≠ []) (s : List Char) :
    startsWith isBlank (g ++ s) = true := by
  cases g with
  | nil => exact absurd rfl hne
  | cons c g => exact hg c (by simp)

/-- The words of a phrase are found. -/
theorem afterPhrase?_of_isPhrase (h : IsPhrase words cs)
    (hwords : ∀ word ∈ words, IsKeyword word) (hx : startsWith isWordChar x = false) :
    afterPhrase? (words.map String.toList) (cs ++ x) = some x := by
  induction h with
  | @word word w hw =>
    have hword := hwords word (by simp)
    show afterKeyword? word.toList (w ++ x) = some x
    rw [afterKeyword?_eq_headWord hword.isLower, headWord_of_inAnyCase hword hw hx,
      dropWhile_of_inAnyCase hword hw hx, if_pos rfl]
  | @more word words w g cs hw hg hne h ih =>
    have hword := hwords word (by simp)
    have hrest : ∀ word ∈ words, IsKeyword word := fun word' hmem => hwords word' (by simp [hmem])
    have hblank := startsWith_isBlank_gap hg hne (cs ++ x)
    have hstop := startsWith_isWordChar_of_isBlank hblank
    have hwords_ne : words.map String.toList ≠ [] := by cases h <;> simp
    rw [List.map_cons, afterPhrase?_cons hwords_ne, List.append_assoc, List.append_assoc,
      afterKeyword?_eq_headWord hword.isLower, headWord_of_inAnyCase hword hw hstop,
      dropWhile_of_inAnyCase hword hw hstop, if_pos rfl, Option.bind_some, if_pos hblank,
      skipBlanks_gap hg, skipBlanks_of_isWordChar (startsWith_of_isPhrase h hrest), ih hrest]

/-- No phrase is found that neither begins the words nor goes on with the word after them. -/
theorem afterPhrase?_eq_none_of_isPhrase (h : IsPhrase words cs)
    (hwords : ∀ word ∈ words, IsKeyword word) (hx : startsWith isWordChar x = false)
    {phrase : List (List Char)} (hphrase : ∀ word ∈ phrase, ∀ d ∈ word, d.isLower = true)
    (hnot : ¬ phrase <+: words.map String.toList)
    (hnext : ∀ next, words.map String.toList ++ [next] <+: phrase →
      headWord (skipBlanks x) ≠ next) :
    afterPhrase? phrase (cs ++ x) = none := by
  induction h generalizing phrase with
  | @word word w hw =>
    have hword := hwords word (by simp)
    rcases phrase with - | ⟨first, phrase⟩
    · exact absurd List.nil_prefix hnot
    by_cases hfirst : first = word.toList
    · subst hfirst
      rcases phrase with - | ⟨second, phrase⟩
      · exact absurd (List.prefix_refl _) hnot
      have hsecond : headWord (skipBlanks x) ≠ second :=
        hnext second (List.prefix_append _ phrase)
      rw [afterPhrase?_cons (by simp), afterKeyword?_eq_headWord hword.isLower,
        headWord_of_inAnyCase hword hw hx, dropWhile_of_inAnyCase hword hw hx, if_pos rfl,
        Option.bind_some]
      split
      · exact afterPhrase?_eq_none_of_headWord (hphrase second (by simp)) hsecond
      · rfl
    · refine afterPhrase?_eq_none_of_headWord (hphrase first (by simp)) ?_
      rw [headWord_of_inAnyCase hword hw hx]
      exact fun heq => hfirst heq.symm
  | @more word words w g cs hw hg hne h ih =>
    have hword := hwords word (by simp)
    have hrest : ∀ word ∈ words, IsKeyword word := fun word' hmem => hwords word' (by simp [hmem])
    have hblank := startsWith_isBlank_gap hg hne (cs ++ x)
    have hstop := startsWith_isWordChar_of_isBlank hblank
    rw [List.append_assoc, List.append_assoc]
    rcases phrase with - | ⟨first, phrase⟩
    · exact absurd List.nil_prefix hnot
    by_cases hfirst : first = word.toList
    · subst hfirst
      rcases phrase with - | ⟨second, phrase⟩
      · exact absurd (List.prefix_append _ _) hnot
      have htail : ¬ (second :: phrase) <+: words.map String.toList := fun hfront =>
        hnot (List.cons_prefix_cons.mpr ⟨rfl, hfront⟩)
      have hafter : ∀ next, words.map String.toList ++ [next] <+: second :: phrase →
          headWord (skipBlanks x) ≠ next := fun next hfront =>
        hnext next (List.cons_prefix_cons.mpr ⟨rfl, hfront⟩)
      rw [afterPhrase?_cons (by simp), afterKeyword?_eq_headWord hword.isLower,
        headWord_of_inAnyCase hword hw hstop, dropWhile_of_inAnyCase hword hw hstop, if_pos rfl,
        Option.bind_some, if_pos hblank, skipBlanks_gap hg,
        skipBlanks_of_isWordChar (startsWith_of_isPhrase h hrest)]
      exact ih hrest (fun word' hmem => hphrase word' (by simp [hmem])) htail hafter
    · refine afterPhrase?_eq_none_of_headWord (hphrase first (by simp)) ?_
      rw [headWord_of_inAnyCase hword hw hstop]
      exact fun heq => hfirst heq.symm

end Phrases

/-! ## Reading operators -/

/-- A text that goes on with no operator that is written before it. -/
structure EndsOperator (x : List Char) : Prop where
  symbol : ∀ r, x ≠ '=' :: r ∧ x ≠ '>' :: r
  word : headWord (skipBlanks x) ≠ "not".toList ∧ headWord (skipBlanks x) ≠ "any".toList

theorem findSome?_eq_of_find? {α β : Type} {l : List α} {p : α → Bool} {f : α → Option β} {a : α}
    {b : β} (h : l.find? p = some a) (hf : f a = some b)
    (hnone : ∀ a' ∈ l, p a' = false → f a' = none) : l.findSome? f = some b := by
  obtain ⟨-, before, after, rfl, hbefore⟩ := List.find?_eq_some_iff_append.mp h
  have hskip : before.findSome? f = none := by
    rw [List.findSome?_eq_none_iff]
    intro a' hmem
    exact hnone a' (by simp [hmem]) (by simpa using hbefore a' hmem)
  rw [List.findSome?_append, hskip, List.findSome?_cons, hf]
  rfl

/-- Of the symbols in the table, the first one that begins a spelling is the spelling. -/
theorem symbolOperators_find? : ∀ op ∈ Operator.all, ∀ s ∈ op.symbols,
    symbolOperators.find? (fun x => x.1.isPrefixOf s.toList) = some (s.toList, op) := by
  decide

/-- Of the phrases in the table, the first one that begins a spelling is the spelling. -/
theorem phraseOperators_find? : ∀ op ∈ Operator.all, ∀ words ∈ op.phrases,
    phraseOperators.find? (fun x => x.1.isPrefixOf (words.map String.toList)) =
      some (words.map String.toList, op) := by
  decide

/-- A longer phrase in the table goes on with `not` or `any`. -/
theorem phraseOperators_next : ∀ op ∈ Operator.all, ∀ words ∈ op.phrases,
    ∀ x ∈ phraseOperators, ∀ next ∈ x.1, words.map String.toList ++ [next] <+: x.1 →
      next = "not".toList ∨ next = "any".toList := by
  decide

/-- A longer symbol in the table goes on with `=` or `>`. -/
theorem symbolOperators_next : ∀ x ∈ symbolOperators, ∀ c ∈ x.1.tail, c = '=' ∨ c = '>' := by
  decide

theorem isKeyword_of_mem_phrases {op : Operator} {words : List String} (h : words ∈ op.phrases) :
    ∀ word ∈ words, IsKeyword word := by
  have hall : ∀ op ∈ Operator.all, ∀ words ∈ op.phrases, ∀ word ∈ words,
      word.toList ≠ [] ∧ ∀ d ∈ word.toList, d.isLower = true := by decide
  intro word hmem
  obtain ⟨hne, hlower⟩ := hall op op.mem_all words h word hmem
  exact ⟨hne, hlower⟩

theorem afterPrefix?_eq_none_of_symbol {s f x : List Char} (hs : s ≠ []) (hnot : ¬ f <+: s)
    (hnext : ∀ c ∈ f.tail, ∀ r, x ≠ c :: r) : afterPrefix? f (s ++ x) = none := by
  rw [Option.eq_none_iff_forall_ne_some]
  intro r hr
  rcases List.append_eq_append_iff.mp (eq_append_of_afterPrefix?_eq_some hr) with
    ⟨u, hf, hx⟩ | ⟨u, hsf, -⟩
  · cases u with
    | nil =>
      rw [List.append_nil] at hf
      exact hnot (hf ▸ List.prefix_refl s)
    | cons c u =>
      have hmem : c ∈ f.tail := by
        rw [hf, List.tail_append_of_ne_nil hs]
        simp
      exact hnext c hmem (u ++ r) hx
  · exact hnot ⟨u, hsf.symm⟩

/-- Symbols do not begin with characters of words. -/
theorem afterPrefix?_eq_none_of_word {f s : List Char} (hne : f ≠ [])
    (hf : startsWith isWordChar f = false) (hs : startsWith isWordChar s = true) :
    afterPrefix? f s = none := by
  rw [Option.eq_none_iff_forall_ne_some]
  intro r hr
  rw [eq_append_of_afterPrefix?_eq_some hr] at hs
  cases f with
  | nil => exact hne rfl
  | cons c f =>
    rw [List.cons_append, startsWith_cons] at hs
    rw [startsWith_cons, hs] at hf
    cases hf

theorem readOperator?_symbol {op : Operator} {s : String} (hs : s ∈ op.symbols) {x : List Char}
    (hx : EndsOperator x) : readOperator? (s.toList ++ x) = some (op, x) := by
  have hne : s.toList ≠ [] := by
    have hall : ∀ op ∈ Operator.all, ∀ s ∈ op.symbols, s.toList ≠ [] := by decide
    exact hall op op.mem_all s hs
  have hfound : (symbolOperators.findSome? fun y =>
      (afterPrefix? y.1 (s.toList ++ x)).map (y.2, ·)) = some (op, x) := by
    refine findSome?_eq_of_find? (symbolOperators_find? op op.mem_all s hs) ?_ ?_
    · rw [afterPrefix?_append]
      rfl
    · intro y hmem hnot
      have hfront : ¬ y.1 <+: s.toList := by
        rw [← List.isPrefixOf_iff_prefix, hnot]
        exact Bool.false_ne_true
      have hnext : ∀ c ∈ y.1.tail, ∀ r, x ≠ c :: r := by
        intro c hc r
        rcases symbolOperators_next y hmem c hc with rfl | rfl
        · exact (hx.symbol r).1
        · exact (hx.symbol r).2
      rw [afterPrefix?_eq_none_of_symbol hne hfront hnext]
      rfl
  rw [readOperator?_eq, hfound]
  rfl

theorem readOperator?_phrase {op : Operator} {words : List String} {cs x : List Char}
    (hmem : words ∈ op.phrases) (h : IsPhrase words cs) (hx : EndsOperator x)
    (hstop : startsWith isWordChar x = false) : readOperator? (cs ++ x) = some (op, x) := by
  have hwords := isKeyword_of_mem_phrases hmem
  have hsymbols : (symbolOperators.findSome? fun y =>
      (afterPrefix? y.1 (cs ++ x)).map (y.2, ·)) = none := by
    have hall : ∀ y ∈ symbolOperators, y.1 ≠ [] ∧ startsWith isWordChar y.1 = false := by decide
    rw [List.findSome?_eq_none_iff]
    intro y hy
    obtain ⟨hne, hy⟩ := hall y hy
    rw [afterPrefix?_eq_none_of_word hne hy (startsWith_of_isPhrase h hwords)]
    rfl
  have hfound : (phraseOperators.findSome? fun y =>
      (afterPhrase? y.1 (cs ++ x)).map (y.2, ·)) = some (op, x) := by
    refine findSome?_eq_of_find? (phraseOperators_find? op op.mem_all words hmem) ?_ ?_
    · rw [afterPhrase?_of_isPhrase h hwords hstop]
      rfl
    · -- a phrase tried earlier goes wrong inside this one or needs a word that does not follow
      intro y hy hnot
      have hlower : ∀ y ∈ phraseOperators, ∀ word ∈ y.1, ∀ d ∈ word, d.isLower = true := by decide
      have hfront : ¬ y.1 <+: words.map String.toList := by
        rw [← List.isPrefixOf_iff_prefix, hnot]
        exact Bool.false_ne_true
      have hnext : ∀ next, words.map String.toList ++ [next] <+: y.1 →
          headWord (skipBlanks x) ≠ next := by
        intro next hfront
        have hin : next ∈ y.1 := hfront.subset (by simp)
        rcases phraseOperators_next op op.mem_all words hmem y hy next hin hfront with rfl | rfl
        · exact hx.word.1
        · exact hx.word.2
      rw [afterPhrase?_eq_none_of_isPhrase h hwords hstop (hlower y hy) hfront hnext]
      rfl
  rw [readOperator?_eq, hsymbols, hfound]
  rfl

/-- Whatever the spelling, the operator is read back. -/
theorem readOperator?_spells {op : Operator} {cs x : List Char} {word : Bool}
    (h : Spells op cs word) (hx : EndsOperator x)
    (hstop : word = true → startsWith isWordChar x = false) :
    readOperator? (cs ++ x) = some (op, x) := by
  cases h with
  | symbol hs => exact readOperator?_symbol hs hx
  | phrase hmem h => exact readOperator?_phrase hmem h hx (hstop rfl)

/-- Keywords in lower case make up a phrase. -/
theorem exists_isPhrase {words : List String} (hne : words ≠ [])
    (hwords : ∀ word ∈ words, IsKeyword word) : ∃ cs, IsPhrase words cs := by
  induction words with
  | nil => exact absurd rfl hne
  | cons word words ih =>
    have hlower : ∀ d ∈ word.toList, d.toLower = d := by
      intro d hd
      have hrange := isLower_iff.mp ((hwords word (by simp)).isLower d hd)
      refine toLower_of_not_isUpper ?_
      rw [isUpper_iff]
      omega
    have hword : InAnyCase word word.toList :=
      (List.map_congr_left hlower).trans (List.map_id' word.toList)
    by_cases hrest : words = []
    · subst hrest
      exact ⟨word.toList, .word hword⟩
    · obtain ⟨cs, hcs⟩ := ih hrest fun word' hmem => hwords word' (by simp [hmem])
      exact ⟨_, .more hword (show IsGap [' '] by decide) (by simp) hcs⟩

/-- Every operator can be written. -/
theorem exists_spells (op : Operator) : ∃ cs ends, Spells op cs ends := by
  have hall : ∀ op ∈ Operator.all, op.symbols ≠ [] ∨ [] ∉ op.phrases ∧ op.phrases ≠ [] := by decide
  rcases hall op op.mem_all with hsymbols | ⟨hnil, hphrases⟩
  · obtain ⟨s, hs⟩ := List.exists_mem_of_ne_nil _ hsymbols
    exact ⟨_, _, .symbol hs⟩
  · obtain ⟨words, hmem⟩ := List.exists_mem_of_ne_nil _ hphrases
    have hne : words ≠ [] := by
      rintro rfl
      exact hnil hmem
    obtain ⟨cs, hcs⟩ := exists_isPhrase hne (isKeyword_of_mem_phrases hmem)
    exact ⟨_, _, .phrase hmem hcs⟩

/-! ## Reading connectives -/

theorem afterAnd?_eq (s : List Char) :
    afterAnd? s = (afterPrefix? "&&".toList s).or (afterKeyword? "and".toList s) := by
  show afterAnd? s = (afterPrefix? ['&', '&'] s).or (afterPhrase? [['a', 'n', 'd']] s)
  rw [afterAnd?]
  cases afterPrefix? ['&', '&'] s <;> rfl

theorem afterOr?_eq (s : List Char) :
    afterOr? s = (afterPrefix? "||".toList s).or (afterKeyword? "or".toList s) := by
  show afterOr? s = (afterPrefix? ['|', '|'] s).or (afterPhrase? [['o', 'r']] s)
  rw [afterOr?]
  cases afterPrefix? ['|', '|'] s <;> rfl

/-- The word and the symbol of a connective, which begins like no word. -/
structure IsConnective (word symbol : String) : Prop where
  keyword : IsKeyword word
  ne_nil : symbol.toList ≠ []
  no_word : startsWith isWordChar symbol.toList = false

theorem isConnective_and : IsConnective "and" "&&" := ⟨⟨by decide, by decide⟩, by decide, by decide⟩

theorem isConnective_or : IsConnective "or" "||" := ⟨⟨by decide, by decide⟩, by decide, by decide⟩

section Connectives

variable {word symbol : String} (hconn : IsConnective word symbol) {cs x : List Char} {ends : Bool}
  (h : Connects word symbol cs ends) (hstop : ends = true → startsWith isWordChar x = false)

include hconn h hstop

/-- A connective is found where it stands. -/
theorem Connects.found : (afterPrefix? symbol.toList (cs ++ x)).or
    (afterKeyword? word.toList (cs ++ x)) = some x := by
  cases h with
  | symbol =>
    rw [afterPrefix?_append]
    rfl
  | word hw =>
    have hstart := startsWith_of_inAnyCase (x := x) hconn.keyword hw
    rw [afterPrefix?_eq_none_of_word hconn.ne_nil hconn.no_word hstart, Option.none_or,
      afterKeyword?_eq_headWord hconn.keyword.isLower,
      headWord_of_inAnyCase hconn.keyword hw (hstop rfl), if_pos rfl,
      dropWhile_of_inAnyCase hconn.keyword hw (hstop rfl)]

end Connectives

theorem afterAnd?_connects {cs x : List Char} {ends : Bool} (h : Connects "and" "&&" cs ends)
    (hstop : ends = true → startsWith isWordChar x = false) : afterAnd? (cs ++ x) = some x := by
  rw [afterAnd?_eq]
  exact h.found isConnective_and hstop

theorem afterOr?_connects {cs x : List Char} {ends : Bool} (h : Connects "or" "||" cs ends)
    (hstop : ends = true → startsWith isWordChar x = false) : afterOr? (cs ++ x) = some x := by
  rw [afterOr?_eq]
  exact h.found isConnective_or hstop

/-- Where `or` stands there is no `and`. -/
theorem afterAnd?_connects_or {cs x : List Char} {ends : Bool} (h : Connects "or" "||" cs ends)
    (hstop : ends = true → startsWith isWordChar x = false) : afterAnd? (cs ++ x) = none := by
  have hand := isConnective_and
  have hor := isConnective_or
  rw [afterAnd?_eq]
  cases h with
  | symbol => rfl
  | word hw =>
    have hstart := startsWith_of_inAnyCase (x := x) hor.keyword hw
    rw [afterPrefix?_eq_none_of_word hand.ne_nil hand.no_word hstart, Option.none_or,
      afterKeyword?_eq_headWord hand.keyword.isLower,
      headWord_of_inAnyCase hor.keyword hw (hstop rfl), if_neg (by decide)]

/-! ## Where spellings begin -/

/-- The text begins with something that neither is blank nor goes on with a number or a date. -/
structure Opens (s : List Char) : Prop where
  ne_nil : s ≠ []
  blank : startsWith isBlank s = false
  literal : startsWith isLiteralChar s = false

theorem skipBlanks_of_startsWith {s : List Char} (hs : startsWith isBlank s = false) :
    skipBlanks s = s := by
  cases s with
  | nil => rfl
  | cons c s => exact skipBlanks_cons_of_not_blank hs s

theorem isLiteralChar_eq_true_iff {c : Char} : isLiteralChar c = true ↔
    c.isDigit = true ∨ c ∈ ['.', 'e', 'E', '+', '-', ':', 'T', 'Z'] := by
  rw [isLiteralChar, Bool.or_eq_true, List.contains_iff_mem]

theorem isLiteralChar_of_isBlank {c : Char} (h : isBlank c = true) : isLiteralChar c = false := by
  by_contra hliteral
  rw [Bool.not_eq_false, isLiteralChar_eq_true_iff] at hliteral
  rcases hliteral with hdigit | hmem
  · have hrange := isDigit_iff.mp hdigit
    have hwide : ∀ n ∈ wideBlanks, 128 ≤ n := by decide
    rcases toNat_of_isBlank h with hc | hc | hc
    · omega
    · omega
    · have := hwide _ hc
      omega
  · have hall : ∀ d ∈ ['.', 'e', 'E', '+', '-', ':', 'T', 'Z'], isBlank d = false := by decide
    rw [hall c hmem] at h
    cases h

/-- Of the letters only three go on with a number or a date. -/
theorem toLower_of_isLiteralChar {c : Char} (h : isLiteralChar c = true)
    (hlower : c.toLower.isLower = true) : c.toLower ∈ ['e', 't', 'z'] := by
  rcases isLiteralChar_eq_true_iff.mp h with hdigit | hmem
  · have hrange := isDigit_iff.mp hdigit
    have hupper : ¬ c.isUpper = true := by
      rw [isUpper_iff]
      omega
    rw [toLower_of_not_isUpper hupper, isLower_iff] at hlower
    omega
  · have hall : ∀ d ∈ ['.', 'e', 'E', '+', '-', ':', 'T', 'Z'], d.toLower.isLower = true →
        d.toLower ∈ ['e', 't', 'z'] := by decide
    exact hall c hmem hlower

theorem Opens.append {s : List Char} (h : Opens s) (x : List Char) : Opens (s ++ x) := by
  refine ⟨List.append_ne_nil_of_left_ne_nil h.ne_nil x, ?_, ?_⟩
  · rw [startsWith_append_of_ne_nil h.ne_nil, h.blank]
  · rw [startsWith_append_of_ne_nil h.ne_nil, h.literal]

theorem opens_of_inAnyCase {word : String} (hword : IsKeyword word)
    (hfirst : startsWith (['e', 't', 'z'].contains ·) word.toList = false) {w : List Char}
    (hw : InAnyCase word w) : Opens w := by
  have hrun := isWordChar_of_inAnyCase hword hw
  cases w with
  | nil => exact absurd rfl (ne_nil_of_inAnyCase hword hw)
  | cons c w =>
    have hhead : word.toList = c.toLower :: w.map Char.toLower := hw.symm
    refine ⟨List.cons_ne_nil _ _, isBlank_of_isWordChar (hrun c (by simp)), ?_⟩
    by_contra hliteral
    rw [Bool.not_eq_false] at hliteral
    have hlower : c.toLower.isLower = true := hword.isLower _ (by simp [hhead])
    have hmem := toLower_of_isLiteralChar hliteral hlower
    rw [hhead, startsWith_cons, List.contains_iff_mem.mpr hmem] at hfirst
    cases hfirst

/-- An operator does not go on with the operand before it. -/
theorem Spells.opens {op : Operator} {cs : List Char} {ends : Bool} (h : Spells op cs ends) :
    Opens cs := by
  cases h with
  | symbol hs =>
    have hall : ∀ op ∈ Operator.all, ∀ s ∈ op.symbols, s.toList ≠ [] ∧
        startsWith isBlank s.toList = false ∧ startsWith isLiteralChar s.toList = false := by decide
    obtain ⟨hne, hblank, hliteral⟩ := hall op op.mem_all _ hs
    exact ⟨hne, hblank, hliteral⟩
  | phrase hmem h =>
    have hall : ∀ op ∈ Operator.all, ∀ words ∈ op.phrases, ∀ word ∈ words.head?,
        startsWith (['e', 't', 'z'].contains ·) word.toList = false := by decide
    have hfirst := hall op op.mem_all _ hmem
    have hwords := isKeyword_of_mem_phrases hmem
    cases h with
    | word hw => exact opens_of_inAnyCase (hwords _ (by simp)) (hfirst _ rfl) hw
    | more hw hg hne h =>
      exact (opens_of_inAnyCase (hwords _ (by simp)) (hfirst _ rfl) hw).append _

theorem opens_and {cs : List Char} {ends : Bool} (h : Connects "and" "&&" cs ends) : Opens cs := by
  cases h with
  | symbol => exact ⟨by simp, rfl, rfl⟩
  | word hw => exact opens_of_inAnyCase isConnective_and.keyword rfl hw

theorem opens_or {cs : List Char} {ends : Bool} (h : Connects "or" "||" cs ends) : Opens cs := by
  cases h with
  | symbol => exact ⟨by simp, rfl, rfl⟩
  | word hw => exact opens_of_inAnyCase isConnective_or.keyword rfl hw

end ContentFilter.Expr
