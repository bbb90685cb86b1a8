import ContentFilter.Proofs.CursorReader

/-!
# Every reader makes progress

A reader of a filter text that succeeds has moved behind the position it was started at, and stands
at a boundary of the text again. So the loops and the recursion of the readers end, and no slice of
the text cuts a character, whatever characters the text is made of.
-/

namespace ContentFilter.Expr.Cursor

open Text

/-! ## Moving forward -/

/-- The second position lies behind the first one, within the text and between two characters. -/
structure Advances (text : String) (i j : Nat) : Prop where
  lt : i < j
  le : j ≤ text.utf8ByteSize
  boundary : IsBoundary text j

/-- Started at the position the program ends. -/
def Program.Ends {α : Type} (program : Program α) (i : Nat) : Prop :=
  ∃ outcome, program.run? i = some outcome

/-- Started at the position the program ends, with an error or further on at a boundary. -/
def Program.MakesProgress {α : Type} (program : Program α) (text : String) (i : Nat) : Prop :=
  ∃ outcome, program.run? i = some outcome ∧
    ∀ a j, outcome = .ok (a, j) → Advances text i j

/-- There is a next character exactly at the boundaries of a text, or none at its end; from anywhere
else the text cannot be sliced. -/
theorem run?_peek_ne_none_iff {self : Cursor} {i : Nat} :
    self.peek.run? i ≠ none ↔ IsBoundary self.text i := by
  rw [isBoundary_iff_splitBytes?, peek, remaining, run?_bind]
  show Option.bind (Option.map _ (Option.map _ (splitBytes? i self.text.toList))) _ ≠ none ↔ _
  cases splitBytes? i self.text.toList with
  | none => simp
  | some x => exact iff_of_true nofun nofun

/-- The phrases that are looked for: those of the operators and the words of the connectives. -/
def phrases : List (List (List Char)) :=
  ["or".toList] :: ["and".toList] :: phraseOperators.map Prod.fst

/-- The readers make progress from a position, each called where the others call it. -/
structure ReadersProgress (cursor : Cursor) (i : Nat) : Prop where
  disjunction : cursor.disjunction.MakesProgress cursor.text i
  conjunction : cursor.conjunction.MakesProgress cursor.text i
  term : cursor.term.MakesProgress cursor.text i
  value : cursor.value.MakesProgress cursor.text i
  identifier : cursor.identifier.MakesProgress cursor.text i
  /-- Words are read at a letter or an underscore. -/
  word {c : Char} (hpeek : cursor.peek.run? i = some (.ok (some c, i)))
    (hc : isWordStart c = true) : cursor.word.MakesProgress cursor.text i
  /-- Numbers are read at a digit or at a sign before one. -/
  number {c : Char} (hpeek : cursor.peek.run? i = some (.ok (some c, i)))
    (hc : c.isDigit = true ∨ (cursor.signFollows c).run? i = some (.ok (true, i))) :
    cursor.number.MakesProgress cursor.text i
  /-- Strings are read at a quote. -/
  string {c : Char} (hpeek : cursor.peek.run? i = some (.ok (some c, i)))
    (hc : c = '\'' ∨ c = '"') : cursor.string.MakesProgress cursor.text i
  /-- Paths are read at an opening bracket. -/
  bracketed (hpeek : cursor.peek.run? i = some (.ok (some '[', i))) :
    cursor.bracketed.MakesProgress cursor.text i
  /-- Where there is no operator the position is kept. -/
  operator : ∃ found j, cursor.operator.run? i = some (.ok (found, j)) ∧
    (found = none → j = i) ∧ ∀ op, found = some op → Advances cursor.text i j
  /-- Looking for a phrase tells the position behind it. -/
  phrase {words : List (List Char)} (hwords : words ∈ phrases) :
    ∃ found, (cursor.matchPhrase words).run? i = some (.ok (found, i)) ∧
      ∀ j, found = some j → Advances cursor.text i j

section Progress

variable {α : Type} {self : Cursor} {s r : List Char}

theorem advances_place (hs : s <:+ self.text.toList) (hr : r <:+ s) (hlt : r.length < s.length) :
    Advances self.text (place self.text s) (place self.text r) :=
  ⟨place_lt hs hr hlt, place_le self.text r, isBoundary_place (hr.trans hs)⟩

theorem Program.Yields.ends {m : Program α} {o : Except Failure (α × List Char)}
    (h : m.Yields self.text s o) : m.Ends (place self.text s) :=
  ⟨_, h⟩

/-- A program makes progress where a reader leaves a shorter end of the text. -/
theorem Program.Yields.makesProgress {m : Program α} {o : Except Failure (α × List Char)}
    (h : m.Yields self.text s o) (hs : s <:+ self.text.toList)
    (ho : ∀ a r, o = .ok (a, r) → r <:+ s ∧ r.length < s.length) :
    m.MakesProgress self.text (place self.text s) := by
  refine ⟨_, h, fun a j hj => ?_⟩
  cases o with
  | error e => cases hj
  | ok x =>
    cases hj
    obtain ⟨hr, hlt⟩ := ho x.1 x.2 rfl
    exact advances_place hs hr hlt

theorem shorter_of_readValue {e : Expr} (h : (readValue s).result = .ok (e, r)) :
    r <:+ s ∧ r.length < s.length :=
  ⟨suffix_of_readValue h, Outcome.length_lt_of_result h⟩

theorem shorter_of_identifierResult {name : String} (h : identifierResult s = .ok (name, r)) :
    r <:+ s ∧ r.length < s.length := by
  rw [identifierResult] at h
  split at h
  · cases h
  · rename_i hne
    cases h
    exact ⟨List.dropWhile_suffix _, length_dropWhile_lt hne⟩

/-- At the place where a lexeme is read there is its first character. -/
theorem exists_eq_cons_of_peek {c : Char} (hs : s <:+ self.text.toList)
    (h : self.peek.run? (place self.text s) = some (.ok (some c, place self.text s))) :
    ∃ r, s = c :: r := by
  rw [yields_peek hs] at h
  have hhead : s.head? = some c := by
    simpa [located] using h
  exact List.head?_eq_some_iff.mp hhead

theorem word_makesProgress {c : Char} (hs : c :: r <:+ self.text.toList)
    (hc : isWordStart c = true) : self.word.MakesProgress self.text (place self.text (c :: r)) := by
  have hchar := isWordChar_of_isWordStart hc
  have hskip := skipBlanks_cons_of_not_blank (isBlank_of_isWordChar hchar) r
  refine (yields_word hs hchar).makesProgress hs fun e t h => shorter_of_readValue (e := e) ?_
  rw [result_readValue_word hskip hc, h]

theorem number_makesProgress {c : Char} (hs : c :: r <:+ self.text.toList)
    (hc : c.isDigit = true ∨ c = '-' ∨ c = '+') :
    self.number.MakesProgress self.text (place self.text (c :: r)) := by
  refine (yields_number hc hs).makesProgress hs fun e t h => ?_
  cases h
  exact ⟨(takeNumberTail_suffix r).trans (List.suffix_cons c r),
    Nat.lt_succ_of_le (length_takeNumberTail_le r)⟩

theorem string_makesProgress {c : Char} (hs : c :: r <:+ self.text.toList)
    (hc : c = '\'' ∨ c = '"') : self.string.MakesProgress self.text (place self.text (c :: r)) := by
  have hskip : skipBlanks (c :: r) = c :: r :=
    skipBlanks_cons_of_not_blank (by rcases hc with rfl | rfl <;> rfl) r
  refine (yields_string hs).makesProgress hs fun cs t h =>
    shorter_of_readValue (e := .text (String.ofList cs)) ?_
  rw [result_readValue hskip, if_pos hc, h]
  rfl

theorem bracketed_makesProgress (hs : '[' :: r <:+ self.text.toList) :
    self.bracketed.MakesProgress self.text (place self.text ('[' :: r)) := by
  have hskip : skipBlanks ('[' :: r) = '[' :: r := skipBlanks_cons_of_not_blank rfl r
  refine (yields_bracketed hs).makesProgress hs fun e t h => shorter_of_readValue (e := e) ?_
  rw [result_readValue hskip, if_neg (by decide), if_pos rfl, h]

theorem operator_makesProgress (hs : s <:+ self.text.toList) :
    ∃ found j, self.operator.run? (place self.text s) = some (.ok (found, j)) ∧
      (found = none → j = place self.text s) ∧
      ∀ op, found = some op → Advances self.text (place self.text s) j := by
  have hrun := yields_operator hs
  cases hfound : readOperator? s with
  | none =>
    rw [hfound] at hrun
    exact ⟨none, _, hrun, fun _ => rfl, nofun⟩
  | some x =>
    obtain ⟨op, r⟩ := x
    rw [hfound] at hrun
    exact ⟨some op, _, hrun, nofun, fun _ _ => advances_place hs (suffix_of_readOperator? hfound)
      (length_lt_of_readOperator?_eq_some hfound)⟩

theorem phrase_makesProgress {words : List (List Char)} (hwords : words ∈ phrases)
    (hs : s <:+ self.text.toList) :
    ∃ found, (self.matchPhrase words).run? (place self.text s) =
        some (.ok (found, place self.text s)) ∧
      ∀ j, found = some j → Advances self.text (place self.text s) j := by
  have hphrases : ∀ words ∈ phrases, 0 < words.flatten.length ∧
      ∀ word ∈ words, ∀ d ∈ word, d.isLower = true := by decide
  obtain ⟨hpos, hlower⟩ := hphrases words hwords
  refine ⟨_, yields_matchPhrase hlower hs, fun j hj => ?_⟩
  obtain ⟨r, hr, rfl⟩ := Option.map_eq_some_iff.mp hj
  have hlength := length_le_of_afterPhrase?_eq_some hr
  exact advances_place hs (suffix_of_afterPhrase? hr) (by omega)

end Progress

theorem readersProgress {self : Cursor} {i : Nat} (h : IsBoundary self.text i) :
    ReadersProgress self i := by
  obtain ⟨s, hs, rfl⟩ := exists_place_eq h
  constructor
  case disjunction =>
    exact (yields_disjunction hs).makesProgress hs fun _ _ => shorter_of_disjunctionResult
  case conjunction =>
    exact (yields_conjunction hs).makesProgress hs fun _ _ => shorter_of_conjunctionResult
  case term =>
    exact (yields_term hs).makesProgress hs fun _ _ ht =>
      ⟨suffix_of_readTerm ht, Outcome.length_lt_of_result ht⟩
  case value => exact (yields_value hs).makesProgress hs fun _ _ => shorter_of_readValue
  case identifier =>
    exact (yields_identifier hs).makesProgress hs fun _ _ => shorter_of_identifierResult
  case operator => exact operator_makesProgress hs
  case phrase => exact fun hwords => phrase_makesProgress hwords hs
  case word =>
    intro c hpeek hc
    obtain ⟨r, rfl⟩ := exists_eq_cons_of_peek hs hpeek
    exact word_makesProgress hs hc
  case number =>
    intro c hpeek hc
    obtain ⟨r, rfl⟩ := exists_eq_cons_of_peek hs hpeek
    refine number_makesProgress hs (hc.imp_right fun hsign => ?_)
    rw [yields_signFollows hs] at hsign
    have hfollows : decide ((c = '-' ∨ c = '+') ∧ startsWith Char.isDigit r = true) = true := by
      simpa only [located, Option.some.injEq, Except.ok.injEq, Prod.mk.injEq, and_true] using hsign
    exact (of_decide_eq_true hfollows).1
  case string =>
    intro c hpeek hc
    obtain ⟨r, rfl⟩ := exists_eq_cons_of_peek hs hpeek
    exact string_makesProgress hs hc
  case bracketed =>
    intro hpeek
    obtain ⟨r, rfl⟩ := exists_eq_cons_of_peek hs hpeek
    exact bracketed_makesProgress hs

/-- Every reader, started at any boundary of any text and called where the others call it, ends;
where it succeeds, and where an operator or a phrase is found, the position has moved forward to
another boundary, and without an operator it stays. So do the loops end: those over the operands of
connectives and that over arguments. A filter text is read to its result, with no loop that goes on
forever and no slice that cuts a character. -/
theorem readers_make_progress :
    (∀ (cursor : Cursor) (i : Nat), IsBoundary cursor.text i → ReadersProgress cursor i ∧
      (∀ operands, (cursor.disjuncts operands).Ends i) ∧
      (∀ operands, (cursor.conjuncts operands).Ends i) ∧
      ∀ args, (cursor.arguments args).Ends i) ∧
    ∀ text, parse? text = some (parse text) := by
  refine ⟨fun cursor i h => ⟨readersProgress h, ?_⟩, parse?_eq⟩
  obtain ⟨s, hs, rfl⟩ := exists_place_eq h
  refine ⟨fun operands => ?_, fun operands => ?_, fun args => (yields_arguments args hs).ends⟩
  · exact (isChain_disjuncts.yields_loop operands hs fun r hr =>
      yields_conjunction (hr.trans hs)).ends
  · exact (isChain_conjuncts.yields_loop operands hs fun r hr => yields_term (hr.trans hs)).ends

/-- A number after a character of two bytes. -/
theorem readers_make_progress_wide :
    IsBoundary "ß<-1" 3 ∧ (peek ⟨"ß<-1"⟩).run? 3 = some (.ok (some '-', 3)) ∧
      (number ⟨"ß<-1"⟩).MakesProgress "ß<-1" 3 := by
  have hboundary : IsBoundary "ß<-1" 3 := isBoundary_iff.mpr ⟨['ß', '<'], ['-', '1'], rfl, rfl⟩
  have hpeek : (peek ⟨"ß<-1"⟩).run? 3 = some (.ok (some '-', 3)) := rfl
  have hprogress := (readers_make_progress.1 ⟨"ß<-1"⟩ 3 hboundary).1
  exact ⟨hboundary, hpeek, hprogress.number hpeek (.inr rfl)⟩

end ContentFilter.Expr.Cursor
