import ContentFilter.Proofs.BytePosition
import ContentFilter.Proofs.Equations
import ContentFilter.Proofs.Remainder

/-!
# Steps by positions in bytes

A program and a reader come to the same if the program, started at the place of what the reader is
given, ends at the place of what the reader leaves. `Yields` says so, and it is composed along the
steps of a program. Here are the single steps: looking ahead, moving on, and passing over keywords
and operators.
-/

namespace ContentFilter.Expr.Cursor

open Text

/-! ## Outcomes -/

/-- The outcome of a reader with the position in place of what is left. -/
def located {α : Type} (text : String) :
    Except Failure (α × List Char) → Except ParseError (α × Nat)
  | .ok (a, r) => .ok (a, place text r)
  | .error f => .error (f.toParseError text.toList)

/-- From the place of `s` on the program comes to the outcome. -/
def Program.Yields {α : Type} (program : Program α) (text : String) (s : List Char)
    (outcome : Except Failure (α × List Char)) : Prop :=
  program.run? (place text s) = some (located text outcome)

section Outcomes

variable {α β : Type} {text : String} {s r : List Char} {a : α} {m : Program α} {f : α → Program β}

theorem run?_bind (m : Program α) (f : α → Program β) (i : Nat) :
    (m >>= f).run? i = (m.run? i).bind fun
      | .ok (a, j) => (f a).run? j
      | .error e => some (.error e) := by
  show Option.bind (m i) _ = Option.bind (m i) _
  congr 1
  funext o
  cases o <;> rfl

theorem Program.yields_pure (a : α) : Program.Yields (pure a) text s (.ok (a, s)) := rfl

theorem Program.Yields.bind_eq (hm : m.Yields text s (.ok (a, r))) :
    (m >>= f).run? (place text s) = (f a).run? (place text r) := by
  rw [run?_bind, hm]
  rfl

theorem Program.Yields.bind {o : Except Failure (β × List Char)} (hm : m.Yields text s (.ok (a, r)))
    (hf : (f a).Yields text r o) : (m >>= f).Yields text s o :=
  hm.bind_eq.trans hf

theorem Program.Yields.bind_error {e : Failure} (hm : m.Yields text s (.error e)) :
    (m >>= f).Yields text s (.error e) := by
  rw [Program.Yields, run?_bind, hm]
  rfl

/-- One program after another comes to what one reader after another comes to. -/
theorem Program.Yields.andThen {o : Except Failure (α × List Char)}
    {g : α × List Char → Except Failure (β × List Char)} (hm : m.Yields text s o)
    (hf : ∀ a r, o = .ok (a, r) → (f a).Yields text r (g (a, r))) :
    (m >>= f).Yields text s (o.bind g) := by
  cases o with
  | error e => exact hm.bind_error
  | ok x => exact hm.bind (hf x.1 x.2 rfl)

theorem Program.Yields.map {o : Except Failure (α × List Char)} {g : α → β}
    (hm : m.Yields text s o) :
    (m >>= fun a => pure (g a)).Yields text s (o.map fun x => (g x.1, x.2)) := by
  cases o with
  | error e => exact hm.bind_error
  | ok x => exact hm.bind rfl

/-- The outcome of a loop that goes on after it has read some values. -/
def resumed (as : List α) (o : Except Failure (List α × List Char)) :
    Except Failure (List α × List Char) :=
  o.map fun x => (as ++ x.1, x.2)

theorem resumed_nil (o : Except Failure (List α × List Char)) : resumed [] o = o := by
  cases o <;> rfl

theorem resumed_ok (as as' : List α) (r : List Char) :
    resumed as (.ok (as', r)) = .ok (as ++ as', r) := rfl

/-- One more value has been read. -/
theorem resumed_cons (as : List α) (a : α) (o : Except Failure (List α × List Char)) :
    resumed as (o.map fun x => (a :: x.1, x.2)) = resumed (as ++ [a]) o := by
  cases o with
  | error e => rfl
  | ok x => exact congrArg (fun l => Except.ok (l, x.2)) (List.append_cons as a x.1)

theorem resumed_bind {γ : Type} (as : List α) (o : Except Failure γ)
    (g : γ → Except Failure (List α × List Char)) :
    resumed as (o.bind g) = o.bind fun x => resumed as (g x) := by
  cases o <;> rfl

end Outcomes

section Steps

variable {α : Type} {self : Cursor} {s t r u w : List Char}

/-! ## Looking ahead -/

theorem yields_position : position.Yields self.text s (.ok (place self.text s, s)) := rfl

theorem yields_moveTo : (moveTo (place self.text r)).Yields self.text s (.ok ((), r)) := rfl

theorem yields_remaining (hs : s <:+ self.text.toList) :
    self.remaining.Yields self.text s (.ok (s, s)) := by
  obtain ⟨front, -, hsplit⟩ := splitBytes?_place hs
  show Option.map _ (Option.map _ (splitBytes? (place self.text s) self.text.toList)) = _
  rw [hsplit]
  rfl

theorem yields_remainingAt (hs : s <:+ self.text.toList) :
    (self.remainingAt (place self.text s)).Yields self.text u (.ok (s, u)) := by
  obtain ⟨front, -, hsplit⟩ := splitBytes?_place hs
  show Option.map _ (Option.map _ (splitBytes? (place self.text s) self.text.toList)) = _
  rw [hsplit]
  rfl

theorem yields_column (hs : s <:+ self.text.toList) :
    self.column.Yields self.text s (.ok (self.text.toList.length - s.length + 1, s)) := by
  obtain ⟨front, htext, hsplit⟩ := splitBytes?_place hs
  show Option.map _ (Option.map _ (splitBytes? (place self.text s) self.text.toList)) = _
  rw [hsplit, htext, List.length_append, Nat.add_sub_cancel]
  rfl

theorem yields_lexeme (hs : s <:+ self.text.toList) (h : w ++ r = s) :
    (self.lexeme (place self.text s)).Yields self.text r (.ok (String.ofList w, r)) := by
  subst h
  show Option.map _ (Option.map _ (slice? self.text (place self.text (w ++ r))
    (place self.text r))) = _
  rw [slice?_place hs]
  rfl

theorem yields_fail {fault : Fault} :
    (fail (.at fault (self.text.toList.length - t.length + 1)) : Program α).Yields self.text s
      (.error ⟨fault, t⟩) := rfl

theorem yields_failHere {fault : Fault} (hs : s <:+ self.text.toList) :
    (self.failHere fault : Program α).Yields self.text s (.error ⟨fault, s⟩) :=
  (yields_column hs).bind yields_fail

theorem yields_peek (hs : s <:+ self.text.toList) :
    self.peek.Yields self.text s (.ok (s.head?, s)) :=
  (yields_remaining hs).bind rfl

theorem yields_goesOnWith (hs : s <:+ self.text.toList) :
    (self.goesOnWith w).Yields self.text s (.ok ((afterPrefix? w s).isSome, s)) :=
  (yields_remaining hs).bind rfl

theorem yields_digitIsSecond (hs : s <:+ self.text.toList) :
    self.digitIsSecond.Yields self.text s (.ok (startsWith Char.isDigit s.tail, s)) :=
  (yields_remaining hs).bind rfl

/-- Single bytes are enough to tell a shape, wherever the text is made of wider characters. -/
theorem yields_goesOnLike {shape : List Char} (hshape : ∀ x ∈ shape, x.toNat < 128)
    (hs : s <:+ self.text.toList) :
    (self.goesOnLike shape).Yields self.text s (.ok (hasShape shape s, s)) := by
  obtain ⟨front, htext, -⟩ := splitBytes?_place hs
  have hfits : haveShape self.text.toUTF8.data.toList (place self.text s) (bytesOf shape) =
      hasShape shape s := by
    rw [bytes_toUTF8, place_eq htext, htext, haveShape_bytesOf hshape]
  show some (Except.ok (haveShape self.text.toUTF8.data.toList (place self.text s)
    (bytesOf shape), _)) = _
  rw [hfits]
  rfl

theorem yields_atEnd (hs : s <:+ self.text.toList) :
    self.atEnd.Yields self.text s (.ok (decide (s = []), s)) := by
  have hend : self.text.utf8ByteSize ≤ place self.text s ↔ s = [] := by
    constructor
    · intro hle
      by_contra hne
      have := place_lt hs List.nil_suffix (List.length_pos_iff.mpr hne)
      rw [place_nil] at this
      omega
    · rintro rfl
      exact Nat.le_refl _
  show some (Except.ok (decide (self.text.utf8ByteSize ≤ place self.text s), place self.text s)) = _
  rw [decide_eq_decide.mpr hend]
  rfl

/-! ## Moving on -/

theorem yields_advance (hs : s <:+ self.text.toList) :
    self.advance.Yields self.text s (.ok ((), s.tail)) := by
  refine (yields_peek hs).bind ?_
  cases s with
  | nil => exact rfl
  | cons c s =>
    have hmove : place self.text (c :: s) + c.utf8Size = place self.text s := by
      rw [place_append (w := [c]) hs, byteSize_cons, byteSize_nil]
      rfl
    refine yields_position.bind ?_
    rw [hmove]
    exact yields_moveTo

theorem yields_advanceBy (n : Nat) (hs : s <:+ self.text.toList) :
    (self.advanceBy n).Yields self.text s (.ok ((), s.drop n)) := by
  induction n generalizing s with
  | zero => rfl
  | succ n ih =>
    refine (yields_advance hs).bind ?_
    rw [← List.drop_one, Nat.add_comm, ← List.drop_drop]
    exact ih ((List.drop_suffix 1 s).trans hs)

/-- The loop ends: what is left gets shorter. -/
theorem yields_skipWhile (p : Char → Bool) (hs : s <:+ self.text.toList) :
    (self.skipWhile p).Yields self.text s (.ok ((), s.dropWhile p)) := by
  induction s with
  | nil =>
    rw [skipWhile]
    exact (yields_peek hs).bind rfl
  | cons c s ih =>
    rw [skipWhile]
    refine (yields_peek hs).bind ?_
    by_cases hc : p c = true
    · rw [List.dropWhile_cons_of_pos hc]
      simp only [List.head?_cons, if_pos hc]
      exact (yields_advance hs).bind (ih ((List.suffix_cons c s).trans hs))
    · rw [List.dropWhile_cons_of_neg hc]
      simp only [List.head?_cons, if_neg hc]
      rfl

theorem yields_skipBlanks (hs : s <:+ self.text.toList) :
    (self.skipWhile isBlank).Yields self.text s (.ok ((), skipBlanks s)) :=
  yields_skipWhile isBlank hs

/-- The failure at a text that does not go on as it has to. -/
def unexpected (s : List Char) : Failure :=
  ⟨(s.head?.map Fault.unexpectedChar).getD .unexpectedEnd, s⟩

/-- What reading a character that has to follow comes to. -/
def expectResult (expected : Char) (s : List Char) : Except Failure (Unit × List Char) :=
  if s.head? = some expected then .ok ((), s.tail) else .error (unexpected s)

theorem yields_expect {expected : Char} (hs : s <:+ self.text.toList) :
    (self.expect expected).Yields self.text s (expectResult expected s) := by
  refine (yields_peek hs).bind ?_
  rw [expectResult]
  cases s with
  | nil => exact yields_failHere hs
  | cons c r =>
    simp only [List.head?_cons, Option.some.injEq]
    split
    · exact yields_advance hs
    · exact yields_failHere hs

/-! ## Keywords -/

/-- A word has as many bytes in any case, so that it is found by its length in bytes. -/
theorem afterWord?_eq_splitBytes? {word : List Char} (hword : ∀ d ∈ word, d.isLower = true)
    (s : List Char) : afterWord? word s =
      (splitBytes? (byteSize word) s).bind fun x =>
        if x.1.map Char.toLower = word then some x.2 else none := by
  have hsize : ∀ {w : List Char}, w.map Char.toLower = word → byteSize w = byteSize word := by
    intro w hw
    have hwascii : ∀ c ∈ w, c.toNat < 128 := by
      intro c hc
      have hlower := hword _ (hw ▸ List.mem_map_of_mem hc)
      have := isAlpha_iff.mp (isAlpha_of_toLower hlower rfl)
      omega
    have hascii : ∀ d ∈ word, d.toNat < 128 := by
      intro d hd
      have := isLower_iff.mp (hword d hd)
      omega
    rw [byteSize_of_ascii hwascii, byteSize_of_ascii hascii, ← hw, List.length_map]
  refine Option.ext fun r => ?_
  rw [afterWord?_eq_some_iff, Option.bind_eq_some_iff]
  constructor
  · rintro ⟨w, rfl, hw⟩
    refine ⟨(w, r), ?_, if_pos hw⟩
    rw [← hsize hw]
    exact splitBytes?_append w r
  · rintro ⟨⟨w, r'⟩, hsplit, h⟩
    obtain ⟨rfl, -⟩ := splitBytes?_eq_some_iff.mp hsplit
    rw [Option.ite_none_right_eq_some] at h
    obtain ⟨hw, heq⟩ := h
    cases heq
    exact ⟨w, rfl, hw⟩

/-- The byte length of a keyword leads to a boundary where the keyword stands. -/
theorem yields_behindKeyword {word : List Char} (hword : ∀ d ∈ word, d.isLower = true)
    (hs : s <:+ self.text.toList) :
    (self.behindKeyword word (place self.text s)).Yields self.text u
      (.ok ((afterKeyword? word s).map (place self.text), u)) := by
  refine (yields_remainingAt hs).bind ?_
  rw [afterKeyword?, afterWord?_eq_splitBytes? hword]
  cases hsplit : splitBytes? (byteSize word) s with
  | none => exact rfl
  | some x =>
    obtain ⟨w, r⟩ := x
    obtain ⟨rfl, hsize⟩ := splitBytes?_eq_some_iff.mp hsplit
    by_cases hw : w.map Char.toLower = word
    · have hafter : (sliced fun _ => some r).Yields self.text u (.ok (r, u)) := rfl
      simp only [Option.map_some, Option.bind_some, if_pos hw]
      refine hafter.bind ?_
      rw [hsize, ← place_append hs, Option.filter_some]
      cases startsWith isWordChar r <;> rfl
    · simp only [Option.map_some, Option.bind_some, if_neg hw]
      rfl

theorem yields_behindBlanks (hs : s <:+ self.text.toList) :
    (self.behindBlanks (place self.text s)).Yields self.text u
      (.ok (if startsWith isBlank s then some (place self.text (skipBlanks s)) else none, u)) := by
  refine (yields_remainingAt hs).bind ?_
  by_cases hblank : startsWith isBlank s = true
  · have hsplit : s.takeWhile isBlank ++ skipBlanks s = s := List.takeWhile_append_dropWhile
    have hne : s.takeWhile isBlank ≠ [] := by
      cases s with
      | nil => cases hblank
      | cons c s => rw [List.takeWhile_cons_of_pos (show isBlank c = true from hblank)]; simp
    have hpos := byteSize_pos hne
    have hsize : byteSize s = byteSize (s.takeWhile isBlank) + byteSize (skipBlanks s) := by
      rw [← byteSize_append, hsplit]
    have hplace := place_append (hsplit.symm ▸ hs : s.takeWhile isBlank ++ skipBlanks s <:+ _)
    rw [hsplit] at hplace
    rw [if_neg (by omega), if_pos hblank, hsize, Nat.add_sub_cancel, ← hplace]
    rfl
  · rw [skipBlanks_of_startsWith (Bool.not_eq_true _ ▸ hblank), if_pos rfl, if_neg hblank]
    rfl

theorem yields_behindPhrase {words : List (List Char)}
    (hwords : ∀ word ∈ words, ∀ d ∈ word, d.isLower = true) (hs : s <:+ self.text.toList) :
    (self.behindPhrase words (place self.text s)).Yields self.text u
      (.ok ((afterPhrase? words s).map (place self.text), u)) := by
  fun_induction afterPhrase? words s with
  | case1 s => exact rfl
  | case2 word s => exact yields_behindKeyword (hwords word (by simp)) hs
  | case3 word words s hne ih =>
    have hrest : ∀ word ∈ words, ∀ d ∈ word, d.isLower = true :=
      fun word' hmem => hwords word' (by simp [hmem])
    rw [behindPhrase]
    · refine (yields_behindKeyword (hwords word (by simp)) hs).bind ?_
      cases hword : afterKeyword? word s with
      | none => exact rfl
      | some r =>
        have hr : r <:+ self.text.toList := (suffix_of_afterKeyword? hword).trans hs
        refine (yields_behindBlanks hr).bind ?_
        rw [Option.bind_some]
        cases startsWith isBlank r with
        | true => exact ih r hrest ((skipBlanks_suffix r).trans hr)
        | false => exact rfl
    · exact hne

theorem yields_matchPhrase {words : List (List Char)}
    (hwords : ∀ word ∈ words, ∀ d ∈ word, d.isLower = true) (hs : s <:+ self.text.toList) :
    (self.matchPhrase words).Yields self.text s
      (.ok ((afterPhrase? words s).map (place self.text), s)) :=
  yields_position.bind (yields_behindPhrase hwords hs)

/-! ## Connectives and operators -/

/-- What was found and the text after it, or the text where nothing was found. -/
def foundIn (s : List Char) : Option (α × List Char) → Except Failure (Option α × List Char)
  | some (a, r) => .ok (some a, r)
  | none => .ok (none, s)

/-- A symbol has as many bytes as characters. -/
theorem yields_advanceBy_symbol {symbol : List Char} (hsymbol : ∀ c ∈ symbol, c.toNat < 128)
    (hs : s <:+ self.text.toList) (h : afterPrefix? symbol s = some r) :
    (self.advanceBy (byteSize symbol)).Yields self.text s (.ok ((), r)) := by
  have hmove := yields_advanceBy symbol.length hs
  rw [eq_append_of_afterPrefix?_eq_some h, List.drop_left] at hmove
  rw [byteSize_of_ascii hsymbol, eq_append_of_afterPrefix?_eq_some h]
  exact hmove

theorem yields_connective {symbol word : List Char} (hsymbol : ∀ c ∈ symbol, c.toNat < 128)
    (hword : ∀ d ∈ word, d.isLower = true) (hs : s <:+ self.text.toList) :
    (self.connective symbol word).Yields self.text s
      (match (afterPrefix? symbol s).or (afterKeyword? word s) with
        | some r => .ok (true, r)
        | none => .ok (false, s)) := by
  refine (yields_goesOnWith hs).bind ?_
  cases hprefix : afterPrefix? symbol s with
  | some r => exact (yields_advanceBy_symbol hsymbol hs hprefix).bind rfl
  | none =>
    refine (yields_matchPhrase (List.forall_mem_singleton.mpr hword) hs).bind ?_
    have hphrase : afterPhrase? [word] s = afterKeyword? word s := rfl
    rw [hphrase]
    cases afterKeyword? word s with
    | none => exact rfl
    | some r => exact yields_moveTo.bind rfl

theorem yields_symbolOperator {table : List (List Char × Operator)}
    (htable : ∀ x ∈ table, ∀ c ∈ x.1, c.toNat < 128) (hs : s <:+ self.text.toList) :
    (self.symbolOperator table).Yields self.text s
      (foundIn s (table.findSome? fun x => (afterPrefix? x.1 s).map (x.2, ·))) := by
  induction table with
  | nil => exact rfl
  | cons x table ih =>
    obtain ⟨hx, htable⟩ := List.forall_mem_cons.mp htable
    refine (yields_goesOnWith hs).bind ?_
    rw [List.findSome?_cons]
    cases hprefix : afterPrefix? x.1 s with
    | some r => exact (yields_advanceBy_symbol hx hs hprefix).bind rfl
    | none => exact ih htable

theorem yields_phraseOperator {table : List (List (List Char) × Operator)}
    (htable : ∀ x ∈ table, ∀ word ∈ x.1, ∀ d ∈ word, d.isLower = true)
    (hs : s <:+ self.text.toList) :
    (self.phraseOperator table).Yields self.text s
      (foundIn s (table.findSome? fun x => (afterPhrase? x.1 s).map (x.2, ·))) := by
  induction table with
  | nil => exact rfl
  | cons x table ih =>
    obtain ⟨hx, htable⟩ := List.forall_mem_cons.mp htable
    refine (yields_matchPhrase hx hs).bind ?_
    rw [List.findSome?_cons]
    cases afterPhrase? x.1 s with
    | some r => exact yields_moveTo.bind rfl
    | none => exact ih htable

theorem yields_operator (hs : s <:+ self.text.toList) :
    self.operator.Yields self.text s (foundIn s (readOperator? s)) := by
  have hsymbols : (self.symbolOperator symbolOperators).Yields self.text s _ :=
    yields_symbolOperator (by decide) hs
  have hphrases : (self.phraseOperator phraseOperators).Yields self.text s _ :=
    yields_phraseOperator (by decide) hs
  rw [readOperator?_eq]
  cases hfound : symbolOperators.findSome? fun x => (afterPrefix? x.1 s).map (x.2, ·) with
  | some x =>
    rw [hfound] at hsymbols
    exact hsymbols.bind rfl
  | none =>
    rw [hfound] at hsymbols
    exact hsymbols.bind hphrases

end Steps

end ContentFilter.Expr.Cursor
