import ContentFilter.Proofs.CursorStep

/-!
# Lexemes by positions in bytes

Words, paths, strings, numbers and dates: the program that moves the position comes to what the
reader of the lexeme comes to.
-/

namespace ContentFilter.Expr.Cursor

open Text

variable {self : Cursor} {s t r w : List Char}

/-! ## Words and paths -/

/-- What reading a run of characters that may stand in words comes to. -/
def identifierResult (s : List Char) : Except Failure (String × List Char) :=
  if s.takeWhile isWordChar = [] then .error (unexpected s)
  else .ok (String.ofList (s.takeWhile isWordChar), s.dropWhile isWordChar)

theorem result_readArgument (s : List Char) :
    (readArgument s).result = (identifierResult s).map fun x => (.argument x.1, x.2) := by
  rw [readArgument, identifierResult]
  split
  · cases s <;> rfl
  · rfl

/-- A run is left exactly if the position has changed. -/
theorem place_dropWhile_eq_iff (p : Char → Bool) (hs : s <:+ self.text.toList) :
    place self.text (s.dropWhile p) = place self.text s ↔ s.takeWhile p = [] := by
  have hsplit := List.takeWhile_append_dropWhile (p := p) (l := s)
  have hplace := place_append
    (hsplit.symm ▸ hs : s.takeWhile p ++ s.dropWhile p <:+ self.text.toList)
  rw [hsplit] at hplace
  constructor
  · intro heq
    by_contra hne
    have := byteSize_pos hne
    omega
  · intro hnil
    rw [hplace, hnil, byteSize_nil, Nat.add_zero]

theorem yields_identifier (hs : s <:+ self.text.toList) :
    self.identifier.Yields self.text s (identifierResult s) := by
  refine yields_position.bind ((yields_skipWhile isWordChar hs).bind (yields_position.bind ?_))
  rw [identifierResult]
  by_cases hnil : s.takeWhile isWordChar = []
  · have hdrop : s.dropWhile isWordChar = s := by
      have hsplit := List.takeWhile_append_dropWhile (p := isWordChar) (l := s)
      rwa [hnil, List.nil_append] at hsplit
    rw [if_pos ((place_dropWhile_eq_iff isWordChar hs).mpr hnil), if_pos hnil, hdrop]
    refine (yields_peek hs).bind ?_
    cases s <;> exact yields_failHere hs
  · rw [if_neg (fun heq => hnil ((place_dropWhile_eq_iff isWordChar hs).mp heq)), if_neg hnil]
    exact yields_lexeme hs List.takeWhile_append_dropWhile

theorem result_readBracketed (opening s : List Char) :
    (readBracketed opening s).result =
      match s.dropWhile (· ≠ ']') with
      | _ :: t => .ok (.property (String.ofList (trimBlanks (s.takeWhile (· ≠ ']')))), t)
      | [] => .error ⟨.unclosedProperty, opening⟩ := by
  rw [readBracketed]
  split
  · rename_i hrest
    simp only [hrest, Outcome.result_ok]
  · rename_i hrest
    rw [hrest]
    rfl

theorem yields_bracketed (hs : '[' :: r <:+ self.text.toList) :
    self.bracketed.Yields self.text ('[' :: r) (readBracketed ('[' :: r) r).result := by
  have hr : r <:+ self.text.toList := (List.suffix_cons _ r).trans hs
  have hrest : r.dropWhile (· ≠ ']') <:+ self.text.toList := (List.dropWhile_suffix _).trans hr
  have hpath := yields_lexeme hr (List.takeWhile_append_dropWhile (p := (· ≠ ']')))
  refine (yields_column hs).bind ((yields_expect hs).bind (yields_position.bind
    ((yields_skipWhile _ hr).bind ((yields_peek hrest).bind ?_))))
  rw [result_readBracketed]
  cases hdrop : r.dropWhile (· ≠ ']') with
  | nil => exact yields_fail
  | cons c t =>
    rw [hdrop] at hrest hpath
    refine hpath.bind ((yields_advance hrest).bind ?_)
    rw [trim, String.toList_ofList]
    rfl

/-! ## Strings -/

/-- The digits of a code are ASCII characters. -/
theorem ascii_of_hexValue? {start n : Nat} {ds : List Char} (h : hexValue? start ds = some n) :
    ∀ c ∈ ds, c.toNat < 128 := by
  induction ds generalizing start with
  | nil => simp
  | cons c ds ih =>
    rw [hexValue?, Option.bind_eq_some_iff] at h
    obtain ⟨d, hd, h⟩ := h
    exact List.forall_mem_cons.mpr ⟨(lt_of_hexDigit? hd).1, ih h⟩

theorem ascii_of_escapeValue? {n : Nat} {ds : List Char} (h : escapeValue? ds = some n) :
    ∀ c ∈ ds, c.toNat < 128 := by
  unfold escapeValue? at h
  split at h
  · exact List.forall_mem_cons.mpr ⟨by decide, ascii_of_hexValue? h⟩
  · exact ascii_of_hexValue? h

/-- The character of the code at the front of a text. -/
def codeChar? (s : List Char) : Option Char :=
  (if 4 ≤ s.length then escapeValue? (s.take 4) else none).bind charOfCode?

theorem codeChar?_of_four (a b c d : Char) (s : List Char) :
    codeChar? (a :: b :: c :: d :: s) = (escapeValue? [a, b, c, d]).bind charOfCode? := by
  rw [codeChar?, if_pos (by simp)]
  rfl

/-- Four bytes that are a code are four characters. -/
theorem codeChar?_eq_splitBytes? (s : List Char) :
    codeChar? s = (((splitBytes? 4 s).map Prod.fst).bind escapeValue?).bind charOfCode? := by
  have hvalue : ((splitBytes? 4 s).map Prod.fst).bind escapeValue? =
      if 4 ≤ s.length then escapeValue? (s.take 4) else none := by
    refine Option.ext fun n => ?_
    rw [Option.bind_eq_some_iff, Option.ite_none_right_eq_some]
    constructor
    · rintro ⟨w, hw, hn⟩
      obtain ⟨⟨w', t⟩, hsplit, rfl⟩ := Option.map_eq_some_iff.mp hw
      obtain ⟨rfl, hsize⟩ := splitBytes?_eq_some_iff.mp hsplit
      rw [byteSize_of_ascii (ascii_of_escapeValue? hn)] at hsize
      rw [hsize, List.take_left, List.length_append]
      exact ⟨Nat.le_add_right _ _, hn⟩
    · rintro ⟨hlength, hn⟩
      refine ⟨s.take 4, ?_, hn⟩
      have hsize := byteSize_of_ascii (ascii_of_escapeValue? hn)
      rw [List.length_take, Nat.min_eq_left hlength] at hsize
      have hsplit := splitBytes?_append (s.take 4) (s.drop 4)
      rw [hsize, List.take_append_drop] at hsplit
      rw [hsplit]
      rfl
  rw [hvalue, codeChar?]

theorem yields_ahead? {c : Char} (hc : c.toNat < 128) (n : Nat) (hs : c :: r <:+ self.text.toList) :
    (self.ahead? 1 (1 + n)).Yields self.text (c :: r)
      (.ok ((splitBytes? n r).map Prod.fst, c :: r)) := by
  obtain ⟨front, htext, hsplit⟩ := splitBytes?_place ((List.suffix_cons c r).trans hs)
  have hplace : place self.text (c :: r) + 1 = place self.text r := by
    rw [place_append (w := [c]) hs, byteSize_cons, byteSize_nil, utf8Size_of_lt hc]
    rfl
  have hslice :
      slice? self.text (place self.text (c :: r) + 1) (place self.text (c :: r) + (1 + n)) =
      (splitBytes? n r).map Prod.fst := by
    rw [← Nat.add_assoc, hplace, slice?, if_pos (Nat.le_add_right _ _), hsplit,
      Nat.add_sub_cancel_left]
    rfl
  show some (Except.ok (slice? self.text (place self.text (c :: r) + 1)
    (place self.text (c :: r) + (1 + n)), _)) = _
  rw [hslice]
  rfl

theorem yields_escape_code (hs : 'u' :: r <:+ self.text.toList) :
    (self.escape (self.text.toList.length - t.length + 1)).Yields self.text ('u' :: r)
      (match codeChar? r with
        | some c => .ok (c, ('u' :: r).drop 4)
        | none => .error ⟨.invalidEscape, t⟩) := by
  refine (yields_peek hs).bind ((yields_ahead? (by decide) 4 hs).bind ?_)
  rw [← codeChar?_eq_splitBytes?]
  cases codeChar? r with
  | none => exact yields_fail
  | some c => exact (yields_advanceBy 4 hs).bind rfl

/-- After an escape the program stands at its last character. -/
theorem yields_escape {p : Parsed r Char} (hr : r <:+ self.text.toList)
    (h : readEscape? r = some p) : ∃ c, c :: p.rest <:+ r ∧
      (self.escape (self.text.toList.length - t.length + 1)).Yields self.text r
        (.ok (p.value, c :: p.rest)) := by
  unfold readEscape? at h
  split at h
  case h_7 a b c d s =>
    have hcode := yields_escape_code (t := t) hr
    rw [codeChar?_of_four] at hcode
    split at h
    · rename_i x hx
      cases h
      rw [hx] at hcode
      exact ⟨d, ⟨['u', a, b, c], rfl⟩, hcode⟩
    · cases h
  case h_8 => cases h
  all_goals
    cases h
    exact ⟨_, List.suffix_refl _, (yields_peek hr).bind rfl⟩

theorem yields_escape_error (hr : r <:+ self.text.toList) (h : readEscape? r = none) :
    (self.escape (self.text.toList.length - t.length + 1)).Yields self.text r
      (.error ⟨.invalidEscape, t⟩) := by
  unfold readEscape? at h
  split at h
  case h_7 a b c d s =>
    have hcode := yields_escape_code (t := t) hr
    rw [codeChar?_of_four] at hcode
    split at h
    · cases h
    · rename_i hx
      rw [hx] at hcode
      exact hcode
  case h_8 hn ht hr' hback hsingle hdouble hu =>
    cases r with
    | nil => exact (yields_peek hr).bind yields_fail
    | cons x r =>
      by_cases hx : x = 'u'
      · subst hx
        have hcode := yields_escape_code (t := t) hr
        rcases r with - | ⟨a, - | ⟨b, - | ⟨c, - | ⟨d, r⟩⟩⟩⟩
        case cons.cons.cons.cons => exact absurd rfl (hu a b c d r)
        all_goals exact hcode
      refine (yields_peek hr).bind ?_
      simp only [List.head?_cons]
      split
      case h_1 heq => cases heq; exact absurd rfl (hn r)
      case h_2 heq => cases heq; exact absurd rfl (ht r)
      case h_3 heq => cases heq; exact absurd rfl (hr' r)
      case h_4 heq => cases heq; exact absurd rfl (hback r)
      case h_5 heq => cases heq; exact absurd rfl (hsingle r)
      case h_6 heq => cases heq; exact absurd rfl (hdouble r)
      case h_7 heq => cases heq; exact absurd rfl hx
      case h_8 => exact yields_fail
  all_goals cases h

/-- The loop ends at the closing quote, at an escape that is none, or at the end of the text. -/
theorem yields_stringTail (quote : Char) (cs : List Char) (hs : s <:+ self.text.toList) :
    (self.stringTail quote (self.text.toList.length - t.length + 1) cs).Yields self.text s
      (resumed cs (readString quote t s).result) := by
  induction hn : s.length using Nat.strong_induction_on generalizing s cs with
  | _ n ih =>
    subst hn
    rw [stringTail]
    refine (yields_peek hs).bind ?_
    cases s with
    | nil =>
      rw [readString]
      exact yields_fail
    | cons c r =>
      have hr : r <:+ self.text.toList := (List.suffix_cons c r).trans hs
      rw [result_readString_cons]
      simp only [List.head?_cons]
      split
      · refine (yields_advance hs).bind ?_
        rw [resumed_ok, List.append_nil]
        exact Program.yields_pure cs
      · split
        · refine (yields_column hs).bind ((yields_advance hs).bind ?_)
          cases hescape : readEscape? r with
          | none => exact (yields_escape_error hr hescape).bind_error
          | some p =>
            obtain ⟨d, hd, hread⟩ := yields_escape hr hescape
            refine hread.bind ((yields_advance (hd.trans hr)).bind ?_)
            rw [resumed_cons]
            exact ih _ (Nat.lt_succ_of_lt p.shorter) _
              ((List.suffix_cons d p.rest).trans (hd.trans hr)) rfl
        · refine (yields_advance hs).bind ?_
          rw [resumed_cons]
          exact ih _ (Nat.lt_succ_self _) _ hr rfl

theorem yields_string {quote : Char} (hs : quote :: r <:+ self.text.toList) :
    self.string.Yields self.text (quote :: r) (readString quote (quote :: r) r).result := by
  have htail := yields_stringTail (t := quote :: r) quote [] ((List.suffix_cons quote r).trans hs)
  rw [resumed_nil] at htail
  exact (yields_column hs).bind ((yields_peek hs).bind ((yields_advance hs).bind htail))

/-! ## Numbers -/

theorem takeSign_suffix (s : List Char) : (takeSign s).2 <:+ s :=
  ⟨_, takeSign_append s⟩

theorem takeFraction_suffix (s : List Char) : (takeFraction s).2 <:+ s :=
  ⟨_, takeFraction_append s⟩

theorem yields_sign (hs : s <:+ self.text.toList) :
    self.sign.Yields self.text s (.ok ((), (takeSign s).2)) := by
  refine (yields_peek hs).bind ?_
  cases s with
  | nil => exact rfl
  | cons c s =>
    simp only [List.head?_cons]
    by_cases hminus : c = '-'
    · subst hminus
      exact yields_advance hs
    · by_cases hplus : c = '+'
      · subst hplus
        exact yields_advance hs
      · have hsame : (takeSign (c :: s)).2 = c :: s := by
          unfold takeSign
          split <;> simp_all
        rw [if_neg (by simp [hminus, hplus]), hsame]
        rfl

theorem yields_fraction (hs : s <:+ self.text.toList) :
    self.fraction.Yields self.text s (.ok ((), (takeFraction s).2)) := by
  refine (yields_peek hs).bind ?_
  by_cases hpoint : ∃ r, s = '.' :: r
  · obtain ⟨r, rfl⟩ := hpoint
    have hr : r <:+ self.text.toList := (List.suffix_cons _ r).trans hs
    refine (yields_digitIsSecond hs).bind ?_
    rw [takeFraction, List.tail_cons]
    split
    · exact (yields_advance hs).bind (yields_skipWhile Char.isDigit hr)
    · exact rfl
  · have hsame : (takeFraction s).2 = s := by
      unfold takeFraction
      split
      · exact absurd ⟨_, rfl⟩ hpoint
      · rfl
    have hhead : s.head? ≠ some '.' := by
      cases s with
      | nil => simp
      | cons c r =>
        rintro h
        cases h
        exact hpoint ⟨r, rfl⟩
    rw [if_neg hhead, hsame]
    rfl

theorem yields_exponent (hs : s <:+ self.text.toList) :
    self.exponent.Yields self.text s (.ok ((), (takeExponent s).2)) := by
  refine (yields_peek hs).bind ?_
  cases s with
  | nil => exact rfl
  | cons c r =>
    have hr : r <:+ self.text.toList := (List.suffix_cons _ r).trans hs
    have hsign : (takeSign r).2 <:+ self.text.toList := (takeSign_suffix r).trans hr
    simp only [List.head?_cons]
    rw [takeExponent]
    by_cases hc : c = 'e' ∨ c = 'E'
    · rw [if_pos hc]
      refine yields_position.bind ((yields_advance hs).bind ((yields_sign hr).bind
        ((yields_peek hsign).bind ?_)))
      have hdigit : startsWith Char.isDigit (takeSign r).2.head?.toList =
          startsWith Char.isDigit (takeSign r).2 := by
        cases (takeSign r).2 <;> rfl
      rw [hdigit]
      by_cases hd : startsWith Char.isDigit (takeSign r).2 = true
      · rw [if_pos hd, if_pos ⟨hc, hd⟩]
        exact yields_skipWhile Char.isDigit hsign
      · rw [if_neg hd, if_neg (fun h => hd h.2)]
        exact yields_moveTo
    · rw [if_neg hc, if_neg (fun h => hc h.1)]
      rfl

/-- A number begins with a digit or a sign. -/
theorem yields_number {c : Char} (hc : c.isDigit = true ∨ c = '-' ∨ c = '+')
    (hs : c :: r <:+ self.text.toList) :
    self.number.Yields self.text (c :: r)
      (.ok (.number (String.ofList (c :: (takeNumberTail r).1)), (takeNumberTail r).2)) := by
  have hdigits : (takeSign (c :: r)).2.dropWhile Char.isDigit = r.dropWhile Char.isDigit := by
    rcases hc with hc | rfl | rfl
    · have hsame : (takeSign (c :: r)).2 = c :: r := by
        unfold takeSign
        split
        · rename_i heq
          cases heq
          cases hc
        · rename_i heq
          cases heq
          cases hc
        · rfl
      rw [hsame, List.dropWhile_cons_of_pos hc]
    · rfl
    · rfl
  have hsign := (takeSign_suffix (c :: r)).trans hs
  have hwhole := (List.dropWhile_suffix Char.isDigit).trans hsign
  have hread := yields_skipWhile Char.isDigit hsign
  rw [hdigits] at hwhole hread
  have hfraction := (takeFraction_suffix _).trans hwhole
  have happend : c :: (takeNumberTail r).1 ++ (takeNumberTail r).2 = c :: r :=
    congrArg (c :: ·) (takeNumberTail_append r)
  exact yields_position.bind ((yields_sign hs).bind (hread.bind ((yields_fraction hwhole).bind
    ((yields_exponent hfraction).bind ((yields_lexeme hs happend).bind rfl)))))

/-! ## Dates -/

theorem yields_seconds (hs : s <:+ self.text.toList) :
    self.seconds.Yields self.text s (.ok ((), (takeSeconds s).2)) := by
  refine (yields_goesOnLike (by decide) hs).bind ?_
  rw [takeSeconds]
  split
  · exact (yields_advanceBy 3 hs).bind (yields_fraction ((List.drop_suffix 3 s).trans hs))
  · exact rfl

theorem yields_zone (hs : s <:+ self.text.toList) :
    self.zone.Yields self.text s (.ok (decide ((takeZone s).1 ≠ []), (takeZone s).2)) := by
  refine (yields_peek hs).bind ?_
  by_cases hz : s.head? = some 'Z'
  · obtain ⟨r, rfl⟩ := List.head?_eq_some_iff.mp hz
    exact (yields_advance hs).bind rfl
  · have hstart : startsWith (· == 'Z') s = false := by
      cases s with
      | nil => rfl
      | cons c r => simpa using hz
    have hoffset : ∀ {shape : List Char}, hasShape shape s = true → shape.length = 6 →
        (self.advanceBy 6 >>= fun _ => pure true).Yields self.text s
          (.ok (decide (s.take 6 ≠ []), s.drop 6)) := by
      intro shape hshape hlength
      have hle := length_le_of_hasShape hshape
      have hne : s.take 6 ≠ [] := by
        rw [ne_eq, List.take_eq_nil_iff]
        rintro (h | rfl)
        · cases h
        · rw [hlength] at hle
          cases hle
      rw [decide_eq_true hne]
      exact (yields_advanceBy 6 hs).bind rfl
    rw [if_neg hz, takeZone, hstart]
    refine (yields_goesOnLike (by decide) hs).bind ?_
    cases hplus : hasShape "+99:99".toList s with
    | true => exact hoffset hplus rfl
    | false =>
      refine (yields_goesOnLike (by decide) hs).bind ?_
      cases hminus : hasShape "-99:99".toList s with
      | true => exact hoffset hminus rfl
      | false => exact rfl

theorem yields_date (hs : s <:+ self.text.toList) :
    self.date.Yields self.text s (.ok (takeDate s)) := by
  have hrest := (List.drop_suffix 10 s).trans hs
  refine yields_position.bind ((yields_advanceBy 10 hs).bind
    ((yields_goesOnLike (by decide) hrest).bind ?_))
  rw [takeDate]
  split
  · have htime := (List.drop_suffix 6 (s.drop 10)).trans hrest
    have hseconds := (takeSeconds_suffix ((s.drop 10).drop 6)).trans htime
    have happend : s.take 10 ++ (s.drop 10).take 6 ++ (takeSeconds ((s.drop 10).drop 6)).1 ++
        (takeSeconds ((s.drop 10).drop 6)).2 = s := by
      simp only [List.append_assoc, takeSeconds_append, List.take_append_drop]
    have hzone := takeZone_append (takeSeconds ((s.drop 10).drop 6)).2
    refine (yields_advanceBy 6 hrest).bind ((yields_seconds htime).bind
      ((yields_zone hseconds).bind ?_))
    by_cases hnone : (takeZone (takeSeconds ((s.drop 10).drop 6)).2).1 = []
    · rw [hnone, List.nil_append] at hzone
      simp only [hnone, hzone]
      exact (yields_lexeme hs happend).bind rfl
    · rw [← hzone, ← List.append_assoc] at happend
      simp only [hnone, ne_eq, not_false_iff, decide_true, if_true, if_false]
      exact (yields_lexeme hs happend).bind rfl
  · exact (yields_lexeme hs (List.take_append_drop 10 s)).bind rfl

end ContentFilter.Expr.Cursor
