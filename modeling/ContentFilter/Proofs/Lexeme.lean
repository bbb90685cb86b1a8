import ContentFilter.Expr.Lexeme
import Mathlib.Data.List.TakeWhile

/-!
# Lexemes and what follows them

A lexeme is read in the same way whatever follows it, as long as that does not go on with the
lexeme. For each of them it is enough to know the first character of what follows: here that is a
text `x` with `startsWith p x = false`, where `p` holds of the characters that could go on.
-/

namespace ContentFilter.Expr

open Text

/-- What holds of the characters of a text is decided along the text, not over all characters. -/
instance (priority := 2000) decidableForallMem (s : List Char) (p : Char → Prop)
    [DecidablePred p] : Decidable (∀ c ∈ s, p c) :=
  List.decidableBAll p s

/-! ## Runs of characters -/

section Runs

variable {p : Char → Bool} {w x : List Char}

@[simp] theorem startsWith_nil : startsWith p [] = false := rfl

@[simp] theorem startsWith_cons (c : Char) : startsWith p (c :: x) = p c := rfl

theorem startsWith_append_of_stop (hx : startsWith p x = false) (s : List Char) :
    startsWith p (s ++ x) = startsWith p s := by
  cases s with
  | nil => exact hx
  | cons c s => rfl

theorem startsWith_mono {q : Char → Bool} (hpq : ∀ c, p c = true → q c = true)
    (hx : startsWith p x = true) : startsWith q x = true := by
  cases x with
  | nil => cases hx
  | cons c x => exact hpq c hx

theorem startsWith_append_of_ne_nil {s : List Char} (hs : s ≠ []) (p : Char → Bool)
    (x : List Char) : startsWith p (s ++ x) = startsWith p s := by
  cases s with
  | nil => exact absurd rfl hs
  | cons c s => rfl

theorem takeWhile_append_of_stop (hx : startsWith p x = false) (s : List Char) :
    (s ++ x).takeWhile p = s.takeWhile p := by
  induction s with
  | nil =>
    cases x with
    | nil => rfl
    | cons c x =>
      have hc : ¬ p c = true := by simpa using hx
      rw [List.nil_append, List.takeWhile_cons_of_neg hc, List.takeWhile_nil]
  | cons c s ih => rw [List.cons_append, List.takeWhile_cons, List.takeWhile_cons, ih]

theorem dropWhile_append_of_stop (hx : startsWith p x = false) (s : List Char) :
    (s ++ x).dropWhile p = s.dropWhile p ++ x := by
  induction s with
  | nil =>
    cases x with
    | nil => rfl
    | cons c x =>
      have hc : ¬ p c = true := by simpa using hx
      rw [List.nil_append, List.dropWhile_cons_of_neg hc, List.dropWhile_nil, List.nil_append]
  | cons c s ih =>
    rw [List.cons_append, List.dropWhile_cons, List.dropWhile_cons, ih]
    split <;> rfl

/-- A run of characters is taken as a whole. -/
theorem takeWhile_run (hw : ∀ c ∈ w, p c = true) (hx : startsWith p x = false) :
    (w ++ x).takeWhile p = w := by
  rw [takeWhile_append_of_stop hx, List.takeWhile_eq_self_iff.mpr hw]

theorem dropWhile_run (hw : ∀ c ∈ w, p c = true) (hx : startsWith p x = false) :
    (w ++ x).dropWhile p = x := by
  rw [dropWhile_append_of_stop hx, List.dropWhile_eq_nil_iff.mpr hw, List.nil_append]

theorem startsWith_dropWhile (p : Char → Bool) (s : List Char) :
    startsWith p (s.dropWhile p) = false := by
  cases h : s.dropWhile p with
  | nil => rfl
  | cons c r =>
    have hc := List.head?_dropWhile_not p s
    rw [h] at hc
    exact hc

theorem skipBlanks_append_of_stop (hx : startsWith isBlank x = false) (s : List Char) :
    skipBlanks (s ++ x) = skipBlanks s ++ x :=
  dropWhile_append_of_stop hx s

/-- Blanks in front are skipped. -/
theorem skipBlanks_gap {g : List Char} (hg : ∀ c ∈ g, isBlank c = true) (s : List Char) :
    skipBlanks (g ++ s) = skipBlanks s :=
  List.dropWhile_append_of_pos hg

end Runs

/-! ## ASCII -/

section Ascii

variable {c : Char}

theorem isUpper_iff : c.isUpper = true ↔ 65 ≤ c.toNat ∧ c.toNat ≤ 90 := by
  show decide ('A'.val ≤ c.val ∧ c.val ≤ 'Z'.val) = true ↔ _
  rw [decide_eq_true_iff]
  exact Iff.rfl

theorem isLower_iff : c.isLower = true ↔ 97 ≤ c.toNat ∧ c.toNat ≤ 122 := by
  show (decide ('a'.val ≤ c.val) && decide (c.val ≤ 'z'.val)) = true ↔ _
  rw [Bool.and_eq_true, decide_eq_true_iff, decide_eq_true_iff]
  exact Iff.rfl

theorem isDigit_iff : c.isDigit = true ↔ 48 ≤ c.toNat ∧ c.toNat ≤ 57 := by
  show (decide ('0'.val ≤ c.val) && decide (c.val ≤ '9'.val)) = true ↔ _
  rw [Bool.and_eq_true, decide_eq_true_iff, decide_eq_true_iff]
  exact Iff.rfl

theorem isAlpha_iff : c.isAlpha = true ↔
    (65 ≤ c.toNat ∧ c.toNat ≤ 90) ∨ (97 ≤ c.toNat ∧ c.toNat ≤ 122) := by
  show (c.isUpper || c.isLower) = true ↔ _
  rw [Bool.or_eq_true, isUpper_iff, isLower_iff]

theorem toLower_of_not_isUpper (h : ¬ c.isUpper = true) : c.toLower = c :=
  dif_neg fun hc => h (decide_eq_true hc)

end Ascii

/-! ## Blanks and words -/

/-- The runs of a table, its text given by its characters. -/
theorem runs_ofText {text : String} {cs : List Char} (h : text = String.ofList cs) :
    (RunTable.ofText text).runs = RunTable.numbersFrom none cs := by
  rw [RunTable.ofText, h, String.toList_ofList]

/-- The blanks beyond ASCII. -/
def wideBlanks : List Nat :=
  [0x85, 0xA0, 0x1680] ++ List.range' 0x2000 11 ++ [0x2028, 0x2029, 0x202F, 0x205F, 0x3000]

theorem letterTable_wideBlanks :
    ∀ n ∈ wideBlanks, RunTable.containsFrom letterTable.runs n = false := by
  unfold letterTable
  rw [runs_ofText rfl]
  decide +kernel

theorem numberTable_wideBlanks :
    ∀ n ∈ wideBlanks, RunTable.containsFrom numberTable.runs n = false := by
  unfold numberTable
  rw [runs_ofText rfl]
  decide +kernel

/-- A blank is an ASCII control character, the space or one of the wide blanks. -/
theorem toNat_of_isBlank {c : Char} (h : isBlank c = true) :
    (9 ≤ c.toNat ∧ c.toNat ≤ 13) ∨ c.toNat = 32 ∨ c.toNat ∈ wideBlanks := by
  simp only [isBlank, Bool.or_eq_true, Bool.and_eq_true, decide_eq_true_eq, beq_iff_eq] at h
  simp only [wideBlanks, List.mem_append, List.mem_cons, List.mem_range'_1, List.not_mem_nil]
  omega

/-- ASCII characters below the digits are neither letters nor digits. -/
theorem isAlphanumeric_of_toNat_lt {c : Char} (h : c.toNat < 48) : isAlphanumeric c = false := by
  have hlow : c.toNat < 128 := by omega
  have halpha : c.isAlpha = false := by
    rw [← Bool.not_eq_true, isAlpha_iff]
    omega
  have hdigit : c.isDigit = false := by
    rw [← Bool.not_eq_true, isDigit_iff]
    omega
  rw [isAlphanumeric, isAlphabetic, isNumeric, if_pos hlow, if_pos hlow, halpha, hdigit,
    Bool.or_false]

theorem isAlphanumeric_of_mem_wideBlanks {c : Char} (h : c.toNat ∈ wideBlanks) :
    isAlphanumeric c = false := by
  have hwide : ∀ n ∈ wideBlanks, ¬ n < 128 := by decide
  rw [isAlphanumeric, isAlphabetic, isNumeric, if_neg (hwide _ h), if_neg (hwide _ h),
    RunTable.contains, RunTable.contains, letterTable_wideBlanks _ h, numberTable_wideBlanks _ h,
    Bool.or_false]

/-- No blank stands in a word. -/
theorem isWordChar_of_isBlank {c : Char} (h : isBlank c = true) : isWordChar c = false := by
  have hplain : isAlphanumeric c = false := by
    rcases toNat_of_isBlank h with hc | hc | hc
    · exact isAlphanumeric_of_toNat_lt (by omega)
    · exact isAlphanumeric_of_toNat_lt (by omega)
    · exact isAlphanumeric_of_mem_wideBlanks hc
  have hne : ∀ d : Char, isBlank d = false → (c == d) = false := by
    intro d hd
    rw [beq_eq_false_iff_ne]
    rintro rfl
    rw [h] at hd
    cases hd
  rw [isWordChar, hplain, hne '_' rfl, hne ':' rfl, hne '-' rfl, hne '.' rfl, hne '/' rfl]
  rfl

theorem isWordChar_of_isDigit {c : Char} (h : c.isDigit = true) : isWordChar c = true := by
  have hrange := isDigit_iff.mp h
  have hlow : c.toNat < 128 := by omega
  have hnumeric : isNumeric c = true := by rw [isNumeric, if_pos hlow, h]
  simp [isWordChar, isAlphanumeric, hnumeric]

theorem isBlank_of_isWordChar {c : Char} (h : isWordChar c = true) : isBlank c = false := by
  by_contra hblank
  rw [Bool.not_eq_false] at hblank
  rw [isWordChar_of_isBlank hblank] at h
  cases h

/-! ## Keywords and operators -/

theorem isAlpha_of_toLower {c d : Char} (hd : d.isLower = true) (h : c.toLower = d) :
    c.isAlpha = true := by
  by_cases hc : c.isUpper = true
  · exact isAlpha_iff.mpr (.inl (isUpper_iff.mp hc))
  · rw [toLower_of_not_isUpper hc] at h
    exact isAlpha_iff.mpr (.inr (isLower_iff.mp (h ▸ hd)))

theorem isAlphabetic_of_isAlpha {c : Char} (h : c.isAlpha = true) : isAlphabetic c = true := by
  have hrange := isAlpha_iff.mp h
  have hlt : c.toNat < 128 := by omega
  rw [isAlphabetic, if_pos hlt, h]

/-- ASCII letters may stand in a word. -/
theorem isWordChar_of_isAlpha {c : Char} (h : c.isAlpha = true) : isWordChar c = true := by
  simp [isWordChar, isAlphanumeric, isAlphabetic_of_isAlpha h]

/-- A keyword in any case is a run of characters of words. -/
theorem isWordChar_of_map_toLower {word w : List Char} (hword : ∀ d ∈ word, d.isLower = true)
    (hw : w.map Char.toLower = word) : ∀ c ∈ w, isWordChar c = true := by
  intro c hc
  have hmem : c.toLower ∈ word := hw ▸ List.mem_map_of_mem hc
  exact isWordChar_of_isAlpha (isAlpha_of_toLower (hword _ hmem) rfl)

/-- A word is found in front of a text exactly if it stands there in some case. -/
theorem afterWord?_eq_some_iff {word s r : List Char} :
    afterWord? word s = some r ↔ ∃ w, s = w ++ r ∧ w.map Char.toLower = word := by
  induction word generalizing s with
  | nil =>
    constructor
    · intro h
      cases h
      exact ⟨[], rfl, rfl⟩
    · rintro ⟨w, rfl, hw⟩
      rw [List.map_eq_nil_iff.mp hw]
      rfl
  | cons d word ih =>
    cases s with
    | nil =>
      constructor
      · intro h
        cases h
      · rintro ⟨w, hw, hmap⟩
        rw [(List.append_eq_nil_iff.mp hw.symm).1] at hmap
        cases hmap
    | cons c s =>
      rw [afterWord?]
      split
      · rename_i hc
        rw [ih]
        constructor
        · rintro ⟨w, rfl, hw⟩
          exact ⟨c :: w, rfl, by rw [List.map_cons, hc, hw]⟩
        · rintro ⟨w, hs, hmap⟩
          cases w with
          | nil => cases hmap
          | cons b w =>
            rw [List.cons_append] at hs
            rw [List.map_cons] at hmap
            exact ⟨w, (List.cons.inj hs).2, (List.cons.inj hmap).2⟩
      · rename_i hc
        constructor
        · intro h
          cases h
        · rintro ⟨w, hs, hmap⟩
          cases w with
          | nil => cases hmap
          | cons b w =>
            rw [List.cons_append] at hs
            rw [List.map_cons] at hmap
            exact absurd ((List.cons.inj hs).1 ▸ (List.cons.inj hmap).1) hc

/-- A keyword is what the word in front of a text is in lower case. -/
theorem afterKeyword?_eq {word : List Char} (hword : ∀ d ∈ word, d.isLower = true)
    (s : List Char) :
    afterKeyword? word s =
      if (s.takeWhile isWordChar).map Char.toLower = word then some (s.dropWhile isWordChar)
      else none := by
  split
  · rename_i h
    refine Option.filter_eq_some_iff.mpr ⟨?_, ?_⟩
    · exact afterWord?_eq_some_iff.mpr ⟨_, List.takeWhile_append_dropWhile.symm, h⟩
    · rw [startsWith_dropWhile]
      rfl
  · rename_i h
    rw [Option.eq_none_iff_forall_ne_some]
    intro r hr
    obtain ⟨hafter, hstop⟩ := Option.filter_eq_some_iff.mp hr
    obtain ⟨w, rfl, hw⟩ := afterWord?_eq_some_iff.mp hafter
    have hrun := isWordChar_of_map_toLower hword hw
    rw [takeWhile_run hrun (by simpa using hstop)] at h
    exact h hw

/-- An operator is written with symbols or else with words. -/
theorem readOperator?_eq (s : List Char) :
    readOperator? s =
      (symbolOperators.findSome? fun x => (afterPrefix? x.1 s).map (x.2, ·)).or
        (phraseOperators.findSome? fun x => (afterPhrase? x.1 s).map (x.2, ·)) := by
  rw [readOperator?]
  cases symbolOperators.findSome? fun x => (afterPrefix? x.1 s).map (x.2, ·) <;> rfl

/-! ## Numbers and dates -/

/-- The characters by which a number or a date could go on. -/
def isLiteralChar (c : Char) : Bool :=
  c.isDigit || ['.', 'e', 'E', '+', '-', ':', 'T', 'Z'].contains c

/-- A text with a shape is as long as the shape at least. -/
theorem length_le_of_hasShape {shape s : List Char} (h : hasShape shape s = true) :
    shape.length ≤ s.length := by
  induction shape generalizing s with
  | nil => exact Nat.zero_le _
  | cons y shape ih =>
    cases s with
    | nil => cases h
    | cons c s =>
      rw [hasShape, Bool.and_eq_true] at h
      exact Nat.succ_le_succ (ih h.2)

section Literals

variable {x : List Char} (hx : startsWith isLiteralChar x = false)

include hx

theorem startsWith_of_isLiteralChar {p : Char → Bool}
    (hp : ∀ c, p c = true → isLiteralChar c = true) : startsWith p x = false := by
  cases x with
  | nil => rfl
  | cons c x =>
    by_contra h
    have hc : p c = true := by simpa using h
    rw [startsWith_cons, hp c hc] at hx
    cases hx

theorem startsWith_isDigit_of_stop : startsWith Char.isDigit x = false :=
  startsWith_of_isLiteralChar hx fun c hc => by rw [isLiteralChar, hc, Bool.true_or]

theorem ne_cons_of_stop {c : Char} (hc : isLiteralChar c = true) (r : List Char) : x ≠ c :: r := by
  rintro rfl
  rw [startsWith_cons, hc] at hx
  cases hx

theorem takeFraction_append_of_stop (s : List Char) :
    takeFraction (s ++ x) = ((takeFraction s).1, (takeFraction s).2 ++ x) := by
  have hdigit := startsWith_isDigit_of_stop hx
  cases s with
  | nil =>
    have hdot := ne_cons_of_stop hx (c := '.') rfl
    cases x with
    | nil => rfl
    | cons c x =>
      rw [List.nil_append, takeFraction]
      · rfl
      · intro r hr
        exact hdot r hr
  | cons c s =>
    by_cases hc : c = '.'
    · subst hc
      rw [List.cons_append, takeFraction, takeFraction, startsWith_append_of_stop hdigit]
      split
      · rw [takeWhile_append_of_stop hdigit, dropWhile_append_of_stop hdigit]
      · rfl
    · have hne : ∀ t r : List Char, c :: t ≠ '.' :: r := fun t r h => hc (List.cons.inj h).1
      rw [List.cons_append, takeFraction, takeFraction]
      · rfl
      · intro r hr
        exact hne _ r hr
      · intro r hr
        exact hne _ r hr

theorem takeSign_append_of_stop (s : List Char) :
    takeSign (s ++ x) = ((takeSign s).1, (takeSign s).2 ++ x) := by
  cases s with
  | nil =>
    cases x with
    | nil => rfl
    | cons c x =>
      rw [List.nil_append, takeSign]
      · rfl
      · intro r hr
        exact ne_cons_of_stop hx (c := '+') rfl r hr
      · intro r hr
        exact ne_cons_of_stop hx (c := '-') rfl r hr
  | cons c s =>
    rw [List.cons_append]
    unfold takeSign
    split <;> simp_all

theorem takeExponent_append_of_stop (s : List Char) :
    takeExponent (s ++ x) = ((takeExponent s).1, (takeExponent s).2 ++ x) := by
  have hdigit := startsWith_isDigit_of_stop hx
  cases s with
  | nil =>
    cases x with
    | nil => rfl
    | cons c x =>
      have hc : ¬ ((c = 'e' ∨ c = 'E') ∧ startsWith Char.isDigit (takeSign x).2) := by
        rintro ⟨rfl | rfl, -⟩
        · exact ne_cons_of_stop hx (c := 'e') rfl x rfl
        · exact ne_cons_of_stop hx (c := 'E') rfl x rfl
      rw [List.nil_append, takeExponent, if_neg hc]
      rfl
  | cons c s =>
    rw [List.cons_append, takeExponent, takeExponent, takeSign_append_of_stop hx,
      startsWith_append_of_stop hdigit, takeWhile_append_of_stop hdigit,
      dropWhile_append_of_stop hdigit]
    split <;> rfl

theorem takeNumberTail_append_of_stop (s : List Char) :
    takeNumberTail (s ++ x) = ((takeNumberTail s).1, (takeNumberTail s).2 ++ x) := by
  have hdigit := startsWith_isDigit_of_stop hx
  simp only [takeNumberTail, takeWhile_append_of_stop hdigit, dropWhile_append_of_stop hdigit,
    takeFraction_append_of_stop hx, takeExponent_append_of_stop hx]

theorem hasShape_append_of_stop {shape : List Char}
    (hshape : ∀ y ∈ shape, y = '9' ∨ isLiteralChar y = true) (s : List Char) :
    hasShape shape (s ++ x) = hasShape shape s := by
  induction shape generalizing s with
  | nil => rfl
  | cons y shape ih =>
    cases s with
    | nil =>
      cases x with
      | nil => rfl
      | cons c x =>
        have hc : isLiteralChar c = false := hx
        have hnot : (if y = '9' then c.isDigit else c == y) = false := by
          rcases hshape y (by simp) with rfl | hy
          · exact startsWith_isDigit_of_stop hx
          · split
            · exact startsWith_isDigit_of_stop hx
            · rw [beq_eq_false_iff_ne]
              rintro rfl
              rw [hc] at hy
              cases hy
        rw [List.nil_append, hasShape, hasShape, hnot, Bool.false_and]
    | cons c s =>
      rw [List.cons_append, hasShape, hasShape, ih fun y hy => hshape y (by simp [hy])]

theorem takeSeconds_append_of_stop (s : List Char) :
    takeSeconds (s ++ x) = ((takeSeconds s).1, (takeSeconds s).2 ++ x) := by
  unfold takeSeconds
  rw [hasShape_append_of_stop hx (by decide)]
  split
  · rename_i h
    have hlen : 3 ≤ s.length := length_le_of_hasShape h
    simp only [List.take_append_of_le_length hlen, List.drop_append_of_le_length hlen,
      takeFraction_append_of_stop hx]
  · rfl

theorem takeZone_append_of_stop (s : List Char) :
    takeZone (s ++ x) = ((takeZone s).1, (takeZone s).2 ++ x) := by
  have hz : startsWith (· == 'Z') x = false :=
    startsWith_of_isLiteralChar hx fun c hc => by rw [beq_iff_eq.mp hc]; rfl
  unfold takeZone
  rw [startsWith_append_of_stop hz, hasShape_append_of_stop hx (by decide),
    hasShape_append_of_stop hx (by decide)]
  split
  · rename_i h
    cases s with
    | nil => cases h
    | cons c s => rfl
  · split
    · rename_i h
      have hlen : 6 ≤ s.length := by
        rcases Bool.or_eq_true _ _ ▸ h with h | h
        · exact length_le_of_hasShape h
        · exact length_le_of_hasShape h
      rw [List.take_append_of_le_length hlen, List.drop_append_of_le_length hlen]
    · rfl

theorem takeDate_append_of_stop {s : List Char} (hs : hasShape dateShape s = true) :
    takeDate (s ++ x) = ((takeDate s).1, (takeDate s).2 ++ x) := by
  have hlen : 10 ≤ s.length := length_le_of_hasShape hs
  have htime : hasShape "T99:99".toList (s.drop 10 ++ x) = hasShape "T99:99".toList (s.drop 10) :=
    hasShape_append_of_stop hx (by decide) (s.drop 10)
  simp only [takeDate, List.take_append_of_le_length hlen, List.drop_append_of_le_length hlen,
    htime]
  split
  · rename_i h
    have hsix : 6 ≤ (s.drop 10).length := length_le_of_hasShape h
    simp only [List.take_append_of_le_length hsix, List.drop_append_of_le_length hsix,
      takeSeconds_append_of_stop hx, takeZone_append_of_stop hx]
    split <;> rfl
  · rfl

end Literals

/-! ## Strings -/

/-- What a reading comes to: its value and the text after it. -/
def Outcome.result {s : List Char} {α : Type} (o : Outcome s α) :
    Except Failure (α × List Char) :=
  o.map fun p => (p.value, p.rest)

theorem map_eq_ok_iff {α β : Type} {o : Except Failure α} {f : α → β} {b : β} :
    o.map f = .ok b ↔ ∃ a, o = .ok a ∧ f a = b := by
  cases o <;> simp [Except.map]

theorem bind_eq_ok_iff {α β : Type} {o : Except Failure α} {f : α → Except Failure β} {b : β} :
    o.bind f = .ok b ↔ ∃ a, o = .ok a ∧ f a = .ok b := by
  cases o <;> simp [Except.bind]

theorem result_readString_cons (quote : Char) (opening : List Char) (c : Char) (r : List Char) :
    (readString quote opening (c :: r)).result =
      if c = quote then .ok ([], r)
      else if c = '\\' then
        match readEscape? r with
        | none => .error ⟨.invalidEscape, c :: r⟩
        | some p => (readString quote opening p.rest).result.map fun x => (p.value :: x.1, x.2)
      else (readString quote opening r).result.map fun x => (c :: x.1, x.2) := by
  rw [readString]
  split
  · rfl
  · split
    · cases readEscape? r with
      | none => rfl
      | some p =>
        simp only
        cases readString quote opening p.rest <;> rfl
    · cases readString quote opening r <;> rfl

/-- An escape is read in the same way whatever follows it. -/
theorem readEscape?_append {s : List Char} {p : Parsed s Char} (h : readEscape? s = some p)
    (x : List Char) :
    ∃ p' : Parsed (s ++ x) Char, readEscape? (s ++ x) = some p' ∧
      p'.value = p.value ∧ p'.rest = p.rest ++ x := by
  unfold readEscape? at h
  split at h
  case h_7 a b c d r =>
    split at h
    · rename_i v hv
      cases h
      exact ⟨(Parsed.single v).after.after.after.after, by simp [readEscape?, hv], rfl, rfl⟩
    · cases h
  case h_8 => cases h
  all_goals
    cases h
    exact ⟨_, rfl, rfl, rfl⟩

/-- A string that is closed is read in the same way whatever follows it. -/
theorem result_readString_append {quote : Char} {opening opening' : List Char} (x : List Char) :
    ∀ {s cs t : List Char}, (readString quote opening s).result = .ok (cs, t) →
      (readString quote opening' (s ++ x)).result = .ok (cs, t ++ x)
  | [], cs, t, h => by
    rw [readString] at h
    cases h
  | c :: r, cs, t, h => by
    rw [result_readString_cons] at h
    rw [List.cons_append, result_readString_cons]
    by_cases hq : c = quote
    · rw [if_pos hq] at h ⊢
      cases h
      rfl
    · rw [if_neg hq] at h ⊢
      by_cases hb : c = '\\'
      · rw [if_pos hb] at h ⊢
        cases he : readEscape? r with
        | none =>
          rw [he] at h
          cases h
        | some p =>
          rw [he] at h
          obtain ⟨p', hp', hvalue, hrest⟩ := readEscape?_append he x
          obtain ⟨⟨ds, u⟩, hread, heq⟩ := map_eq_ok_iff.mp h
          cases heq
          have hlt := p.shorter
          have ih : (readString quote opening' (p.rest ++ x)).result = .ok (ds, u ++ x) :=
            result_readString_append x hread
          rw [← hrest] at ih
          simp only [hp', ih, Except.map, hvalue]
      · rw [if_neg hb] at h ⊢
        obtain ⟨⟨ds, u⟩, hread, heq⟩ := map_eq_ok_iff.mp h
        cases heq
        rw [result_readString_append x hread]
        rfl
termination_by s => s.length
decreasing_by
  · simp only [List.length_cons]
    omega
  · simp only [List.length_cons]
    omega

end ContentFilter.Expr
