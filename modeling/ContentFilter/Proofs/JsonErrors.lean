import ContentFilter.Json.Reader

/-!
# Errors of JSON texts point into them

What a reader leaves of a text is an end of it, and where a reader stops is a place in the text. So
an error has a line and a column of the whole text, and an error saying that the text ends too early
stands at its end.
-/

namespace ContentFilter.Json

open Text (Parsed)

variable {r s : List Char}

/-- The fault is that the text ends. -/
def Fault.isEnd : Fault → Bool
  | unendedArray | unendedObject | unendedString | missingValue => true
  | _ => false

/-- The failure comes after some of the text, or after all of it if the fault is that the text
    ends. -/
structure Failure.LiesIn (f : Failure) (s : List Char) : Prop where
  left_lt : f.fault.isEnd = false → f.left < (String.ofList s).utf8ByteSize
  at_end : f.fault.isEnd = true → f.left = 0

/-- A reader of `s` keeps to it: what it leaves is an end of `s`, and where it fails is a place in
    `s`. -/
inductive Bounded {α : Type} (s : List Char) (rest : α → List Char) : Except Failure α → Prop where
  /-- The reader comes to a result. -/
  | ok {a : α} (h : rest a <:+ s) : Bounded s rest (.ok a)
  /-- The reader fails. -/
  | error {f : Failure} (h : f.LiesIn s) : Bounded s rest (.error f)

/-! ## Places -/

theorem utf8ByteSize_le_of_suffix (h : r <:+ s) :
    (String.ofList r).utf8ByteSize ≤ (String.ofList s).utf8ByteSize := by
  obtain ⟨t, rfl⟩ := h
  rw [String.ofList_append, String.utf8ByteSize_append]
  exact Nat.le_add_left _ _

theorem utf8ByteSize_lt_of_suffix (h : r <:+ s) (hlt : r.length < s.length) :
    (String.ofList r).utf8ByteSize < (String.ofList s).utf8ByteSize := by
  obtain ⟨t, rfl⟩ := h
  cases t with
  | nil => exact absurd hlt (Nat.lt_irrefl _)
  | cons c t =>
    have hpos := c.utf8Size_pos
    rw [List.cons_append, String.ofList_cons, String.utf8ByteSize_append,
      String.utf8ByteSize_singleton]
    exact Nat.lt_of_le_of_lt (utf8ByteSize_le_of_suffix (List.suffix_append t r)) (by omega)

namespace Failure

variable {f : Failure} {fault : Fault}

theorem LiesIn.of_suffix (h : f.LiesIn r) (hr : r <:+ s) : f.LiesIn s :=
  ⟨fun hend => Nat.lt_of_lt_of_le (h.left_lt hend) (utf8ByteSize_le_of_suffix hr), h.at_end⟩

theorem liesIn_before (hr : r <:+ s) (hlt : r.length < s.length) (hend : fault.isEnd = false) :
    (before fault r).LiesIn s :=
  ⟨fun _ => utf8ByteSize_lt_of_suffix hr hlt, fun h => Bool.noConfusion (hend.symm.trans h)⟩

theorem liesIn_after (hr : r <:+ s) (hne : r ≠ []) (hend : fault.isEnd = false) :
    (after fault r).LiesIn s := by
  refine ⟨fun _ => ?_, fun h => Bool.noConfusion (hend.symm.trans h)⟩
  have hpos := utf8ByteSize_lt_of_suffix (List.nil_suffix (l := r)) (List.length_pos_iff.mpr hne)
  exact Nat.lt_of_lt_of_le (Nat.sub_lt (Nat.zero_lt_of_lt hpos) Nat.one_pos)
    (utf8ByteSize_le_of_suffix hr)

theorem liesIn_end (s : List Char) (hend : fault.isEnd = true) : (before fault []).LiesIn s :=
  ⟨fun h => Bool.noConfusion (hend.symm.trans h), fun _ => rfl⟩

theorem liesIn_noCode (s : List Char) : (noCode s).LiesIn s := by
  unfold noCode
  dsimp only
  split
  · exact ⟨nofun, fun _ => rfl⟩
  · exact ⟨fun _ => Nat.sub_lt (by omega) (by decide), nofun⟩

theorem liesIn_noDigit (s : List Char) : (noDigit s).LiesIn s := by
  unfold noDigit
  split
  · exact liesIn_end _ rfl
  · rename_i hne
    exact liesIn_after List.suffix_rfl hne rfl

end Failure

namespace Bounded

variable {α : Type} {rest : α → List Char} {x : Except Failure α} {a : α} {f : Failure}

theorem suffix (h : Bounded s rest x) (hx : x = .ok a) : rest a <:+ s := by
  subst hx
  cases h
  assumption

theorem liesIn (h : Bounded s rest x) (hx : x = .error f) : f.LiesIn s := by
  subst hx
  cases h
  assumption

theorem of_suffix (h : Bounded r rest x) (hr : r <:+ s) : Bounded s rest x := by
  cases h with
  | ok h => exact .ok (h.trans hr)
  | error h => exact .error (h.of_suffix hr)

end Bounded

open Failure

/-! ## Strings -/

theorem bounded_readCode (s : List Char) : Bounded s Parsed.rest (readCode s) := by
  unfold readCode
  split
  · split
    · exact .ok ⟨[_, _, _, _], rfl⟩
    · exact .error (liesIn_noCode _)
  · exact .error (liesIn_noCode _)

theorem bounded_readLowSurrogate (high : Nat) (s : List Char) :
    Bounded s Parsed.rest (readLowSurrogate high s) := by
  have htail : ∀ r : List Char, r <:+ '\\' :: 'u' :: r := fun r => ⟨['\\', 'u'], rfl⟩
  unfold readLowSurrogate
  split
  · exact .error (liesIn_end _ rfl)
  · exact .error (liesIn_end _ rfl)
  · rename_i r
    have hcode := (bounded_readCode r).of_suffix (htail r)
    split
    · rename_i e he
      exact .error (hcode.liesIn he)
    · rename_i p hp
      have hrest := hcode.suffix hp
      split
      · exact .ok hrest
      · exact .error (liesIn_before hrest (Nat.lt_succ_of_lt (Nat.lt_succ_of_lt p.shorter)) rfl)
  · rename_i hne _
    exact .error (liesIn_after (List.suffix_cons _ _) (fun hnil => hne (hnil ▸ rfl)) rfl)
  · rename_i hne _ _ _
    exact .error (liesIn_after List.suffix_rfl hne rfl)

theorem bounded_readEscape (s : List Char) : Bounded s Parsed.rest (readEscape s) := by
  unfold readEscape
  split
  case h_1 => exact .error (liesIn_end _ rfl)
  case h_10 r =>
    have hcode := (bounded_readCode r).of_suffix (List.suffix_cons 'u' r)
    split
    · rename_i e he
      exact .error (hcode.liesIn he)
    · rename_i p hp
      have hrest := hcode.suffix hp
      split
      · exact .ok hrest
      · split
        · exact .error (liesIn_before hrest (Nat.lt_succ_of_lt p.shorter) rfl)
        · have hlow := (bounded_readLowSurrogate p.value p.rest).of_suffix hrest
          split
          · rename_i e he
            exact .error (hlow.liesIn he)
          · rename_i q hq
            exact .ok (hlow.suffix hq)
  case h_11 hne _ _ _ _ _ _ _ _ _ => exact .error (liesIn_after List.suffix_rfl hne rfl)
  -- The other escapes are one character long.
  all_goals exact .ok (List.suffix_cons _ _)

theorem bounded_readString (s : List Char) : Bounded s Parsed.rest (readString s) := by
  induction hn : s.length using Nat.strongRecOn generalizing s with
  | ind n ih =>
    subst hn
    unfold readString
    split
    · exact .error (liesIn_end _ rfl)
    · exact .ok (List.suffix_cons _ _)
    · rename_i r
      have hescape := (bounded_readEscape r).of_suffix (List.suffix_cons '\\' r)
      split
      · rename_i e he
        exact .error (hescape.liesIn he)
      · rename_i p hp
        have hrest := hescape.suffix hp
        have hstring := (ih _ (Nat.lt_succ_of_lt p.shorter) p.rest rfl).of_suffix hrest
        split
        · rename_i e he
          exact .error (hstring.liesIn he)
        · rename_i q hq
          exact .ok (hstring.suffix hq)
    · rename_i c r _ _
      have hstring := (ih _ (Nat.lt_succ_self _) r rfl).of_suffix (List.suffix_cons c r)
      split
      · exact .error (liesIn_after List.suffix_rfl (List.cons_ne_nil c r) rfl)
      · split
        · rename_i e he
          exact .error (hstring.liesIn he)
        · rename_i q hq
          have hrest := hstring.suffix hq
          exact .ok hrest

/-! ## Numbers -/

theorem bounded_readFraction (s : List Char) : Bounded s Prod.snd (readFraction s) := by
  unfold readFraction
  split
  · rename_i r
    have htail : r <:+ '.' :: r := List.suffix_cons _ _
    split
    · exact .error ((liesIn_noDigit r).of_suffix htail)
    · exact .ok ((List.dropWhile_suffix _).trans htail)
  · exact .ok List.suffix_rfl

theorem bounded_readExponentDigits (negative : Bool) (s : List Char) :
    Bounded s Prod.snd (readExponentDigits negative s) := by
  unfold readExponentDigits
  split
  · exact .error (liesIn_noDigit s)
  · exact .ok (List.dropWhile_suffix _)

theorem bounded_readExponent (s : List Char) : Bounded s Prod.snd (readExponent s) := by
  unfold readExponent
  split
  · rename_i c r
    have htail : r <:+ c :: r := List.suffix_cons _ _
    split
    · split
      · exact (bounded_readExponentDigits true _).of_suffix ((List.suffix_cons _ _).trans htail)
      · exact (bounded_readExponentDigits false _).of_suffix ((List.suffix_cons _ _).trans htail)
      · exact (bounded_readExponentDigits false _).of_suffix htail
    · exact .ok List.suffix_rfl
  · exact .ok List.suffix_rfl

theorem behindOverflow_suffix (start : Nat) (s : List Char) : behindOverflow start s <:+ s := by
  induction s generalizing start with
  | nil => exact List.suffix_rfl
  | cons c s ih =>
    rw [behindOverflow]
    split
    · exact (ih _).trans (List.suffix_cons c s)
    · exact List.suffix_cons c s

theorem liesIn_outOfRange {rest : List Char} (exponent : Option Int) (hrest : rest <:+ r)
    (hr : r <:+ s) (hlt : r.length < s.length) : (outOfRange exponent r rest).LiesIn s := by
  have hbefore : ∀ place, place <:+ r → (before .numberOutOfRange place).LiesIn s :=
    fun place hplace =>
      liesIn_before (hplace.trans hr) (Nat.lt_of_le_of_lt hplace.length_le hlt) rfl
  unfold outOfRange
  split
  · exact hbefore _ hrest
  · exact hbefore _ ((behindOverflow_suffix _ _).trans (List.dropWhile_suffix _))

theorem bounded_readMagnitude (negative : Bool) (s : List Char) :
    Bounded s Parsed.rest (readMagnitude negative s) := by
  have hlead : s.dropWhile Char.isDigit <:+ s := List.dropWhile_suffix _
  unfold readMagnitude
  dsimp only
  split
  · exact .error (liesIn_noDigit s)
  · rename_i hdigits
    split
    · rename_i hzero
      have htail : s.tail ≠ [] := by
        intro hnil
        have hle := (List.takeWhile_prefix (l := s) Char.isDigit).length_le
        have hlength : s.length - 1 = 0 := by rw [← List.length_tail, hnil, List.length_nil]
        have hpos := List.length_pos_iff.mpr hdigits
        omega
      exact .error (liesIn_after (List.tail_suffix s) htail rfl)
    · have hfraction := bounded_readFraction (s.dropWhile Char.isDigit)
      split
      · rename_i e he
        exact .error ((hfraction.liesIn he).of_suffix hlead)
      · rename_i trail r hr
        have hr := hfraction.suffix hr
        have hlt := Nat.lt_of_le_of_lt hr.length_le (Text.length_dropWhile_lt hdigits)
        have hr := hr.trans hlead
        have hexponent := bounded_readExponent r
        split
        · rename_i e he
          exact .error ((hexponent.liesIn he).of_suffix hr)
        · rename_i exponent r' hr'
          have hr' := hexponent.suffix hr'
          split
          · exact .error (liesIn_outOfRange exponent hr' hr hlt)
          · exact .ok (hr'.trans hr)

theorem bounded_readNumber (s : List Char) : Bounded s Parsed.rest (readNumber s) := by
  unfold readNumber
  split
  · rename_i r
    have hmagnitude := (bounded_readMagnitude true r).of_suffix (List.suffix_cons '-' r)
    split
    · rename_i e he
      exact .error (hmagnitude.liesIn he)
    · rename_i p hp
      exact .ok (hmagnitude.suffix hp)
  · exact bounded_readMagnitude false s

/-! ## Values -/

theorem bounded_afterWord (word s : List Char) : Bounded s id (afterWord word s) := by
  induction word generalizing s with
  | nil => exact .ok List.suffix_rfl
  | cons c word ih =>
    cases s with
    | nil => exact .error (liesIn_end _ rfl)
    | cons d s =>
      rw [afterWord]
      split
      · exact (ih s).of_suffix (List.suffix_cons d s)
      · exact .error (liesIn_after List.suffix_rfl (List.cons_ne_nil d s) rfl)

theorem bounded_readWord {c : Char} (word : List Char) (value : Json) (s : List Char) :
    Bounded (c :: s) Parsed.rest (readWord (c := c) word value s) := by
  have hword := (bounded_afterWord word s).of_suffix (List.suffix_cons c s)
  unfold readWord
  split
  · rename_i e he
    exact .error (hword.liesIn he)
  · rename_i r hr
    exact .ok (hword.suffix hr)

/-- The readers of values, and of what stands inside arrays and objects, keep to the text. -/
structure KeepsTo (s : List Char) : Prop where
  value : ∀ depth, Bounded s Parsed.rest (readValue depth s)
  items : ∀ depth, Bounded s Parsed.rest (readItems depth s)
  array : ∀ depth, Bounded s Parsed.rest (readArray depth s)
  members : ∀ depth, Bounded s Parsed.rest (readMembers depth s)
  object : ∀ depth, Bounded s Parsed.rest (readObject depth s)

theorem suffix_of_skipSpace {t : List Char} (h : skipSpace s = t) : t <:+ s :=
  h ▸ List.dropWhile_suffix _

theorem tail_of_skipSpace {c : Char} (h : skipSpace s = c :: r) : r <:+ s :=
  (List.suffix_cons c r).trans (suffix_of_skipSpace h)

section Readers

variable {depth : Nat} (hshorter : ∀ r : List Char, r.length < s.length → KeepsTo r)

include hshorter

theorem bounded_readValue : Bounded s Parsed.rest (readValue depth s) := by
  have hword : ∀ {c : Char} {r : List Char} (word : List Char) (value : Json),
      skipSpace s = c :: r → Bounded s Parsed.rest (readWord (c := c) word value r) :=
    fun word value hs => (bounded_readWord word value _).of_suffix (suffix_of_skipSpace hs)
  have hstring : ∀ {c : Char} {r : List Char}, skipSpace s = c :: r →
      Bounded s Parsed.rest (readString r) :=
    fun hs => (bounded_readString _).of_suffix (tail_of_skipSpace hs)
  have hnumber : ∀ {c : Char} {r : List Char}, skipSpace s = c :: r →
      Bounded s Parsed.rest (readNumber (c :: r)) :=
    fun hs => (bounded_readNumber _).of_suffix (suffix_of_skipSpace hs)
  have harray : ∀ {c : Char} {r : List Char} (depth : Nat), skipSpace s = c :: r →
      Bounded s Parsed.rest (readArray depth r) :=
    fun depth hs => ((hshorter _ (length_lt_of_skipSpace hs)).array depth).of_suffix
      (tail_of_skipSpace hs)
  have hobject : ∀ {c : Char} {r : List Char} (depth : Nat), skipSpace s = c :: r →
      Bounded s Parsed.rest (readObject depth r) :=
    fun depth hs => ((hshorter _ (length_lt_of_skipSpace hs)).object depth).of_suffix
      (tail_of_skipSpace hs)
  have hchar : ∀ {c : Char} {r : List Char} {fault : Fault}, skipSpace s = c :: r →
      fault.isEnd = false → (after fault (c :: r)).LiesIn s :=
    fun hs hend => liesIn_after (suffix_of_skipSpace hs) (List.cons_ne_nil _ _) hend
  fun_cases readValue depth s
  case case1 => exact .error (liesIn_end _ rfl)
  case case2 hs _ he => exact .error ((hword _ _ hs).liesIn he)
  case case3 hs _ _ hp => exact .ok ((hword _ _ hs).suffix hp)
  case case4 hs _ _ he => exact .error ((hword _ _ hs).liesIn he)
  case case5 hs _ _ _ hp => exact .ok ((hword _ _ hs).suffix hp)
  case case6 hs _ _ _ he => exact .error ((hword _ _ hs).liesIn he)
  case case7 hs _ _ _ _ hp => exact .ok ((hword _ _ hs).suffix hp)
  case case8 he hs _ _ _ _ => exact .error ((hstring hs).liesIn he)
  case case9 _ hp hs _ _ _ _ => exact .ok ((hstring hs).suffix hp)
  case case10 hs _ _ _ _ _ => exact .error (hchar hs rfl)
  case case11 he hs _ _ _ _ _ => exact .error ((harray _ hs).liesIn he)
  case case12 _ hp hs _ _ _ _ _ => exact .ok ((harray _ hs).suffix hp)
  case case13 hs _ _ _ _ _ _ => exact .error (hchar hs rfl)
  case case14 he hs _ _ _ _ _ _ => exact .error ((hobject _ hs).liesIn he)
  case case15 _ hp hs _ _ _ _ _ _ => exact .ok ((hobject _ hs).suffix hp)
  case case16 hs _ _ _ _ _ _ _ _ _ he => exact .error ((hnumber hs).liesIn he)
  case case17 hs _ _ _ _ _ _ _ _ _ hp => exact .ok ((hnumber hs).suffix hp)
  case case18 hs _ _ _ _ _ _ _ _ => exact .error (hchar hs rfl)

theorem bounded_readItems : Bounded s Parsed.rest (readItems depth s) := by
  have hvalue : Bounded s Parsed.rest (readValue depth s) := bounded_readValue hshorter
  fun_cases readItems depth s
  case case1 hclosed =>
    have hne : skipSpace s ≠ [] := by
      intro hnil
      rw [hnil] at hclosed
      cases hclosed
    exact .error (liesIn_after (suffix_of_skipSpace rfl) hne rfl)
  case case2 he => exact .error (hvalue.liesIn he)
  case case3 => exact .error (liesIn_end _ rfl)
  case case4 hp _ hs _ => exact .ok ((tail_of_skipSpace hs).trans (hvalue.suffix hp))
  case case5 hp _ _ he hs hlt _ =>
    have hcomma := (tail_of_skipSpace hs).trans (hvalue.suffix hp)
    have hitems := ((hshorter _ hlt).items depth).of_suffix hcomma
    exact .error (hitems.liesIn he)
  case case6 hp _ _ hq hs hlt _ =>
    have hcomma := (tail_of_skipSpace hs).trans (hvalue.suffix hp)
    have hitems := ((hshorter _ hlt).items depth).of_suffix hcomma
    have hrest := hitems.suffix hq
    exact .ok hrest
  case case7 hp _ _ hs _ _ _ =>
    have hrest := (suffix_of_skipSpace hs).trans (hvalue.suffix hp)
    exact .error (liesIn_after hrest (List.cons_ne_nil _ _) rfl)

theorem bounded_readMembers : Bounded s Parsed.rest (readMembers depth s) := by
  have hname : ∀ {c : Char} {r : List Char}, skipSpace s = c :: r →
      Bounded s Parsed.rest (readString r) :=
    fun hs => (bounded_readString _).of_suffix (tail_of_skipSpace hs)
  have hcolon : ∀ {c d : Char} {r r' : List Char} {q}, skipSpace s = c :: r →
      readString r = .ok q → skipSpace q.rest = d :: r' → r' <:+ s :=
    fun hs hq hk => (tail_of_skipSpace hk).trans ((hname hs).suffix hq)
  fun_cases readMembers depth s
  case case1 => exact .error (liesIn_end _ rfl)
  case case2 hs => exact .error (liesIn_after (suffix_of_skipSpace hs) (List.cons_ne_nil _ _) rfl)
  case case3 hs _ he => exact .error ((hname hs).liesIn he)
  case case4 => exact .error (liesIn_end _ rfl)
  case case5 hs _ hq _ hk hlt _ he =>
    have hvalue := ((hshorter _ hlt).value depth).of_suffix (hcolon hs hq hk)
    exact .error (hvalue.liesIn he)
  case case6 => exact .error (liesIn_end _ rfl)
  case case7 hs _ hq _ hk hlt _ hp _ hr _ =>
    have hvalue := ((hshorter _ hlt).value depth).of_suffix (hcolon hs hq hk)
    exact .ok ((tail_of_skipSpace hr).trans (hvalue.suffix hp))
  case case8 hs _ hq _ hk hlt _ hp _ _ he hr hlt' _ =>
    have hvalue := ((hshorter _ hlt).value depth).of_suffix (hcolon hs hq hk)
    have hcomma := (tail_of_skipSpace hr).trans (hvalue.suffix hp)
    have hmembers := ((hshorter _ hlt').members depth).of_suffix hcomma
    exact .error (hmembers.liesIn he)
  case case9 hs _ hq _ hk hlt _ hp _ _ hq' hr hlt' _ =>
    have hvalue := ((hshorter _ hlt).value depth).of_suffix (hcolon hs hq hk)
    have hcomma := (tail_of_skipSpace hr).trans (hvalue.suffix hp)
    have hmembers := ((hshorter _ hlt').members depth).of_suffix hcomma
    have hrest := hmembers.suffix hq'
    exact .ok hrest
  case case10 hs _ hq _ hk hlt _ hp _ _ hr _ _ _ =>
    have hvalue := ((hshorter _ hlt).value depth).of_suffix (hcolon hs hq hk)
    have hbehind := (suffix_of_skipSpace hr).trans (hvalue.suffix hp)
    exact .error (liesIn_after hbehind (List.cons_ne_nil _ _) rfl)
  case case11 hs _ hq hne _ =>
    exact .error (liesIn_after ((suffix_of_skipSpace rfl).trans ((hname hs).suffix hq)) hne rfl)
  case case12 hne _ _ => exact .error (liesIn_after (suffix_of_skipSpace rfl) hne rfl)

theorem bounded_readArray : Bounded s Parsed.rest (readArray depth s) := by
  fun_cases readArray depth s
  case case1 => exact .error (liesIn_end _ rfl)
  case case2 hs => exact .ok (tail_of_skipSpace hs)
  case case3 => exact bounded_readItems hshorter

theorem bounded_readObject : Bounded s Parsed.rest (readObject depth s) := by
  fun_cases readObject depth s
  case case1 => exact .error (liesIn_end _ rfl)
  case case2 hs => exact .ok (tail_of_skipSpace hs)
  case case3 => exact bounded_readMembers hshorter

end Readers

/-- All readers keep to the text, by induction on its length. -/
theorem keepsTo (s : List Char) : KeepsTo s := by
  induction hn : s.length using Nat.strongRecOn generalizing s with
  | ind n ih =>
    subst hn
    have hshorter : ∀ r : List Char, r.length < s.length → KeepsTo r :=
      fun r hr => ih r.length hr r rfl
    exact ⟨fun _ => bounded_readValue hshorter, fun _ => bounded_readItems hshorter,
      fun _ => bounded_readArray hshorter, fun _ => bounded_readMembers hshorter,
      fun _ => bounded_readObject hshorter⟩

/-! ## Errors -/

/-- An error has the line and the column of a place in the text, counted in bytes. Where it says
    that the text ends too early, this is the end of the text; otherwise it is behind a byte of
    it. -/
theorem exists_place_of_read {text : String} {e : Error} (h : read text = .error e) :
    ∃ seen rest, text.toUTF8.data.toList = seen ++ rest ∧ e.line = seen.count 10 + 1 ∧
      e.column = (seen.reverse.takeWhile (· ≠ 10)).length ∧
      if e.fault.isEnd then rest = [] else seen ≠ [] := by
  have hfailure : ∃ f : Failure, f.LiesIn text.toList ∧ e = f.toError text := by
    rw [read] at h
    have hvalue := (keepsTo text.toList).value depthLimit
    split at h
    · rename_i f hf
      cases h
      exact ⟨f, hvalue.liesIn hf, rfl⟩
    · rename_i p hp
      split at h
      · cases h
      · rename_i hne
        cases h
        have hrest := (suffix_of_skipSpace rfl).trans (hvalue.suffix hp)
        exact ⟨_, liesIn_after hrest hne rfl, rfl⟩
  obtain ⟨f, hf, rfl⟩ := hfailure
  have hsize : text.toUTF8.data.toList.length = text.utf8ByteSize := rfl
  refine ⟨_, _, (List.take_append_drop (text.utf8ByteSize - f.left) _).symm, rfl, rfl, ?_⟩
  have hplace : (f.toError text).fault = f.fault := rfl
  rw [hplace]
  split
  · rename_i hend
    rw [hf.at_end hend, Nat.sub_zero]
    exact List.drop_length
  · rename_i hinside
    have hlt := hf.left_lt (Bool.not_eq_true _ ▸ hinside)
    rw [String.ofList_toList] at hlt
    have hpos : 0 < text.utf8ByteSize - f.left := Nat.sub_pos_of_lt hlt
    intro hnil
    have hlength := congrArg List.length hnil
    rw [List.length_take, hsize, List.length_nil] at hlength
    omega

end ContentFilter.Json
