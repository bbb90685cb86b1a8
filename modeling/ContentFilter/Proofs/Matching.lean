import ContentFilter.Regex.Reach

/-!
# The matcher finds what an expression matches

A walk maps a set of places to the places that matches from there end at. For a repetition it cuts
the counts off at one more than the text has characters. This leaves nothing out: with so many turns
one of them is empty, for a match never goes back and there are no more places than that, and an
empty turn may be left out or taken twice.
-/

namespace ContentFilter.Regex

/-- In every repetition there is room between the bounds. -/
def Ordered : Regex → Prop
  | empty | one _ | look _ => True
  | seq a b | alt a b => a.Ordered ∧ b.Ordered
  | times r least most => r.Ordered ∧ ∀ m ∈ most, least ≤ m

variable {text : List Char} {r : Regex}

/-! ## Matches go forward -/

theorem Matches.le {i j : Nat} (h : Matches text r i j) : i ≤ j := by
  induction h with
  | empty | look | done => exact Nat.le_refl _
  | one => exact Nat.le_succ _
  | seq _ _ iha ihb => exact Nat.le_trans iha ihb
  | altLeft _ ih | altRight _ ih => exact ih
  | turn _ _ _ ihr ihrest => exact Nat.le_trans ihr ihrest

theorem Matches.le_length {i j : Nat} (h : Matches text r i j) : j ≤ text.length := by
  induction h with
  | empty hi | done hi => exact hi
  | look hi => exact hi
  | @one s i c hc _ =>
    obtain ⟨hi, -⟩ := List.getElem?_eq_some_iff.mp hc
    exact hi
  | seq _ _ _ ihb => exact ihb
  | altLeft _ ih | altRight _ ih => exact ih
  | turn _ _ _ _ ihrest => exact ihrest

/-! ## Turns -/

/-- `r` matches so many times, one after the other, from place `i` to place `j`. -/
inductive Turns (text : List Char) (r : Regex) : Nat → Nat → Nat → Prop where
  /-- No turn. -/
  | none {i : Nat} (h : i ≤ text.length) : Turns text r 0 i i
  /-- One turn, and those after it. -/
  | next {n i j k : Nat} (hr : Matches text r i j) (hrest : Turns text r n j k) :
      Turns text r (n + 1) i k

theorem Turns.le_length {n i k : Nat} (h : Turns text r n i k) : k ≤ text.length := by
  induction h with
  | none h => exact h
  | next _ _ ih => exact ih

theorem Turns.le {n i k : Nat} (h : Turns text r n i k) : i ≤ k := by
  induction h with
  | none => exact Nat.le_refl _
  | next hr _ ih => exact Nat.le_trans hr.le ih

theorem matches_times_of_turns {n i k : Nat} (h : Turns text r n i k) {least : Nat}
    {most : Option Nat} (hleast : least ≤ n) (hmost : ∀ m ∈ most, n ≤ m) :
    Matches text (.times r least most) i k := by
  induction h generalizing least most with
  | none hi =>
    obtain rfl : least = 0 := Nat.le_zero.mp hleast
    exact .done hi
  | @next n i j k hr _ ih =>
    have hsome : most ≠ some 0 := by
      rintro rfl
      have := hmost 0 rfl
      omega
    refine .turn hr hsome (ih (by omega) ?_)
    intro m hm
    obtain ⟨m', hm', rfl⟩ := Option.map_eq_some_iff.mp hm
    have := hmost m' hm'
    omega

theorem exists_turns_of_matches {t : Regex} {i k : Nat} (h : Matches text t i k) {least : Nat}
    {most : Option Nat} (ht : t = .times r least most) :
    ∃ n, least ≤ n ∧ (∀ m ∈ most, n ≤ m) ∧ Turns text r n i k := by
  induction h generalizing least most with
  | empty | one | look | seq | altLeft | altRight => cases ht
  | done hi =>
    cases ht
    exact ⟨0, Nat.le_refl _, fun m _ => Nat.zero_le m, .none hi⟩
  | turn hr hsome _ _ ih =>
    cases ht
    obtain ⟨n, hleast, hmost, hturns⟩ := ih rfl
    refine ⟨n + 1, by omega, fun m hm => ?_, .next hr hturns⟩
    have hpos : m ≠ 0 := by
      rintro rfl
      exact hsome hm
    have := hmost (m - 1) (Option.map_eq_some_iff.mpr ⟨m, hm, rfl⟩)
    omega

theorem matches_times_iff {least : Nat} {most : Option Nat} {i k : Nat} :
    Matches text (.times r least most) i k ↔
      ∃ n, least ≤ n ∧ (∀ m ∈ most, n ≤ m) ∧ Turns text r n i k :=
  ⟨fun h => exists_turns_of_matches h rfl,
    fun ⟨_, hleast, hmost, h⟩ => matches_times_of_turns h hleast hmost⟩

theorem Turns.append {n m i j k : Nat} (h : Turns text r n i j) (h' : Turns text r m j k) :
    Turns text r (n + m) i k := by
  induction h with
  | none => rwa [Nat.zero_add]
  | next hr _ ih =>
    rw [Nat.add_right_comm]
    exact .next hr (ih h')

theorem Turns.split {n m i k : Nat} (h : Turns text r (n + m) i k) :
    ∃ j, Turns text r n i j ∧ Turns text r m j k := by
  induction n generalizing i with
  | zero =>
    rw [Nat.zero_add] at h
    exact ⟨i, .none (Nat.le_trans h.le h.le_length), h⟩
  | succ n ih =>
    rw [Nat.add_right_comm] at h
    cases h with
    | next hr hrest =>
      obtain ⟨j, hfirst, hlast⟩ := ih hrest
      exact ⟨j, .next hr hfirst, hlast⟩

/-- With more turns than there are characters to go, one is empty and may be left out. -/
theorem Turns.leaveOut {n i k : Nat} (h : Turns text r (n + 1) i k) (hlt : k < i + (n + 1)) :
    Turns text r n i k := by
  induction n generalizing i with
  | zero =>
    cases h with
    | next hr hrest =>
      have := hr.le
      cases hrest with
      | none hj =>
        obtain rfl : i = k := by omega
        exact .none hj
  | succ n ih =>
    cases h with
    | @next _ _ j _ hr hrest =>
      by_cases hij : j = i
      · rw [hij] at hrest
        exact hrest
      · have := hr.le
        exact .next hr (ih hrest (by omega))

/-- With more turns than there are characters to go, one is empty and may be taken twice. -/
theorem Turns.takeTwice {n i k : Nat} (h : Turns text r n i k) (hlt : k < i + n) :
    Turns text r (n + 1) i k := by
  induction h with
  | none => omega
  | @next n i j k hr hrest ih =>
    by_cases hij : j = i
    · rw [hij] at hr hrest
      exact .next hr (.next hr hrest)
    · have := hr.le
      exact .next hr (ih (by omega))

theorem Turns.fewer {n i k : Nat} (hn : text.length < n) (d : Nat)
    (h : Turns text r (n + d) i k) : Turns text r n i k := by
  induction d with
  | zero => exact h
  | succ d ih =>
    have := h.le_length
    exact ih (Turns.leaveOut h (by omega))

theorem Turns.more {n i k : Nat} (hn : text.length < n) (h : Turns text r n i k) (d : Nat) :
    Turns text r (n + d) i k := by
  induction d with
  | zero => exact h
  | succ d ih =>
    have := h.le_length
    exact ih.takeTwice (by omega)

/-- More turns than the text has characters are as good as any other such number. -/
theorem Turns.change {n m i k : Nat} (h : Turns text r n i k) (hn : text.length < n)
    (hm : text.length < m) : Turns text r m i k := by
  rcases Nat.le_total n m with hle | hle
  · obtain ⟨d, rfl⟩ := Nat.exists_eq_add_of_le hle
    exact h.more hn d
  · obtain ⟨d, rfl⟩ := Nat.exists_eq_add_of_le hle
    exact Turns.fewer hm d h

/-- How many turns a walk takes beyond the least number at most. -/
def extraTurns (text : List Char) (least : Nat) : Option Nat → Nat
  | some m => min (m - least) (text.length + 1)
  | none => text.length + 1

/-- Cutting counts off leaves no match out, and lets none in. -/
theorem exists_turns_iff {least : Nat} {most : Option Nat} (hordered : ∀ m ∈ most, least ≤ m)
    {i k : Nat} :
    (∃ n, least ≤ n ∧ (∀ m ∈ most, n ≤ m) ∧ Turns text r n i k) ↔
      ∃ b, b ≤ extraTurns text least most ∧
        Turns text r (min least (text.length + 1) + b) i k := by
  constructor
  · rintro ⟨n, hleast, hmost, h⟩
    by_cases hcut : text.length < least
    · refine ⟨0, Nat.zero_le _, h.change (by omega) (by omega)⟩
    · have hmin : min least (text.length + 1) = least := by omega
      rw [hmin]
      by_cases hfew : n - least ≤ text.length + 1
      · refine ⟨n - least, ?_, by rwa [Nat.add_sub_cancel' hleast]⟩
        cases most with
        | none => exact hfew
        | some m =>
          have := hmost m rfl
          show n - least ≤ min (m - least) (text.length + 1)
          omega
      · refine ⟨text.length + 1, ?_, h.change (by omega) (by omega)⟩
        cases most with
        | none => exact Nat.le_refl _
        | some m =>
          have := hmost m rfl
          show text.length + 1 ≤ min (m - least) (text.length + 1)
          omega
  · rintro ⟨b, hb, h⟩
    by_cases hcut : text.length < least
    · exact ⟨least, Nat.le_refl _, hordered, h.change (by omega) hcut⟩
    · have hmin : min least (text.length + 1) = least := by omega
      rw [hmin] at h
      refine ⟨least + b, Nat.le_add_right _ _, ?_, h⟩
      rintro m hm
      obtain rfl : most = some m := hm
      have := hordered m rfl
      have hb' : b ≤ min (m - least) (text.length + 1) := hb
      omega

/-! ## Sets of places -/

/-- All of the places are places of the text. -/
def Within (text : List Char) (places : Nat) : Prop :=
  ∀ i, places.testBit i = true → i ≤ text.length

theorem testBit_placesBetween (p : Option Char → Option Char → Bool) (before : Option Char)
    (text : List Char) (i : Nat) :
    (placesBetween p before text).testBit i =
      (decide (i ≤ text.length) && p (if i = 0 then before else text[i - 1]?) text[i]?) := by
  induction text generalizing before i with
  | nil =>
    cases i with
    | zero => cases h : p before none <;> simp [placesBetween, h]
    | succ i =>
      have hle := Bool.toNat_le (p before none)
      have hzero : (p before none).toNat / 2 = 0 := by omega
      simp [placesBetween, Nat.testBit_succ, hzero]
  | cons c rest ih =>
    have hle := Bool.toNat_le (p before (some c))
    cases i with
    | zero =>
      cases h : p before (some c) <;>
        simp [placesBetween, h, Nat.testBit_zero, Nat.add_mod]
    | succ i =>
      have hdiv : ((p before (some c)).toNat + 2 * placesBetween p (some c) rest) / 2 =
          placesBetween p (some c) rest := by omega
      rw [placesBetween, Nat.testBit_succ, hdiv, ih]
      cases i <;> simp

theorem iterate_of_eq {step : Nat → Nat} {places : Nat} (h : step places = places) (n : Nat) :
    iterate step n places = places := by
  cases n with
  | zero => rfl
  | succ n =>
    rw [iterate]
    exact if_pos h

theorem iterate_succ (step : Nat → Nat) (n places : Nat) :
    iterate step (n + 1) places = iterate step n (step places) := by
  rw [iterate]
  by_cases h : step places = places
  · simp only [h, if_true]
    exact (iterate_of_eq h n).symm
  · simp only [h, if_false]

section Steps

/-! A step that leads from any set of places to where `r` matches from there. -/

variable {step : Nat → Nat} (hstep : ∀ places, Within text places → ∀ j,
  (step places).testBit j = true ↔ ∃ i, places.testBit i = true ∧ Matches text r i j)

include hstep

theorem within_step {places : Nat} (h : Within text places) : Within text (step places) := by
  intro j hj
  obtain ⟨i, _, hmatch⟩ := (hstep places h j).mp hj
  exact hmatch.le_length

theorem testBit_iterate (n : Nat) {places : Nat} (h : Within text places) (j : Nat) :
    (iterate step n places).testBit j = true ↔
      ∃ i, places.testBit i = true ∧ Turns text r n i j := by
  induction n generalizing places with
  | zero =>
    constructor
    · intro hj
      exact ⟨j, hj, .none (h j hj)⟩
    · rintro ⟨i, hi, hturns⟩
      cases hturns
      exact hi
  | succ n ih =>
    rw [iterate_succ, ih (within_step hstep h)]
    constructor
    · rintro ⟨i', hi', hturns⟩
      obtain ⟨i, hi, hmatch⟩ := (hstep places h i').mp hi'
      exact ⟨i, hi, .next hmatch hturns⟩
    · rintro ⟨i, hi, hturns⟩
      cases hturns with
      | @next _ _ i' _ hmatch hrest => exact ⟨i', (hstep places h i').mpr ⟨i, hi, hmatch⟩, hrest⟩

theorem testBit_close (n : Nat) {places : Nat} (h : Within text places) (j : Nat) :
    (close step n places).testBit j = true ↔
      ∃ m, m ≤ n ∧ ∃ i, places.testBit i = true ∧ Turns text r m i j := by
  unfold close
  induction n generalizing places with
  | zero =>
    constructor
    · intro hj
      exact ⟨0, Nat.le_refl _, j, hj, .none (h j hj)⟩
    · rintro ⟨m, hm, i, hi, hturns⟩
      obtain rfl : m = 0 := by omega
      cases hturns
      exact hi
  | succ n ih =>
    have hunion : ∀ i, (places ||| step places).testBit i = true ↔
        places.testBit i = true ∨ (step places).testBit i = true := by
      intro i
      rw [Nat.testBit_or, Bool.or_eq_true]
    have hwithin : Within text (places ||| step places) := by
      intro i hi
      rcases (hunion i).mp hi with hi | hi
      · exact h i hi
      · exact within_step hstep h i hi
    rw [iterate_succ, ih hwithin]
    constructor
    · rintro ⟨m, hm, i, hi, hturns⟩
      rcases (hunion i).mp hi with hi | hi
      · exact ⟨m, by omega, i, hi, hturns⟩
      · obtain ⟨i', hi', hmatch⟩ := (hstep places h i).mp hi
        exact ⟨m + 1, by omega, i', hi', .next hmatch hturns⟩
    · rintro ⟨m, hm, i, hi, hturns⟩
      cases hturns with
      | none hj => exact ⟨0, by omega, j, (hunion j).mpr (.inl hi), .none hj⟩
      | @next m _ i' _ hmatch hrest =>
        have hnext := (hstep places h i').mpr ⟨i, hi, hmatch⟩
        exact ⟨m, by omega, i', (hunion i').mpr (.inr hnext), hrest⟩

end Steps

/-! ## Walks -/

/-- A walk leads to where the expression matches. -/
theorem testBit_reach (text : List Char) (r : Regex) (hordered : r.Ordered) {places : Nat}
    (h : Within text places) (j : Nat) :
    ((walk text r).reach places).testBit j = true ↔
      ∃ i, places.testBit i = true ∧ Matches text r i j := by
  induction r generalizing places j with
  | empty =>
    constructor
    · intro hj
      exact ⟨j, hj, .empty (h j hj)⟩
    · rintro ⟨i, hi, hmatch⟩
      cases hmatch
      exact hi
  | one s =>
    rw [walk, Walk.reach, Nat.testBit_shiftLeft, Nat.testBit_and, testBit_placesBefore]
    constructor
    · intro hj
      simp only [Bool.and_eq_true, decide_eq_true_eq, Option.any_eq_true] at hj
      obtain ⟨hpos, hi, c, hc, hs⟩ := hj
      refine ⟨j - 1, hi, ?_⟩
      have hone := Matches.one (s := s) hc hs
      rwa [Nat.sub_add_cancel hpos] at hone
    · rintro ⟨i, hi, hmatch⟩
      cases hmatch with
      | @one _ _ c hc hs =>
        simp [hi, hc, hs]
  | look l =>
    rw [walk, Walk.reach, Nat.testBit_and, testBit_placesBetween]
    constructor
    · intro hj
      simp only [Bool.and_eq_true, decide_eq_true_eq] at hj
      exact ⟨j, hj.1, .look hj.2.1 hj.2.2⟩
    · rintro ⟨i, hi, hmatch⟩
      cases hmatch with
      | look hle hl => simp [hi, hle, hl]
  | seq a b iha ihb =>
    have hwithin : Within text ((walk text a).reach places) := by
      intro i hi
      obtain ⟨i', _, hmatch⟩ := (iha hordered.1 h i).mp hi
      exact hmatch.le_length
    rw [walk, Walk.reach, ihb hordered.2 hwithin]
    constructor
    · rintro ⟨i', hi', hb⟩
      obtain ⟨i, hi, ha⟩ := (iha hordered.1 h i').mp hi'
      exact ⟨i, hi, .seq ha hb⟩
    · rintro ⟨i, hi, hmatch⟩
      cases hmatch with
      | @seq _ _ _ i' _ ha hb => exact ⟨i', (iha hordered.1 h i').mpr ⟨i, hi, ha⟩, hb⟩
  | alt a b iha ihb =>
    rw [walk, Walk.reach, Nat.testBit_or, Bool.or_eq_true, iha hordered.1 h, ihb hordered.2 h]
    constructor
    · rintro (⟨i, hi, hmatch⟩ | ⟨i, hi, hmatch⟩)
      · exact ⟨i, hi, .altLeft hmatch⟩
      · exact ⟨i, hi, .altRight hmatch⟩
    · rintro ⟨i, hi, hmatch⟩
      cases hmatch with
      | altLeft hmatch => exact .inl ⟨i, hi, hmatch⟩
      | altRight hmatch => exact .inr ⟨i, hi, hmatch⟩
  | times r least most ih =>
    obtain ⟨hbody, hbounds⟩ := hordered
    have hstep : ∀ places, Within text places → ∀ j, ((walk text r).reach places).testBit j = true ↔
        ∃ i, places.testBit i = true ∧ Matches text r i j := fun _ hw j => ih hbody hw j
    have hleast : Within text
        (iterate (walk text r).reach (min least (text.length + 1)) places) := by
      intro i hi
      obtain ⟨i', _, hturns⟩ := (testBit_iterate hstep _ h i).mp hi
      exact hturns.le_length
    -- The least number of turns, cut off, and then any number of those that are left, cut off too.
    show (close (walk text r).reach (extraTurns text least most)
      (iterate (walk text r).reach _ places)).testBit j = true ↔ _
    rw [testBit_close hstep _ hleast]
    constructor
    · rintro ⟨b, hb, i', hi', hextra⟩
      obtain ⟨i, hi, hturns⟩ := (testBit_iterate hstep _ h i').mp hi'
      refine ⟨i, hi, matches_times_iff.mpr ((exists_turns_iff hbounds).mpr ⟨b, hb, ?_⟩)⟩
      exact hturns.append hextra
    · rintro ⟨i, hi, hmatch⟩
      obtain ⟨b, hb, hturns⟩ := (exists_turns_iff hbounds).mp (matches_times_iff.mp hmatch)
      obtain ⟨i', hfirst, hextra⟩ := hturns.split
      exact ⟨b, hb, i', (testBit_iterate hstep _ h i').mpr ⟨i, hi, hfirst⟩, hextra⟩

theorem testBit_allPlaces (text : List Char) (i : Nat) :
    (allPlaces text).testBit i = decide (i ≤ text.length) := by
  have hbit := Nat.testBit_two_pow_sub_one (text.length + 1) i
  rw [show allPlaces text = 2 ^ (text.length + 1) - 1 from rfl, hbit]
  exact decide_eq_decide.mpr Nat.lt_succ_iff

/-- The matcher answers whether the expression matches some part of the text. -/
theorem isMatch_iff {r : Regex} (hordered : r.Ordered) (text : List Char) :
    r.isMatch text = true ↔ ∃ i j, Matches text r i j := by
  have hall : Within text (allPlaces text) := by
    intro i hi
    rw [testBit_allPlaces] at hi
    exact of_decide_eq_true hi
  have hreach := testBit_reach text r hordered hall
  rw [isMatch, bne_iff_ne]
  constructor
  · intro hne
    obtain ⟨j, hj⟩ := Nat.exists_testBit_of_ne_zero hne
    obtain ⟨i, _, hmatch⟩ := (hreach j).mp hj
    exact ⟨i, j, hmatch⟩
  · rintro ⟨i, j, hmatch⟩ hzero
    have hi : (allPlaces text).testBit i = true := by
      rw [testBit_allPlaces]
      exact decide_eq_true (Nat.le_trans hmatch.le hmatch.le_length)
    have hj := (hreach j).mpr ⟨i, hi, hmatch⟩
    rw [hzero, Nat.zero_testBit] at hj
    cases hj

end ContentFilter.Regex
