import ContentFilter.Proofs.InstantPrinting

/-!
# Equality of values

Equality is no equivalence relation. A missing value is not equal to itself, and a text stands
between values that are not equal: the integer `5` is equal to the text `5` and to the decimal
`5.0`, and that decimal is not equal to the text. Without these two kinds of values, at any depth,
it is one (`equality_laws`). There equality goes by what a number, a point in time or a truth value
is. Different kinds are compared by their texts, and these have different characters.
-/

namespace ContentFilter

open Text

namespace Value

variable {u v w : Value} {d : Decimal} {i : Instant}

/-! ## Symmetry -/

theorem sameScalar_comm (v w : Value) : v.sameScalar w = w.sameScalar v := by
  have hdecimals : ∀ a b : Decimal, (a.compare b == .eq) = (b.compare a == .eq) := by
    intro a b
    rw [Bool.eq_iff_iff, beq_iff_eq, beq_iff_eq, Decimal.compare_eq_cmp, Decimal.compare_eq_cmp,
      cmp_eq_eq_iff, cmp_eq_eq_iff, eq_comm]
  rw [sameScalar_eq, sameScalar_eq]
  rcases v.toDecimal? with _ | a <;> rcases w.toDecimal? with _ | b
  case some.some => exact hdecimals a b
  all_goals
    rcases v.toInstant? with _ | i <;> rcases w.toInstant? with _ | j
    case some.some => exact BEq.comm
    all_goals
      rcases v.toText? with _ | s <;> rcases w.toText? with _ | t
      case some.some => exact BEq.comm
      all_goals rfl

theorem isEqual_comm_of_isScalar (hv : v.isScalar = true) (w : Value) :
    v.isEqual w = w.isEqual v := by
  rw [isEqual_of_isScalar hv]
  cases hw : w.isScalar with
  | true => rw [isEqual_of_isScalar hw, hv, sameScalar_comm]
  | false =>
    cases v with
    | absent | null | list => cases hv
    | _ =>
      cases w with
      | absent | null | list => rfl
      | _ => cases hw

mutual

theorem isEqual_comm : ∀ v w : Value, v.isEqual w = w.isEqual v
  | .list items, .list others => allEqual_comm items others
  | .list _, .absent | .list _, .null | .list _, .integer _ | .list _, .decimal _ => rfl
  | .list _, .text _ | .list _, .boolean _ | .list _, .instant _ | .list _, .calendar _ => rfl
  | .absent, w | .null, w => by cases w <;> rfl
  | .integer _, w | .decimal _, w | .text _, w => isEqual_comm_of_isScalar rfl w
  | .boolean _, w | .instant _, w | .calendar _, w => isEqual_comm_of_isScalar rfl w

theorem allEqual_comm : ∀ vs ws : List Value, allEqual vs ws = allEqual ws vs
  | [], [] | [], _ :: _ | _ :: _, [] => rfl
  | v :: vs, w :: ws => by rw [allEqual, allEqual, isEqual_comm v w, allEqual_comm vs ws]

end

/-! ## Values that are equal to themselves -/

theorem occursIn_list_iff {items : List Value} :
    u.OccursIn (list items) ↔ u = list items ∨ ∃ item ∈ items, u.OccursIn item := by
  constructor
  · rintro (_ | ⟨hitem, h⟩)
    · exact .inl rfl
    · exact .inr ⟨_, hitem, h⟩
  · rintro (rfl | ⟨item, hitem, h⟩)
    · exact .here
    · exact .inside hitem h

theorem occursIn_iff_of_isScalar (hv : v.isScalar = true) : u.OccursIn v ↔ u = v := by
  constructor
  · rintro (_ | _)
    · rfl
    · cases hv
  · rintro rfl
    exact .here

theorem sameScalar_self (hv : v.isScalar = true) : v.sameScalar v = true := by
  have hdecimal : ∀ a : Decimal, (a.compare a == .eq) = true := fun a => by
    rw [beq_iff_eq, Decimal.compare_eq_cmp, cmp_self_eq_eq]
  rw [sameScalar_eq]
  cases v with
  | absent | null | list => cases hv
  | integer | decimal => exact hdecimal _
  | _ => exact beq_self_eq_true _

theorem isEqual_self_of_isScalar (hv : v.isScalar = true) :
    v.isEqual v = true ↔ ¬ absent.OccursIn v := by
  rw [isEqual_of_isScalar hv, hv, sameScalar_self hv, occursIn_iff_of_isScalar hv]
  refine iff_of_true rfl ?_
  rintro rfl
  cases hv

mutual

theorem isEqual_self_iff : ∀ v : Value, v.isEqual v = true ↔ ¬ absent.OccursIn v
  | .absent => iff_of_false nofun fun h => h .here
  | .null => iff_of_true rfl nofun
  | .list items => by
    rw [isEqual, allEqual_self_iff items, occursIn_list_iff]
    simp
  | .integer _ | .decimal _ | .text _ => isEqual_self_of_isScalar rfl
  | .boolean _ | .instant _ | .calendar _ => isEqual_self_of_isScalar rfl

theorem allEqual_self_iff :
    ∀ vs : List Value, allEqual vs vs = true ↔ ∀ v ∈ vs, ¬ absent.OccursIn v
  | [] => iff_of_true rfl (by simp)
  | v :: vs => by
    rw [allEqual, Bool.and_eq_true, isEqual_self_iff v, allEqual_self_iff vs, List.forall_mem_cons]

end

theorem isNotEqual_iff : v.isNotEqual w = true ↔
    v ≠ absent ∧ w ≠ absent ∧ v.isEqual w = false := by
  have habsent : ∀ u : Value, u.isAbsent = false ↔ u ≠ absent := by
    intro u
    cases u <;> simp [isAbsent]
  rw [isNotEqual_eq, Bool.and_eq_true, Bool.and_eq_true, Bool.not_eq_true', Bool.not_eq_true',
    Bool.not_eq_true', habsent, habsent, and_assoc]

/-! ## Kinds of values and their texts -/

/-- What a number, a point in time or a truth value is. -/
inductive Essence where
  /-- A number. -/
  | number (x : ℚ)
  /-- A point in time. -/
  | instant (i : Instant)
  /-- A truth value. -/
  | boolean (b : Bool)

/-- What the value is if it is a number, a point in time or a truth value. -/
def essence? : Value → Option Essence
  | integer n => some (.number n.toInt)
  | decimal d => some (.number d.toRat)
  | instant i => some (.instant i)
  | calendar z => some (.instant z.instant)
  | boolean b => some (.boolean b)
  | _ => none

/-- The characters of a number. -/
theorem of_mem_toText?_number {s : String} {c : Char} (hv : v.toDecimal? = some d)
    (hs : v.toText? = some s) (hc : c ∈ s.toList) :
    c.isDigit = true ∨ c ∈ ['+', '-', '.', 'e', 'E'] := by
  obtain ⟨n, htext, -⟩ := exists_numeral_of_toDecimal? hv
  obtain rfl := Option.some.inj (hs.symm.trans htext)
  rw [String.toList_ofList] at hc
  exact Numeral.of_mem_text hc

/-- A number has another text than a point in time. -/
theorem toText?_ne_toText (hv : v.toDecimal? = some d) (i : Instant) :
    v.toText? ≠ some i.toText := by
  intro h
  have hzulu := of_mem_toText?_number hv h i.zulu_mem_toText
  exact absurd hzulu (by decide)

/-- A number has another text than a truth value. -/
theorem toText?_ne_booleanText (hv : v.toDecimal? = some d) (b : Bool) :
    v.toText? ≠ some (booleanText b) := by
  intro h
  cases b with
  | false =>
    have hletter := of_mem_toText?_number hv h (c := 'f') (by decide)
    exact absurd hletter (by decide)
  | true =>
    have hletter := of_mem_toText?_number hv h (c := 't') (by decide)
    exact absurd hletter (by decide)

/-- A point in time has another text than a truth value. -/
theorem toText_ne_booleanText (i : Instant) (b : Bool) : i.toText ≠ booleanText b := by
  intro h
  have hzulu := i.zulu_mem_toText
  rw [h] at hzulu
  cases b <;> exact absurd hzulu (by decide)

/-! ## Equality of numbers, points in time and truth values -/

/-- Without a number or a point in time on both sides the texts decide. -/
theorem sameScalar_iff_toText? (hdecimal : v.toDecimal? = none ∨ w.toDecimal? = none)
    (hinstant : v.toInstant? = none ∨ w.toInstant? = none) :
    v.sameScalar w = true ↔ ∃ s, v.toText? = some s ∧ w.toText? = some s := by
  rw [sameScalar_eq]
  have hmissing : ∀ {α : Type} {a b : Option α}, a = none ∨ b = none →
      ∀ x y, a = some x → b = some y → False := by
    rintro α a b (rfl | rfl) x y hx hy
    · cases hx
    · cases hy
  split
  · rename_i hv hw
    exact (hmissing hdecimal _ _ hv hw).elim
  · split
    · rename_i hv hw
      exact (hmissing hinstant _ _ hv hw).elim
    · split
      · rename_i hv hw
        rw [hv, hw, beq_iff_eq]
        simp [eq_comm]
      · rename_i h
        exact iff_of_false nofun fun ⟨s, hv, hw⟩ => h s s hv hw

theorem toInstant?_of_toDecimal? (hv : v.toDecimal? = some d) : v.toInstant? = none := by
  cases v with
  | integer | decimal => rfl
  | _ => cases hv

theorem sameScalar_numbers {e : Decimal} (hv : v.toDecimal? = some d) (hw : w.toDecimal? = some e) :
    v.sameScalar w = true ↔ d.toRat = e.toRat := by
  rw [sameScalar_eq, hv, hw]
  simp only [beq_iff_eq, Decimal.compare_eq_cmp, cmp_eq_eq_iff]

theorem toText?_of_toInstant? (hv : v.toInstant? = some i) : v.toText? = some i.toText := by
  cases v with
  | instant | calendar =>
    cases hv
    rfl
  | _ => cases hv

theorem sameScalar_number_instant (hv : v.toDecimal? = some d) (hw : w.toInstant? = some i) :
    v.sameScalar w = false := by
  have hdecimal : w.toDecimal? = none := by
    cases w with
    | instant | calendar => rfl
    | _ => cases hw
  rw [← Bool.not_eq_true, sameScalar_iff_toText? (.inr hdecimal)
    (.inl (toInstant?_of_toDecimal? hv)), toText?_of_toInstant? hw]
  rintro ⟨s, hs, hi⟩
  exact toText?_ne_toText hv i (hs.trans hi.symm)

theorem sameScalar_number_boolean (hv : v.toDecimal? = some d) (b : Bool) :
    v.sameScalar (boolean b) = false := by
  rw [← Bool.not_eq_true,
    sameScalar_iff_toText? (.inr rfl) (.inr rfl)]
  rintro ⟨s, hs, hb⟩
  cases hb
  exact toText?_ne_booleanText hv b hs

theorem sameScalar_instant_boolean (hv : v.toInstant? = some i) (b : Bool) :
    v.sameScalar (boolean b) = false := by
  rw [← Bool.not_eq_true, sameScalar_iff_toText? (.inr rfl) (.inr rfl), toText?_of_toInstant? hv]
  rintro ⟨s, hs, hb⟩
  exact toText_ne_booleanText i b (Option.some.inj (hs.trans hb.symm))

theorem exists_of_essence?_number {x : ℚ} (h : v.essence? = some (.number x)) :
    ∃ d, v.toDecimal? = some d ∧ d.toRat = x := by
  cases v with
  | integer n =>
    cases h
    exact ⟨_, rfl, Decimal.toRat_ofInt _⟩
  | decimal d =>
    cases h
    exact ⟨d, rfl, rfl⟩
  | _ => cases h

theorem toInstant?_of_essence? (h : v.essence? = some (.instant i)) : v.toInstant? = some i := by
  cases v with
  | instant | calendar =>
    cases h
    rfl
  | _ => cases h

theorem eq_boolean_of_essence? {b : Bool} (h : v.essence? = some (.boolean b)) : v = boolean b := by
  cases v with
  | boolean =>
    cases h
    rfl
  | _ => cases h

theorem sameScalar_instants {j : Instant} (hv : v.toInstant? = some i)
    (hw : w.toInstant? = some j) : v.sameScalar w = true ↔ i = j := by
  cases v with
  | instant | calendar =>
    cases hv
    cases w with
    | instant | calendar =>
      cases hw
      exact beq_iff_eq
    | _ => cases hw
  | _ => cases hv

theorem sameScalar_booleans (b c : Bool) :
    (boolean b).sameScalar (boolean c) = true ↔ b = c := by
  cases b <;> cases c <;> decide +kernel

/-- Numbers, points in time and truth values are equal if they are the same. -/
theorem sameScalar_iff_essence? {x y : Essence} (hv : v.essence? = some x)
    (hw : w.essence? = some y) : v.sameScalar w = true ↔ x = y := by
  cases x with
  | number p =>
    obtain ⟨d, hd, rfl⟩ := exists_of_essence?_number hv
    cases y with
    | number q =>
      obtain ⟨e, he, rfl⟩ := exists_of_essence?_number hw
      rw [sameScalar_numbers hd he, Essence.number.injEq]
    | instant j =>
      rw [sameScalar_number_instant hd (toInstant?_of_essence? hw)]
      exact iff_of_false nofun nofun
    | boolean c =>
      rw [eq_boolean_of_essence? hw, sameScalar_number_boolean hd]
      exact iff_of_false nofun nofun
  | instant i =>
    have hi := toInstant?_of_essence? hv
    cases y with
    | number q =>
      obtain ⟨e, he, rfl⟩ := exists_of_essence?_number hw
      rw [sameScalar_comm, sameScalar_number_instant he hi]
      exact iff_of_false nofun nofun
    | instant j => rw [sameScalar_instants hi (toInstant?_of_essence? hw), Essence.instant.injEq]
    | boolean c =>
      rw [eq_boolean_of_essence? hw, sameScalar_instant_boolean hi]
      exact iff_of_false nofun nofun
  | boolean b =>
    rw [eq_boolean_of_essence? hv]
    cases y with
    | number q =>
      obtain ⟨e, he, rfl⟩ := exists_of_essence?_number hw
      rw [sameScalar_comm, sameScalar_number_boolean he]
      exact iff_of_false nofun nofun
    | instant j =>
      rw [sameScalar_comm, sameScalar_instant_boolean (toInstant?_of_essence? hw)]
      exact iff_of_false nofun nofun
    | boolean c => rw [eq_boolean_of_essence? hw, sameScalar_booleans, Essence.boolean.injEq]

/-! ## Transitivity -/

/-- Neither a missing value nor a text occurs in the value. -/
def IsPlain (v : Value) : Prop :=
  ¬ absent.OccursIn v ∧ ∀ s, ¬ (text s).OccursIn v

theorem isPlain_list_iff {items : List Value} :
    (list items).IsPlain ↔ ∀ item ∈ items, item.IsPlain := by
  constructor
  · intro h item hitem
    exact ⟨fun habsent => h.1 (.inside hitem habsent), fun s htext => h.2 s (.inside hitem htext)⟩
  · intro h
    refine ⟨fun habsent => ?_, fun s htext => ?_⟩
    · rcases occursIn_list_iff.mp habsent with heq | ⟨item, hitem, habsent⟩
      · cases heq
      · exact (h item hitem).1 habsent
    · rcases occursIn_list_iff.mp htext with heq | ⟨item, hitem, htext⟩
      · cases heq
      · exact (h item hitem).2 s htext

theorem isPlain_null : null.IsPlain :=
  ⟨nofun, fun _ => nofun⟩

theorem isPlain_of_essence? {x : Essence} (h : v.essence? = some x) : v.IsPlain := by
  have hscalar : v.isScalar = true := by
    cases v with
    | absent | null | list => cases h
    | _ => rfl
  rw [IsPlain, occursIn_iff_of_isScalar hscalar]
  refine ⟨?_, fun s => ?_⟩
  · rintro rfl
    cases hscalar
  · rw [occursIn_iff_of_isScalar hscalar]
    rintro rfl
    cases h

theorem IsPlain.exists_essence? (h : v.IsPlain) (hv : v.isScalar = true) :
    ∃ x, v.essence? = some x := by
  cases v with
  | absent | null | list => cases hv
  | text s => exact absurd .here (h.2 s)
  | _ => exact ⟨_, rfl⟩

/-- What is equal to a value that is neither missing, `null` nor a list is none of them either. -/
theorem isScalar_of_isEqual (hv : v.isScalar = true) (h : v.isEqual w = true) :
    w.isScalar = true ∧ v.sameScalar w = true := by
  rwa [isEqual_of_isScalar hv, Bool.and_eq_true] at h

theorem isEqual_trans_of_isScalar (hscalar : u.isScalar = true) (hu : u.IsPlain) (hv : v.IsPlain)
    (hw : w.IsPlain) (huv : u.isEqual v = true) (hvw : v.isEqual w = true) :
    u.isEqual w = true := by
  obtain ⟨hscalar', hsame⟩ := isScalar_of_isEqual hscalar huv
  obtain ⟨hscalar'', hsame'⟩ := isScalar_of_isEqual hscalar' hvw
  obtain ⟨x, hx⟩ := hu.exists_essence? hscalar
  obtain ⟨y, hy⟩ := hv.exists_essence? hscalar'
  obtain ⟨z, hz⟩ := hw.exists_essence? hscalar''
  have hxy := (sameScalar_iff_essence? hx hy).mp hsame
  have hyz := (sameScalar_iff_essence? hy hz).mp hsame'
  rw [isEqual_of_isScalar hscalar, hscalar'', Bool.true_and, sameScalar_iff_essence? hx hz]
  exact hxy.trans hyz

theorem eq_null_of_isEqual (hv : v.IsPlain) (h : null.isEqual v = true) : v = null := by
  cases v with
  | null => rfl
  | absent => exact absurd .here hv.1
  | _ => cases h

theorem exists_of_list_isEqual {items : List Value} (h : (list items).isEqual v = true) :
    ∃ others, v = list others ∧ allEqual items others = true := by
  cases v with
  | list others => exact ⟨others, rfl, h⟩
  | _ => cases h

mutual

theorem isEqual_trans : ∀ u v w : Value, u.IsPlain → v.IsPlain → w.IsPlain →
    u.isEqual v = true → v.isEqual w = true → u.isEqual w = true
  | .list items, v, w, hu, hv, hw, huv, hvw => by
    obtain ⟨others, rfl, hothers⟩ := exists_of_list_isEqual huv
    obtain ⟨more, rfl, hmore⟩ := exists_of_list_isEqual hvw
    exact allEqual_trans items others more (isPlain_list_iff.mp hu) (isPlain_list_iff.mp hv)
      (isPlain_list_iff.mp hw) hothers hmore
  | .absent, _, _, hu, _, _, _, _ => absurd .here hu.1
  | .null, v, w, _, hv, _, huv, hvw => by rwa [eq_null_of_isEqual hv huv] at hvw
  | .integer _, v, w, hu, hv, hw, huv, hvw | .decimal _, v, w, hu, hv, hw, huv, hvw =>
    isEqual_trans_of_isScalar rfl hu hv hw huv hvw
  | .text _, v, w, hu, hv, hw, huv, hvw | .boolean _, v, w, hu, hv, hw, huv, hvw =>
    isEqual_trans_of_isScalar rfl hu hv hw huv hvw
  | .instant _, v, w, hu, hv, hw, huv, hvw | .calendar _, v, w, hu, hv, hw, huv, hvw =>
    isEqual_trans_of_isScalar rfl hu hv hw huv hvw

theorem allEqual_trans : ∀ us vs ws : List Value, (∀ u ∈ us, u.IsPlain) → (∀ v ∈ vs, v.IsPlain) →
    (∀ w ∈ ws, w.IsPlain) → allEqual us vs = true → allEqual vs ws = true →
    allEqual us ws = true
  | [], [], _, _, _, _, _, hvw => hvw
  | [], _ :: _, _, _, _, _, huv, _ | _ :: _, [], _, _, _, _, huv, _ => nomatch huv
  | _ :: _, _ :: _, [], _, _, _, _, hvw => nomatch hvw
  | u :: us, v :: vs, w :: ws, hu, hv, hw, huv, hvw => by
    rw [List.forall_mem_cons] at hu hv hw
    rw [allEqual, Bool.and_eq_true] at huv hvw ⊢
    exact ⟨isEqual_trans u v w hu.1 hv.1 hw.1 huv.1 hvw.1,
      allEqual_trans us vs ws hu.2 hv.2 hw.2 huv.2 hvw.2⟩

end

/-- Equality is symmetric. A value is equal to itself if it is not missing and no missing value
    occurs in it. Two values are different if neither is missing and they are not equal. On the
    values in which no missing value and no text occurs equality is an equivalence relation, and
    there a number is equal neither to a point in time nor to a truth value. -/
theorem equality_laws :
    (∀ v w : Value, v.isEqual w = w.isEqual v) ∧
    (∀ v : Value, v.isEqual v = true ↔ ¬ absent.OccursIn v) ∧
    (∀ v w : Value, v.isNotEqual w = true ↔ v ≠ absent ∧ w ≠ absent ∧ v.isEqual w = false) ∧
    (Equivalence fun v w : {v : Value // v.IsPlain} => v.1.isEqual w.1 = true) ∧
    ∀ (v : Value) (d : Decimal), v.toDecimal? = some d →
      (∀ (w : Value) (i : Instant), w.toInstant? = some i → v.isEqual w = false) ∧
      ∀ b, v.isEqual (boolean b) = false := by
  refine ⟨isEqual_comm, isEqual_self_iff, fun v w => isNotEqual_iff, ?_, ?_⟩
  · refine ⟨fun v => (isEqual_self_iff v.1).mpr v.2.1, ?_, ?_⟩
    · intro v w h
      rwa [isEqual_comm]
    · intro u v w huv hvw
      exact isEqual_trans u.1 v.1 w.1 u.2 v.2 w.2 huv hvw
  · intro v d hd
    have hscalar : v.isScalar = true := by
      cases v with
      | integer | decimal => rfl
      | _ => cases hd
    refine ⟨fun w i hi => ?_, fun b => ?_⟩
    · rw [isEqual_of_isScalar hscalar, sameScalar_number_instant hd hi, Bool.and_false]
    · rw [isEqual_of_isScalar hscalar, sameScalar_number_boolean hd, Bool.and_false]

/-- Three lists that spell their number differently, and the number of seconds of an instant. -/
theorem equality_laws_lists :
    let whole := list [null, list [integer 5]]
    let tenths := list [null, list [decimal ⟨50, 1⟩]]
    let hundredths := list [null, list [decimal ⟨500, 2⟩]]
    whole.IsPlain ∧ tenths.IsPlain ∧ hundredths.IsPlain ∧
    tenths.isEqual whole = true ∧ whole.isEqual hundredths = true ∧
    tenths.isEqual hundredths = true ∧
    (integer 5).toDecimal? = some ⟨5, 0⟩ ∧ (integer 5).isEqual (instant ⟨5, 0⟩) = false ∧
    (integer 5).isEqual (boolean true) = false := by
  intro whole tenths hundredths
  have hplain : ∀ (v : Value) (x : Essence), v.essence? = some x →
      (list [null, list [v]]).IsPlain := by
    intro v x hx
    simp [isPlain_list_iff, isPlain_null, isPlain_of_essence? hx]
  have hwhole : whole.IsPlain := hplain _ _ rfl
  have htenths : tenths.IsPlain := hplain _ _ rfl
  have hhundredths : hundredths.IsPlain := hplain _ _ rfl
  have hfirst : whole.isEqual tenths = true := by decide +kernel
  have hsecond : whole.isEqual hundredths = true := by decide +kernel
  obtain ⟨-, -, -, hequivalence, hnumber⟩ := equality_laws
  have hsymm : tenths.isEqual whole = true :=
    hequivalence.symm (x := ⟨whole, hwhole⟩) (y := ⟨tenths, htenths⟩) hfirst
  have htrans : tenths.isEqual hundredths = true :=
    hequivalence.trans (x := ⟨tenths, htenths⟩) (y := ⟨whole, hwhole⟩)
      (z := ⟨hundredths, hhundredths⟩) hsymm hsecond
  have hfive : (integer 5).toDecimal? = some ⟨5, 0⟩ := by decide +kernel
  obtain ⟨hinstant, hboolean⟩ := hnumber (integer 5) _ hfive
  exact ⟨hwhole, htenths, hhundredths, hsymm, hsecond, htrans, hfive, hinstant _ ⟨5, 0⟩ rfl,
    hboolean true⟩

end Value

end ContentFilter
