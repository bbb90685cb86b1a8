import ContentFilter.Proofs.PlainComparison

/-!
# Containment of values

The operators on lists compare the texts of two values: `contains` asks for all texts of the right
value, `contains any` for one of them, and `in` is `contains` with its sides exchanged. A value that
is no list counts as a list of itself, and what has no text in a list does not count at all. The
texts are looked at as a collection, so their order does not show; how often a text occurs shows
only in the number of all texts, of which the right value must not have more than the left one. So
containment is transitive, and a value that is there at all contains itself.
-/

namespace ContentFilter

namespace Value

variable {u v v' w w' : Value} {vs ws : List Value}

/-! ## Texts of a value -/

/-- The items of a list; any other value is its own only item, if it is there at all. -/
def items : Value → List Value
  | absent | null => []
  | list items => items
  | v => [v]

theorem texts?_eq (v : Value) :
    v.texts? = if v.isNullish then none else some (v.items.filterMap toText?) := by
  cases v <;> rfl

/-- The left value has all texts of the right one, which has no more of them. -/
theorem containsAll_iff : v.containsAll w = true ↔ ∃ held want, v.texts? = some held ∧
    w.texts? = some want ∧ want.length ≤ held.length ∧ want ⊆ held := by
  unfold containsAll
  rcases v.texts? with _ | held
  · simp
  · rcases w.texts? with _ | want
    · simp
    · simp [List.subset_def]

/-- The left value has a text of the right one. -/
theorem containsAny_iff : v.containsAny w = true ↔ ∃ held want, v.texts? = some held ∧
    w.texts? = some want ∧ ∃ t ∈ want, t ∈ held := by
  unfold containsAny
  rcases v.texts? with _ | held
  · simp
  · rcases w.texts? with _ | want
    · simp
    · simp

theorem containsAll_self_iff (v : Value) : v.containsAll v = true ↔ v ≠ absent ∧ v ≠ null := by
  rw [← not_or, ← isNullish_iff, containsAll_iff, texts?_eq]
  cases v.isNullish with
  | true => simp
  | false => exact iff_of_true ⟨_, _, rfl, rfl, le_rfl, List.Subset.refl _⟩ Bool.false_ne_true

theorem containsAll_trans (hv : v.containsAll w = true) (hw : w.containsAll u = true) :
    v.containsAll u = true := by
  obtain ⟨held, between, hheld, hbetween, hle, hsubset⟩ := containsAll_iff.mp hv
  obtain ⟨between', want, hbetween', hwant, hle', hsubset'⟩ := containsAll_iff.mp hw
  obtain rfl := Option.some.inj (hbetween.symm.trans hbetween')
  exact containsAll_iff.mpr
    ⟨held, want, hheld, hwant, hle'.trans hle, List.Subset.trans hsubset' hsubset⟩

/-- Of a value with a text at all one is contained if all are. -/
theorem containsAny_of_containsAll (htext : ∃ item ∈ w.items, item.toText?.isSome = true)
    (h : v.containsAll w = true) : v.containsAny w = true := by
  obtain ⟨held, want, hheld, hwant, -, hsubset⟩ := containsAll_iff.mp h
  obtain ⟨item, hitem, hsome⟩ := htext
  obtain ⟨t, ht⟩ := Option.isSome_iff_exists.mp hsome
  have hmem : t ∈ want := by
    rw [texts?_eq, Option.ite_none_left_eq_some] at hwant
    rw [← Option.some.inj hwant.2]
    exact List.mem_filterMap.mpr ⟨item, hitem, ht⟩
  exact containsAny_iff.mpr ⟨held, want, hheld, hwant, t, hmem, hsubset hmem⟩

/-! ## Values with the same texts -/

/-- The values have the same texts, each of them as often, or none of them has any at all. -/
def SameTexts (v w : Value) : Prop :=
  Option.Rel List.Perm v.texts? w.texts?

theorem SameTexts.refl (v : Value) : v.SameTexts v := by
  unfold SameTexts
  cases v.texts? with
  | none => exact .none
  | some ts => exact .some (.refl ts)

theorem sameTexts_of_perm (h : vs.Perm ws) : (list vs).SameTexts (list ws) :=
  .some (h.filterMap toText?)

/-- A value that is no list counts as a list of itself. -/
theorem sameTexts_singleton (hv : v.isScalar = true) : v.SameTexts (list [v]) := by
  cases v with
  | absent | null | list => cases hv
  | _ => exact SameTexts.refl _

theorem contains_of_perm {held held' : List String} (h : held.Perm held') :
    held.contains = held'.contains :=
  funext fun _ => h.contains_eq

theorem SameTexts.containsAll_eq (hv : v.SameTexts v') (hw : w.SameTexts w') :
    v.containsAll w = v'.containsAll w' := by
  unfold containsAll
  unfold SameTexts at hv hw
  generalize v.texts? = held, v'.texts? = held', w.texts? = want, w'.texts? = want' at *
  cases hv with
  | none => rfl
  | some hheld =>
    cases hw with
    | none => rfl
    | some hwant =>
      simp only [hheld.length_eq, hwant.length_eq, hwant.all_eq, contains_of_perm hheld]

theorem SameTexts.containsAny_eq (hv : v.SameTexts v') (hw : w.SameTexts w') :
    v.containsAny w = v'.containsAny w' := by
  unfold containsAny
  unfold SameTexts at hv hw
  generalize v.texts? = held, v'.texts? = held', w.texts? = want, w'.texts? = want' at *
  cases hv with
  | none => rfl
  | some hheld =>
    cases hw with
    | none => rfl
    | some hwant => simp only [hwant.any_eq, contains_of_perm hheld]

/-! ## Longer lists -/

theorem texts?_append (vs ws : List Value) : (list (vs ++ ws)).texts? =
    some (vs.filterMap toText? ++ ws.filterMap toText?) :=
  congrArg some List.filterMap_append

theorem containsAll_append (ws : List Value) (h : (list vs).containsAll w = true) :
    (list (vs ++ ws)).containsAll w = true := by
  obtain ⟨held, want, hheld, hwant, hle, hsubset⟩ := containsAll_iff.mp h
  cases hheld
  refine containsAll_iff.mpr ⟨_, want, texts?_append vs ws, hwant, ?_, ?_⟩
  · rw [List.length_append]
    exact hle.trans (Nat.le_add_right _ _)
  · exact List.subset_append_of_subset_left _ hsubset

theorem containsAny_append (ws : List Value) (h : (list vs).containsAny w = true) :
    (list (vs ++ ws)).containsAny w = true := by
  obtain ⟨held, want, hheld, hwant, t, ht, hmem⟩ := containsAny_iff.mp h
  cases hheld
  exact containsAny_iff.mpr
    ⟨_, want, texts?_append vs ws, hwant, t, ht, List.mem_append_left _ hmem⟩

end Value

namespace Operator

open Value

/-- The operators on lists. -/
def onLists : List Operator :=
  [contains, notContains, containsAny, notContainsAny, isIn, notIn]

/-- An operator on lists looks at the texts of its sides only, in whatever order. -/
theorem holds_of_sameTexts {op : Operator} (hop : op ∈ onLists) {l l' r r' : Value}
    (hl : l.SameTexts l') (hr : r.SameTexts r') : op.holds l r = op.holds l' r' := by
  cases op with
  | contains | notContains => rw [holds, holds, hl.containsAll_eq hr]
  | containsAny | notContainsAny => rw [holds, holds, hl.containsAny_eq hr]
  | isIn | notIn => rw [holds, holds, hr.containsAll_eq hl]
  | _ => simp [onLists] at hop

/-- The laws of the operators on lists. A value contains itself if it is there at all, and
    containment is transitive. The order of a list shows on neither side of an operator, and what is
    added to a list takes nothing from it. A single value counts as a list of itself. What contains
    all of a value that has a text contains some of it, and `in` is `contains` seen from the other
    side. -/
theorem containment_laws :
    (∀ v : Value, contains.holds v v = true ↔ v ≠ absent ∧ v ≠ null) ∧
    (∀ u v w : Value, contains.holds u v = true → contains.holds v w = true →
      contains.holds u w = true) ∧
    (∀ op ∈ onLists, ∀ (items others : List Value) (v : Value), items.Perm others →
      op.holds (list items) v = op.holds (list others) v ∧
      op.holds v (list items) = op.holds v (list others)) ∧
    (∀ (items others : List Value) (v : Value),
      (contains.holds (list items) v = true → contains.holds (list (items ++ others)) v = true) ∧
      (containsAny.holds (list items) v = true →
        containsAny.holds (list (items ++ others)) v = true) ∧
      (isIn.holds v (list items) = true → isIn.holds v (list (items ++ others)) = true)) ∧
    (∀ op ∈ onLists, ∀ v w : Value, v.isScalar = true →
      op.holds v w = op.holds (list [v]) w ∧ op.holds w v = op.holds w (list [v])) ∧
    (∀ v w : Value, (∃ item ∈ w.items, item.toText?.isSome = true) →
      contains.holds v w = true → containsAny.holds v w = true) ∧
    ∀ v w : Value, isIn.holds v w = contains.holds w v := by
  refine ⟨containsAll_self_iff, fun u v w => containsAll_trans, ?_, ?_, ?_, ?_, fun v w => rfl⟩
  · intro op hop items others v h
    exact ⟨holds_of_sameTexts hop (sameTexts_of_perm h) (.refl v),
      holds_of_sameTexts hop (.refl v) (sameTexts_of_perm h)⟩
  · intro items others v
    exact ⟨containsAll_append others, containsAny_append others, containsAll_append others⟩
  · intro op hop v w hv
    exact ⟨holds_of_sameTexts hop (sameTexts_singleton hv) (.refl w),
      holds_of_sameTexts hop (.refl w) (sameTexts_singleton hv)⟩
  · intro v w htext h
    exact containsAny_of_containsAll htext h

/-- Lists with a text twice, with a missing value and with a list inside: only texts count, and
    there must not be more of them on the right than on the left. -/
theorem containment_laws_duplicates :
    let tags : Value := list [text "fish", null, text "bird", text "fish"]
    let nested : Value := list [list [text "bird"], text "fish", text "fish"]
    contains.holds tags nested = true ∧
    contains.holds nested (list [text "fish", text "fish"]) = true ∧
    contains.holds tags (list [text "fish", text "fish"]) = true ∧
    containsAny.holds tags nested = true ∧
    notIn ∈ onLists ∧
    notIn.holds (list [text "fish", text "bird"]) (list [text "bird"]) =
      notIn.holds (list [text "bird", text "fish"]) (list [text "bird"]) ∧
    notIn.holds (list [text "fish", text "bird"]) (list [text "bird"]) = true ∧
    isIn.holds (integer 5) (list [text "5"] ) = true ∧
    isIn.holds (integer 5) (list ([text "5"] ++ [absent])) = true ∧
    isIn.holds (list [integer 5]) (list [text "5"]) = true := by
  intro tags nested
  obtain ⟨-, htrans, hperm, happend, hsingle, hsome, -⟩ := containment_laws
  have hfirst : contains.holds tags nested = true := by decide
  have hsecond : contains.holds nested (list [text "fish", text "fish"]) = true := by decide
  have hmem : notIn ∈ onLists := by decide
  have hfive : isIn.holds (integer 5) (list [text "5"]) = true := by decide +kernel
  refine ⟨hfirst, hsecond, htrans _ _ _ hfirst hsecond, ?_, hmem, ?_, by decide, hfive, ?_, ?_⟩
  · exact hsome tags nested ⟨text "fish", by simp [nested, items], rfl⟩ hfirst
  · exact (hperm notIn hmem _ _ _ (.swap _ _ _)).1
  · exact (happend _ _ _).2.2 hfive
  · rw [← (hsingle isIn (by decide) (integer 5) _ rfl).1]
    exact hfive

end Operator

end ContentFilter
