import Mathlib
import ContentFilter.Proofs.Meaning
import ContentFilter.Proofs.Ordering

/-!
# Comparisons as they are compiled, and values as they are stored

A compiled comparison decides beforehand what it can: two constants are compared, a constant pattern
is read, and the test of a negated operator is made of that of its positive one. On a resource it
still answers like the operator does on the values that its operands have there.

Properties and arguments are normalized before they are compared. An operator looks at a value
through its views only (number, point in time, text, ordinal, texts of a list), and each of them is
the same before and after. Equality also goes into lists, so there the argument is an induction on
values. Normalizing both sides of a comparison is the general case: since normalizing twice is
normalizing once, it covers each side alone.
-/

namespace ContentFilter

/-! ## Compiled comparisons -/

namespace Predicate

variable {op positive : Operator} {pattern : Value} {regex : Regex}

theorem comparison_of_positive? (h : op.positive? = some positive) (left right : Provider) :
    comparison op left right = negate (comparison positive left right) := by
  funext s
  show _ = !comparison positive left right s
  rw [comparison_apply, comparison_apply, Operator.holds_of_positive? h]

/-- Operands that are computed anew for each subject are compared like constants. -/
theorem comparison_dynamic (op : Operator) (left right : Provider) :
    comparison op (.dynamic left.apply) (.dynamic right.apply) = comparison op left right := by
  funext s
  rw [comparison_apply, comparison_apply]
  rfl

theorem comparison_like_constant (value : Provider) (pattern : Value) :
    comparison .like value (.constant pattern) = likePattern value pattern := by
  funext s
  rw [comparison_apply, likePattern_apply]
  rfl

/-- Nothing is like a value without a text or with one that is no pattern. -/
theorem comparison_like_of_none (h : pattern.toText?.bind Regex.whole? = none) (value : Provider) :
    comparison .like value (.constant pattern) = always false := by
  rw [comparison_like_constant, likePattern, h]

theorem comparison_like_of_some (h : pattern.toText?.bind Regex.whole? = some regex)
    (value : Provider) (s : Subject) :
    comparison .like value (.constant pattern) s =
      (value.apply s).toText?.any fun t => regex.isMatch t.toList := by
  rw [comparison_like_constant, likePattern, h]

/-- On every subject a compiled comparison answers like its operator does on the values of the
    operands. So it does not show which of them are constants. A negated operator is tested by the
    negation of its positive one. With a constant that is no pattern on its right side `like` never
    holds and `not like` always does; with a constant pattern the former holds of the values whose
    text it matches. -/
theorem comparison_agrees :
    (∀ (op : Operator) (left right : Provider) (s : Subject),
      comparison op left right s = op.holds (left.apply s) (right.apply s)) ∧
    (∀ (op : Operator) (left right : Provider),
      comparison op (.dynamic left.apply) (.dynamic right.apply) = comparison op left right) ∧
    (∀ (op positive : Operator) (left right : Provider), op.positive? = some positive →
      comparison op left right = negate (comparison positive left right)) ∧
    (∀ (value : Provider) (pattern : Value), pattern.toText?.bind Regex.whole? = none →
      comparison .like value (.constant pattern) = always false ∧
      comparison .notLike value (.constant pattern) = always true) ∧
    ∀ (value : Provider) (pattern : Value) (regex : Regex) (s : Subject),
      pattern.toText?.bind Regex.whole? = some regex →
      comparison .like value (.constant pattern) s =
        (value.apply s).toText?.any fun t => regex.isMatch t.toList := by
  refine ⟨comparison_apply, comparison_dynamic, ?_, ?_, ?_⟩
  · intro op positive left right h
    exact comparison_of_positive? h left right
  · intro value pattern h
    have hlike := comparison_like_of_none h value
    refine ⟨hlike, ?_⟩
    rw [comparison_of_positive? rfl, hlike]
    rfl
  · intro value pattern regex s h
    exact comparison_like_of_some h value s

/-- The name of a resource, compared with a parenthesis that is no pattern, with a list that has no
    text, and with a pattern. -/
theorem comparison_agrees_name :
    let name : Provider := .dynamic fun s => .text s.resource.name
    let page : Subject := ⟨Resource.new "/page", ⟨0, 0⟩⟩
    Operator.notLike.positive? = some .like ∧
    comparison .notLike name (.constant (.text "p.*")) =
      negate (comparison .like name (.constant (.text "p.*"))) ∧
    (Value.text "(").toText?.bind Regex.whole? = none ∧
    comparison .notLike name (.constant (.text "(")) page = true ∧
    (Value.list [.text "p.*"]).toText?.bind Regex.whole? = none ∧
    comparison .like name (.constant (.list [.text "p.*"])) page = false ∧
    ∃ regex, (Value.text "p.*").toText?.bind Regex.whole? = some regex ∧
      comparison .like name (.constant (.text "p.*")) page = regex.isMatch "page".toList := by
  intro name page
  have hparenthesis : (Value.text "(").toText?.bind Regex.whole? = none := by cbv
  have hlist : (Value.list [.text "p.*"]).toText?.bind Regex.whole? = none := rfl
  have hisSome : ((Value.text "p.*").toText?.bind Regex.whole?).isSome = true := by cbv
  obtain ⟨regex, hregex⟩ := Option.isSome_iff_exists.mp hisSome
  obtain ⟨-, -, hnegated, hnone, hsome⟩ := comparison_agrees
  refine ⟨rfl, hnegated _ _ _ _ rfl, hparenthesis, ?_, hlist, ?_, regex, hregex, ?_⟩
  · rw [(hnone name _ hparenthesis).2]
    rfl
  · rw [(hnone name _ hlist).1]
    rfl
  · rw [hsome name _ regex page hregex]
    have htext : (name.apply page).toText? = some "page" := by decide +kernel
    rw [htext, Option.any_some]

end Predicate

/-! ## Views of normalized values -/

namespace Value

variable {v w : Value}

/-- Whether the value is neither `absent` nor `null` nor a list. -/
def isScalar : Value → Bool
  | absent | null | list _ => false
  | _ => true

theorem isNullish_iff {v : Value} : v.isNullish = true ↔ v = .absent ∨ v = .null := by
  cases v <;> simp [isNullish]

@[simp] theorem isAbsent_normalized (v : Value) : v.normalized.isAbsent = v.isAbsent := by
  cases v <;> rfl

@[simp] theorem isScalar_normalized (v : Value) : v.normalized.isScalar = v.isScalar := by
  cases v <;> rfl

@[simp] theorem toDecimal?_normalized (v : Value) : v.normalized.toDecimal? = v.toDecimal? := by
  cases v <;> rfl

@[simp] theorem toInstant?_normalized (v : Value) : v.normalized.toInstant? = v.toInstant? := by
  cases v <;> rfl

@[simp] theorem toText?_normalized (v : Value) : v.normalized.toText? = v.toText? := by
  cases v <;> rfl

/-- The text of a truth value is read neither as a number nor as a point in time. -/
theorem ordinal?_booleanText (b : Bool) : (text (booleanText b)).ordinal? = none := by
  cases b <;> decide +kernel

@[simp] theorem ordinal?_normalized (v : Value) : v.normalized.ordinal? = v.ordinal? := by
  cases v with
  | boolean b => exact ordinal?_booleanText b
  | _ => rfl

@[simp] theorem texts?_normalized (v : Value) : v.normalized.texts? = v.texts? := by
  cases v with
  | list items =>
    have htexts : (items.map normalized).filterMap toText? = items.filterMap toText? := by
      rw [List.filterMap_map, show toText? ∘ normalized = toText? from funext toText?_normalized]
    rw [normalized, normalizedAll_eq_map, texts?, htexts]
    rfl
  | _ => rfl

/-! ## Normalized values -/

mutual

theorem normalized_normalized : ∀ v : Value, v.normalized.normalized = v.normalized
  | .list items => congrArg list (normalizedAll_normalizedAll items)
  | .absent | .null | .integer _ | .decimal _ | .text _ | .boolean _ => rfl
  | .instant _ | .calendar _ => rfl

theorem normalizedAll_normalizedAll :
    ∀ vs : List Value, normalizedAll (normalizedAll vs) = normalizedAll vs
  | [] => rfl
  | v :: vs => by
    rw [normalizedAll, normalizedAll, normalized_normalized v, normalizedAll_normalizedAll vs]

end

/-- `v.OccursIn w`: `w` is `v`, or it is a list that has `v` in it, at whatever depth. -/
inductive OccursIn (v : Value) : Value → Prop where
  /-- A value occurs in itself. -/
  | here : OccursIn v v
  /-- What occurs in an item occurs in the list. -/
  | inside {item : Value} {items : List Value} (hitem : item ∈ items) (h : OccursIn v item) :
      OccursIn v (.list items)

/-- What occurs in a normalized value is normalized. -/
theorem OccursIn.exists_of_normalized (h : w.OccursIn v.normalized) : ∃ u, w = normalized u := by
  generalize hn : v.normalized = n at h
  induction h generalizing v with
  | here => exact ⟨v, hn.symm⟩
  | inside hitem _ ih =>
    cases v with
    | list held =>
      rw [normalized, normalizedAll_eq_map] at hn
      obtain rfl := Value.list.inj hn
      obtain ⟨u, -, hu⟩ := List.mem_map.mp hitem
      exact ih hu
    | _ => cases hn

theorem normalized_ne_boolean (v : Value) (b : Bool) : boolean b ≠ v.normalized := by
  cases v <;> nofun

theorem normalized_ne_calendar (v : Value) (z : ZonedTime) : calendar z ≠ v.normalized := by
  cases v <;> nofun

/-! ## Equality of normalized values -/

/-- Two values that are neither missing nor lists are compared through their views. -/
theorem isEqual_of_isScalar (hv : v.isScalar = true) (w : Value) :
    v.isEqual w = (w.isScalar && v.sameScalar w) := by
  cases v with
  | absent | null | list => cases hv
  | _ => cases w <;> rfl

/-- Equality looks at views only: two integers are equal as the decimals that they are. -/
theorem sameScalar_eq (v w : Value) : v.sameScalar w =
    match v.toDecimal?, w.toDecimal? with
    | some a, some b => a.compare b == .eq
    | _, _ =>
      match v.toInstant?, w.toInstant? with
      | some a, some b => a == b
      | _, _ =>
        match v.toText?, w.toText? with
        | some a, some b => a == b
        | _, _ => false := by
  unfold sameScalar
  split
  · rename_i m n
    exact (Decimal.compare_ofInt_beq_eq m n).symm
  · rfl

theorem sameScalar_normalized (v w : Value) :
    v.normalized.sameScalar w.normalized = v.sameScalar w := by
  simp only [sameScalar_eq, toDecimal?_normalized, toInstant?_normalized, toText?_normalized]

/-- Two values are different if both are there and they are not equal; the cases of `null` need no
    rule of their own. -/
theorem isNotEqual_eq (v w : Value) :
    v.isNotEqual w = (!v.isAbsent && !w.isAbsent && !v.isEqual w) := by
  cases v with
  | absent => rfl
  | null => cases w <;> rfl
  | _ =>
    cases w with
    | absent | null => rfl
    | _ => simp only [isNotEqual, isAbsent, Bool.not_false, Bool.true_and]

theorem isEqual_normalized_of_isScalar (hv : v.isScalar = true) (w : Value) :
    v.normalized.isEqual w.normalized = v.isEqual w := by
  have hnormalized : v.normalized.isScalar = true := by rwa [isScalar_normalized]
  rw [isEqual_of_isScalar hnormalized, isEqual_of_isScalar hv, isScalar_normalized,
    sameScalar_normalized]

mutual

theorem isEqual_normalized : ∀ v w : Value, v.normalized.isEqual w.normalized = v.isEqual w
  | .list items, .list others => allEqual_normalizedAll items others
  | .list _, .absent | .list _, .null | .list _, .integer _ | .list _, .decimal _ => rfl
  | .list _, .text _ | .list _, .boolean _ | .list _, .instant _ | .list _, .calendar _ => rfl
  | .absent, w | .null, w => by cases w <;> rfl
  | .integer _, w | .decimal _, w | .text _, w => isEqual_normalized_of_isScalar rfl w
  | .boolean _, w | .instant _, w | .calendar _, w => isEqual_normalized_of_isScalar rfl w

theorem allEqual_normalizedAll :
    ∀ vs ws : List Value, allEqual (normalizedAll vs) (normalizedAll ws) = allEqual vs ws
  | [], [] | [], _ :: _ | _ :: _, [] => rfl
  | v :: vs, w :: ws => by
    rw [normalizedAll, normalizedAll, allEqual, allEqual, isEqual_normalized v w,
      allEqual_normalizedAll vs ws]

end

end Value

/-! ## Operators between normalized values -/

namespace Operator

open Value

theorem holds_normalized (op : Operator) (l r : Value) :
    op.holds l.normalized r.normalized = op.holds l r := by
  cases op with
  | equal => exact isEqual_normalized l r
  | notEqual =>
    rw [holds, holds, isNotEqual_eq, isNotEqual_eq, isAbsent_normalized, isAbsent_normalized,
      isEqual_normalized]
  | less | lessEqual | greater | greaterEqual =>
    rw [holds, holds, compare?, compare?, ordinal?_normalized, ordinal?_normalized]
  | like | notLike => rw [holds, holds, isLike, isLike, toText?_normalized, toText?_normalized]
  | contains | notContains | isIn | notIn =>
    rw [holds, holds, containsAll, containsAll, texts?_normalized, texts?_normalized]
  | containsAny | notContainsAny =>
    rw [holds, holds, Value.containsAny, Value.containsAny, texts?_normalized, texts?_normalized]

theorem holds_normalized_left (op : Operator) (l r : Value) :
    op.holds l.normalized r = op.holds l r := by
  rw [← holds_normalized, normalized_normalized, holds_normalized]

theorem holds_normalized_right (op : Operator) (l r : Value) :
    op.holds l r.normalized = op.holds l r := by
  rw [← holds_normalized, normalized_normalized, holds_normalized]

end Operator

namespace Context

variable (c : Context) (op : Operator) (path : String) (e : Expr) (s : Subject)

/-- A property on the left side is compared as the resource holds it. -/
theorem compile_property_left : c.compile (.compare op (.property path) e) s =
    op.holds (s.resource.property path) ((c.compileValue e).apply s) := by
  rw [compile, Predicate.comparison_apply, ← op.holds_normalized_left (s.resource.property path)]
  rfl

/-- A property on the right side is compared as the resource holds it. -/
theorem compile_property_right : c.compile (.compare op e (.property path)) s =
    op.holds ((c.compileValue e).apply s) (s.resource.property path) := by
  rw [compile, Predicate.comparison_apply, ← op.holds_normalized_right _ (s.resource.property path)]
  rfl

theorem compile_properties (other : String) :
    c.compile (.compare op (.property path) (.property other)) s =
      op.holds (s.resource.property path) (s.resource.property other) := by
  rw [compile_property_left, ← op.holds_normalized_right _ (s.resource.property other)]
  rfl

end Context

open Value in
/-- No operator tells a value from what it is normalized to, on neither side. Normalizing is done
    once and for all, and it leaves no truth value and no calendar value at any depth. So a compiled
    comparison of properties answers as if the values were compared in the form in which the
    resource holds them. -/
theorem Operator.unchanged_by_normalizing :
    (∀ (op : Operator) (l r : Value),
      op.holds l.normalized r = op.holds l r ∧ op.holds l r.normalized = op.holds l r) ∧
    (∀ v : Value, v.normalized.normalized = v.normalized ∧
      (∀ b, ¬ (boolean b).OccursIn v.normalized) ∧ ∀ z, ¬ (calendar z).OccursIn v.normalized) ∧
    ∀ (c : Context) (op : Operator) (path other : String) (e : Expr) (s : Subject),
      c.compile (.compare op (.property path) e) s =
        op.holds (s.resource.property path) ((c.compileValue e).apply s) ∧
      c.compile (.compare op e (.property path)) s =
        op.holds ((c.compileValue e).apply s) (s.resource.property path) ∧
      c.compile (.compare op (.property path) (.property other)) s =
        op.holds (s.resource.property path) (s.resource.property other) := by
  refine ⟨?_, ?_, ?_⟩
  · intro op l r
    exact ⟨op.holds_normalized_left l r, op.holds_normalized_right l r⟩
  · intro v
    refine ⟨normalized_normalized v, fun b h => ?_, fun z h => ?_⟩
    · obtain ⟨u, hu⟩ := h.exists_of_normalized
      exact normalized_ne_boolean u b hu
    · obtain ⟨u, hu⟩ := h.exists_of_normalized
      exact normalized_ne_calendar u z hu
  · intro c op path other e s
    exact ⟨c.compile_property_left op path e s, c.compile_property_right op path e s,
      c.compile_properties op path s other⟩

end ContentFilter
