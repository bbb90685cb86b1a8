import ContentFilter.Proofs.DecimalOrder
import ContentFilter.Value.Comparison
import Mathlib.Data.Prod.Lex
import Mathlib.Data.Sum.Order

/-!
# The order of values

Numbers are ordered among themselves and points in time among themselves; nothing else has an order.
Whatever is ordered has a place: a rational number, or the second and nanosecond of a point in time.
The places of the two categories lie side by side and are not compared with each other. Integers,
decimals and texts are compared by rules of their own, and `compare?_eq_some_iff` says that each of
them comes to the order of the places. So the laws of the order are those of two linear orders.
-/

namespace ContentFilter

/-! ## Outcomes of comparisons -/

section Compares

variable {α β : Type} {o : Ordering}

theorem cmp_eq_iff_compares [LinearOrder α] {x y : α} : cmp x y = o ↔ o.Compares x y :=
  ⟨fun h => h ▸ cmp_compares x y, fun h => h.cmp_eq⟩

variable [LT α] [LT β] {x x' : α} {y y' : β}

theorem compares_inl_iff : o.Compares (.inl x : α ⊕ β) (.inl x') ↔ o.Compares x x' := by
  cases o <;> simp [Ordering.Compares]

theorem compares_inr_iff : o.Compares (.inr y : α ⊕ β) (.inr y') ↔ o.Compares y y' := by
  cases o <;> simp [Ordering.Compares]

theorem not_compares_inl_inr : ¬ o.Compares (.inl x : α ⊕ β) (.inr y) := by
  cases o <;> simp [Ordering.Compares]

theorem not_compares_inr_inl : ¬ o.Compares (.inr y : α ⊕ β) (.inl x) := by
  cases o <;> simp [Ordering.Compares]

end Compares

theorem compare_int64 (m n : Int64) : Ord.compare m n = Ord.compare m.toInt n.toInt := by
  show compareOfLessAndEq m n = compareOfLessAndEq m.toInt n.toInt
  simp only [compareOfLessAndEq, Int64.lt_iff_toInt_lt, Int64.toInt_inj]

/-- Two integers compare as the decimals that they are. -/
theorem Decimal.compare_ofInt (m n : Int64) :
    (ofInt m.toInt).compare (ofInt n.toInt) = Ord.compare m n := by
  rw [compare_eq_cmp, toRat_ofInt, toRat_ofInt, Int.cast_strictMono.cmp_map_eq, cmp_eq_compare,
    compare_int64]

theorem Decimal.compare_ofInt_beq_eq (m n : Int64) :
    ((ofInt m.toInt).compare (ofInt n.toInt) == .eq) = (m == n) := by
  rw [Bool.eq_iff_iff, beq_iff_eq, beq_iff_eq, compare_ofInt, compare_int64, compare_eq_iff_eq,
    Int64.toInt_inj]

theorem Instant.compare_eq_cmp (i j : Instant) :
    i.compare j = cmp (toLex (i.second, i.nano)) (toLex (j.second, j.nano)) := by
  rw [cmp_eq_compare, Prod.Lex.compare_def]
  rfl

namespace Value

variable {u v w : Value} {d e : Decimal} {o o' : Ordering}

/-! ## Places -/

/-- Where numbers and points in time stand in the order of their category. -/
abbrev Place := ℚ ⊕ (ℤ ×ₗ ℕ)

/-- The place of a number or of a point in time. -/
def Ordinal.place : Ordinal → Place
  | .integer n => .inl n.toInt
  | .number d => .inl d.toRat
  | .instant i => .inr (toLex (i.second, i.nano))

/-- The place of a value, if it is ordered at all. -/
def place? (v : Value) : Option Place :=
  v.ordinal?.map Ordinal.place

/-- Each rule for a pair of ordinals gives the order of their places. -/
theorem Ordinal.compare?_eq_some_iff {a b : Ordinal} :
    a.compare? b = some o ↔ o.Compares a.place b.place := by
  cases a with
  | integer m =>
    cases b with
    | integer n =>
      rw [compare?, Option.some.injEq, ← Decimal.compare_ofInt, Decimal.compare_eq_cmp,
        Decimal.toRat_ofInt, Decimal.toRat_ofInt, cmp_eq_iff_compares, place, place,
        compares_inl_iff]
    | number b =>
      rw [compare?, Option.some.injEq, Decimal.compare_eq_cmp, Decimal.toRat_ofInt,
        cmp_eq_iff_compares, place, place, compares_inl_iff]
    | instant j => exact iff_of_false nofun not_compares_inl_inr
  | number a =>
    cases b with
    | integer n =>
      rw [compare?, Option.some.injEq, Decimal.compare_eq_cmp, Decimal.toRat_ofInt,
        cmp_eq_iff_compares, place, place, compares_inl_iff]
    | number b =>
      rw [compare?, Option.some.injEq, Decimal.compare_eq_cmp, cmp_eq_iff_compares, place, place,
        compares_inl_iff]
    | instant j => exact iff_of_false nofun not_compares_inl_inr
  | instant i =>
    cases b with
    | integer | number => exact iff_of_false nofun not_compares_inr_inl
    | instant j =>
      rw [compare?, Option.some.injEq, Instant.compare_eq_cmp, cmp_eq_iff_compares, place, place,
        compares_inr_iff]

/-- Values are ordered as their places are. -/
theorem compare?_eq_some_iff : v.compare? w = some o ↔
    ∃ p q, v.place? = some p ∧ w.place? = some q ∧ o.Compares p q := by
  simp only [compare?, place?, Option.bind_eq_some_iff, Option.map_eq_some_iff,
    Ordinal.compare?_eq_some_iff]
  constructor
  · rintro ⟨a, ha, b, hb, h⟩
    exact ⟨_, _, ⟨a, ha, rfl⟩, ⟨b, hb, rfl⟩, h⟩
  · rintro ⟨_, _, ⟨a, ha, rfl⟩, ⟨b, hb, rfl⟩, h⟩
    exact ⟨a, ha, b, hb, h⟩

/-- Only the place of a value shows in its order. -/
theorem compare?_congr_left (h : u.place? = v.place?) (w : Value) :
    u.compare? w = v.compare? w := by
  ext o
  rw [compare?_eq_some_iff, compare?_eq_some_iff, h]

theorem place?_of_toDecimal? (hv : v.toDecimal? = some d) : v.place? = some (.inl d.toRat) := by
  cases v with
  | integer n =>
    cases hv
    rw [Decimal.toRat_ofInt]
    rfl
  | decimal =>
    cases hv
    rfl
  | _ => cases hv

theorem place?_of_toInstant? {i : Instant} (hv : v.toInstant? = some i) :
    v.place? = some (.inr (toLex (i.second, i.nano))) := by
  cases v with
  | instant | calendar =>
    cases hv
    rfl
  | _ => cases hv

theorem compare?_of_toDecimal? (hv : v.toDecimal? = some d) (hw : w.toDecimal? = some e) :
    v.compare? w = some (d.compare e) := by
  refine compare?_eq_some_iff.mpr ⟨_, _, place?_of_toDecimal? hv, place?_of_toDecimal? hw, ?_⟩
  rw [compares_inl_iff, Decimal.compare_eq_cmp]
  exact cmp_compares _ _

/-! ## The two categories -/

/-- The values that are ordered as numbers. -/
inductive IsNumeric : Value → Prop where
  /-- An integer. -/
  | integer (n : Int64) : IsNumeric (.integer n)
  /-- A decimal. -/
  | decimal (d : Decimal) : IsNumeric (.decimal d)
  /-- A text that can be read as a number. -/
  | text {s : String} {v : Value} (h : readNumber? s = some v) : IsNumeric (.text s)

/-- The values that are ordered as points in time. -/
inductive IsTemporal : Value → Prop where
  /-- An instant. -/
  | instant (i : Instant) : IsTemporal (.instant i)
  /-- A time with its offset. -/
  | calendar (z : ZonedTime) : IsTemporal (.calendar z)
  /-- A text that can be read as a point in time and not as a number. -/
  | text {s : String} {i : Instant} (hnumber : readNumber? s = none)
      (h : Calendar.readInstant? s.toList = some i) : IsTemporal (.text s)

theorem exists_of_readNumber? {s : String} (h : readNumber? s = some v) :
    ∃ d, v.toDecimal? = some d := by
  simp only [readNumber?] at h
  split at h
  · cases h
    exact ⟨_, rfl⟩
  · obtain ⟨d, -, rfl⟩ := Option.map_eq_some_iff.mp h
    exact ⟨d, rfl⟩

/-- A text that can be read as a number is ordered as this number. -/
theorem place?_of_readNumber? {s : String} (h : readNumber? s = some v)
    (hv : v.toDecimal? = some d) : (text s).place? = some (.inl d.toRat) := by
  rw [← place?_of_toDecimal? hv, place?, place?, ordinal?, h]
  cases v with
  | integer | decimal => rfl
  | _ => cases hv

theorem place?_of_readInstant? {s : String} {i : Instant} (hnumber : readNumber? s = none)
    (h : Calendar.readInstant? s.toList = some i) :
    (text s).place? = some (.inr (toLex (i.second, i.nano))) := by
  rw [place?, ordinal?, hnumber, h]
  rfl

theorem isNumeric_iff : v.IsNumeric ↔ ∃ x, v.place? = some (.inl x) := by
  constructor
  · rintro (n | d | h)
    · exact ⟨_, place?_of_toDecimal? rfl⟩
    · exact ⟨_, place?_of_toDecimal? rfl⟩
    · obtain ⟨d, hd⟩ := exists_of_readNumber? h
      exact ⟨_, place?_of_readNumber? h hd⟩
  · rintro ⟨x, h⟩
    cases v with
    | integer n => exact .integer n
    | decimal d => exact .decimal d
    | text s =>
      cases hnumber : readNumber? s with
      | some v => exact .text hnumber
      | none =>
        rw [place?, ordinal?, hnumber] at h
        obtain ⟨a, ha, hplace⟩ := Option.map_eq_some_iff.mp h
        obtain ⟨i, -, rfl⟩ := Option.map_eq_some_iff.mp ha
        cases hplace
    | _ => cases h

theorem isTemporal_iff : v.IsTemporal ↔ ∃ x, v.place? = some (.inr x) := by
  constructor
  · rintro (i | z | ⟨hnumber, h⟩)
    · exact ⟨_, place?_of_toInstant? rfl⟩
    · exact ⟨_, place?_of_toInstant? rfl⟩
    · exact ⟨_, place?_of_readInstant? hnumber h⟩
  · rintro ⟨x, h⟩
    cases v with
    | instant i => exact .instant i
    | calendar z => exact .calendar z
    | text s =>
      cases hnumber : readNumber? s with
      | some v =>
        obtain ⟨d, hd⟩ := exists_of_readNumber? hnumber
        cases (place?_of_readNumber? hnumber hd).symm.trans h
      | none =>
        rw [place?, ordinal?, hnumber] at h
        obtain ⟨a, ha, -⟩ := Option.map_eq_some_iff.mp h
        obtain ⟨i, hi, -⟩ := Option.map_eq_some_iff.mp ha
        exact .text hnumber hi
    | _ => cases h

theorem not_isTemporal_of_isNumeric (h : v.IsNumeric) : ¬ v.IsTemporal := by
  intro h'
  obtain ⟨x, hx⟩ := isNumeric_iff.mp h
  obtain ⟨y, hy⟩ := isTemporal_iff.mp h'
  cases hx.symm.trans hy

theorem isSome_compare?_iff : (v.compare? w).isSome ↔
    (v.IsNumeric ∧ w.IsNumeric) ∨ (v.IsTemporal ∧ w.IsTemporal) := by
  simp only [Option.isSome_iff_exists, compare?_eq_some_iff, isNumeric_iff, isTemporal_iff]
  constructor
  · rintro ⟨o, x | x, y | y, hv, hw, h⟩
    · exact .inl ⟨⟨x, hv⟩, y, hw⟩
    · exact absurd h not_compares_inl_inr
    · exact absurd h not_compares_inr_inl
    · exact .inr ⟨⟨x, hv⟩, y, hw⟩
  · rintro (⟨⟨x, hv⟩, y, hw⟩ | ⟨⟨x, hv⟩, y, hw⟩)
    · exact ⟨_, _, _, hv, hw, compares_inl_iff.mpr (cmp_compares x y)⟩
    · exact ⟨_, _, _, hv, hw, compares_inr_iff.mpr (cmp_compares x y)⟩

/-! ## Laws -/

theorem compare?_swap (v w : Value) : w.compare? v = (v.compare? w).map Ordering.swap := by
  ext o
  rw [compare?_eq_some_iff, Option.map_eq_some_iff]
  constructor
  · rintro ⟨p, q, hw, hv, h⟩
    have hswap : v.compare? w = some o.swap :=
      compare?_eq_some_iff.mpr ⟨q, p, hv, hw, Ordering.compares_swap.mpr h⟩
    exact ⟨o.swap, hswap, o.swap_swap⟩
  · rintro ⟨o, h, rfl⟩
    obtain ⟨p, q, hv, hw, hcompares⟩ := compare?_eq_some_iff.mp h
    exact ⟨q, p, hw, hv, Ordering.compares_swap.mpr hcompares⟩

/-- What is not greater than something not greater is not greater, and less if one of the two is
    less. -/
theorem compares_trans {p q r : Place} (hpq : o.Compares p q) (hqr : o'.Compares q r)
    (ho : o ≠ .gt) (ho' : o' ≠ .gt) : (o.then o').Compares p r := by
  cases o with
  | gt => exact absurd rfl ho
  | eq =>
    obtain rfl : p = q := hpq
    exact hqr
  | lt =>
    cases o' with
    | gt => exact absurd rfl ho'
    | eq =>
      obtain rfl : q = r := hqr
      exact hpq
    | lt => exact lt_trans hpq hqr

theorem compare?_trans (huv : u.compare? v = some o) (hvw : v.compare? w = some o')
    (ho : o ≠ .gt) (ho' : o' ≠ .gt) : u.compare? w = some (o.then o') := by
  obtain ⟨p, q, hu, hv, hpq⟩ := compare?_eq_some_iff.mp huv
  obtain ⟨q', r, hv', hw, hqr⟩ := compare?_eq_some_iff.mp hvw
  obtain rfl : q = q' := Option.some.inj (hv.symm.trans hv')
  exact compare?_eq_some_iff.mpr ⟨p, r, hu, hw, compares_trans hpq hqr ho ho'⟩

open Operator in
theorem count_true_of_compare? (h : v.compare? w = some o) :
    [less.holds v w, less.holds w v, lessEqual.holds v w && greaterEqual.holds v w].count true =
      1 := by
  have hswap : w.compare? v = some o.swap := by
    rw [compare?_swap, h]
    rfl
  simp only [Operator.holds, h, hswap]
  cases o <;> rfl

open Operator in
/-- Numbers and points in time are two categories of values without a value in common. Two values of
    one category are ordered, the second against the first the other way round than the first
    against the second; any other two values are not, and no operator of the order holds between
    them. Being less or equal is transitive, and strictly so if one of the two steps is. So of two
    values of one category either one is less than the other, or each is less or equal and greater
    or equal. -/
theorem ordered_in_two_categories :
    (∀ v : Value, ¬ (v.IsNumeric ∧ v.IsTemporal)) ∧
    (∀ v w : Value, (v.compare? w).isSome ↔
      (v.IsNumeric ∧ w.IsNumeric) ∨ (v.IsTemporal ∧ w.IsTemporal)) ∧
    (∀ v w : Value, w.compare? v = (v.compare? w).map Ordering.swap) ∧
    (∀ (u v w : Value) (o o' : Ordering), u.compare? v = some o → v.compare? w = some o' →
      o ≠ .gt → o' ≠ .gt →
      ∃ o'', u.compare? w = some o'' ∧ o'' ≠ .gt ∧ (o = .lt ∨ o' = .lt → o'' = .lt)) ∧
    (∀ v w : Value, (v.compare? w).isSome →
      [less.holds v w, less.holds w v, lessEqual.holds v w && greaterEqual.holds v w].count true =
        1) ∧
    ∀ v w : Value, v.compare? w = none →
      ∀ op ∈ [less, lessEqual, greater, greaterEqual], op.holds v w = false := by
  refine ⟨fun v h => not_isTemporal_of_isNumeric h.1 h.2, fun v w => isSome_compare?_iff,
    compare?_swap, ?_, ?_, ?_⟩
  · intro u v w o o' huv hvw ho ho'
    refine ⟨_, compare?_trans huv hvw ho ho', ?_⟩
    cases o <;> cases o' <;> simp_all [Ordering.then]
  · intro v w h
    obtain ⟨o, ho⟩ := Option.isSome_iff_exists.mp h
    exact count_true_of_compare? ho
  · intro v w h op hop
    have hoperator : op = less ∨ op = lessEqual ∨ op = greater ∨ op = greaterEqual := by
      simpa using hop
    rcases hoperator with rfl | rfl | rfl | rfl
    all_goals
      rw [Operator.holds, h]
      rfl

open Operator in
/-- An integer, a decimal that is the same number, and a text that is read as a greater one. -/
theorem ordered_in_two_categories_numbers :
    (integer 5).compare? (decimal ⟨500, 2⟩) = some .eq ∧
    (decimal ⟨500, 2⟩).compare? (text "1e20") = some .lt ∧
    (∃ o, (integer 5).compare? (text "1e20") = some o ∧ o ≠ .gt ∧
      (Ordering.eq = .lt ∨ Ordering.lt = .lt → o = .lt)) ∧
    [less.holds (integer 5) (text "1e20"), less.holds (text "1e20") (integer 5),
      lessEqual.holds (integer 5) (text "1e20") &&
        greaterEqual.holds (integer 5) (text "1e20")].count true = 1 ∧
    (text "1e20").compare? (text "2020-01-01") = none ∧
    less.holds (text "1e20") (text "2020-01-01") = false := by
  have hfirst : (integer 5).compare? (decimal ⟨500, 2⟩) = some .eq := by decide +kernel
  have hsecond : (decimal ⟨500, 2⟩).compare? (text "1e20") = some .lt := by decide +kernel
  have hnone : (text "1e20").compare? (text "2020-01-01") = none := by decide +kernel
  obtain ⟨-, -, -, htrans, hcount, hfalse⟩ := ordered_in_two_categories
  obtain ⟨o, ho, hgt, hlt⟩ := htrans _ _ _ _ _ hfirst hsecond (by decide) (by decide)
  refine ⟨hfirst, hsecond, ⟨o, ho, hgt, hlt⟩, ?_, hnone, ?_⟩
  · exact hcount _ _ (Option.isSome_iff_exists.mpr ⟨o, ho⟩)
  · exact hfalse _ _ hnone _ (by decide)

end Value

end ContentFilter
