import ContentFilter.Operator
import ContentFilter.Regex.Reach
import ContentFilter.Value.Basic

/-!
# Comparing values

Every operator answers on every two values: one that has no use for its operands answers no. Values
are equal as numbers, as points in time or as texts, in this order; they are ordered as numbers or
as points in time, and there a text counts as what it can be read as. Absent values are equal to
`null` only, and different from nothing.
-/

namespace ContentFilter

namespace Value

/-! ## Equality -/

/-- Whether two values other than lists are the same number, the same point in time or, failing
both views, the same text. Two integers need no decimals. -/
def sameScalar : Value → Value → Bool
  | integer m, integer n => m == n
  | left, right =>
    match left.toDecimal?, right.toDecimal? with
    | some a, some b => a.compare b == .eq
    | _, _ =>
      match left.toInstant?, right.toInstant? with
      | some a, some b => a == b
      | _, _ =>
        match left.toText?, right.toText? with
        | some a, some b => a == b
        | _, _ => false

/-- Whether the value is `absent`. -/
def isAbsent : Value → Bool
  | absent => true
  | _ => false

/-- Whether the value is `null`. -/
def isNull : Value → Bool
  | null => true
  | _ => false

mutual

/-- Whether the values are equal. -/
def isEqual : Value → Value → Bool
  | absent, right => right.isNull
  | null, right => right.isNullish
  | list items, right =>
    match right with
    | list others => allEqual items others
    | _ => false
  | left, right =>
    match right with
    | absent | null | list _ => false
    | _ => sameScalar left right

/-- Whether two lists have equal values at the same places, and as many of them. -/
def allEqual : List Value → List Value → Bool
  | [], [] => true
  | v :: vs, w :: ws => isEqual v w && allEqual vs ws
  | _, _ => false

end

/-- Whether the values are there and different. -/
def isNotEqual : Value → Value → Bool
  | absent, _ | _, absent => false
  | null, null => false
  | null, _ | _, null => true
  | left, right => !isEqual left right

/-! ## Order -/

/-- What a value is where values are ordered. -/
inductive Ordinal where
  /-- An integer of 64 bits. -/
  | integer (n : Int64)
  /-- Any other number. -/
  | number (d : Decimal)
  /-- A point in time. -/
  | instant (i : Instant)
deriving DecidableEq, Repr

/-- The number or the point in time that a value is or that its text can be read as. -/
def ordinal? : Value → Option Ordinal
  | integer n => some (.integer n)
  | decimal d => some (.number d)
  | instant i => some (.instant i)
  | calendar z => some (.instant z.instant)
  | text s =>
    match readNumber? s with
    | some (integer n) => some (.integer n)
    | some (decimal d) => some (.number d)
    | _ => (Calendar.readInstant? s.toList).map .instant
  | _ => none

/-- The order of two numbers or of two points in time. An integer is compared with a decimal as the
decimal that it is. -/
def Ordinal.compare? : Ordinal → Ordinal → Option Ordering
  | integer m, integer n => some (Ord.compare m n)
  | integer n, number b => some ((Decimal.ofInt n.toInt).compare b)
  | number a, integer n => some (a.compare (.ofInt n.toInt))
  | number a, number b => some (a.compare b)
  | instant a, instant b => some (a.compare b)
  | _, _ => none

/-- The order of two values, if they have one. -/
def compare? (left right : Value) : Option Ordering :=
  left.ordinal?.bind fun a => right.ordinal?.bind a.compare?

/-! ## Patterns and lists -/

/-- Whether the text of the value as a whole matches the text of `pattern`. -/
def isLike (value pattern : Value) : Bool :=
  match value.toText?, pattern.toText? with
  | some s, some p => Regex.matchesWhole p s
  | _, _ => false

/-- The texts of the values of a list; any other value counts as a list of itself. -/
def texts? : Value → Option (List String)
  | list items => some (items.filterMap toText?)
  | v => v.toText?.map ([·])

/-- Whether every text of `needles` is among those of `value`, and there are no more of them. -/
def containsAll (value needles : Value) : Bool :=
  match value.texts?, needles.texts? with
  | some held, some want => decide (want.length ≤ held.length) && want.all held.contains
  | _, _ => false

/-- Whether some text of `needles` is among those of `value`. -/
def containsAny (value needles : Value) : Bool :=
  match value.texts?, needles.texts? with
  | some held, some want => want.any held.contains
  | _, _ => false

end Value

/-! ## Operators -/

namespace Operator

/-- Whether the operator holds between two values. -/
def holds : Operator → Value → Value → Bool
  | equal, l, r => l.isEqual r
  | notEqual, l, r => l.isNotEqual r
  | less, l, r => l.compare? r == some .lt
  | lessEqual, l, r => (l.compare? r).any (·.isLE)
  | greater, l, r => l.compare? r == some .gt
  | greaterEqual, l, r => (l.compare? r).any (·.isGE)
  | like, l, r => l.isLike r
  | notLike, l, r => !l.isLike r
  | contains, l, r => l.containsAll r
  | notContains, l, r => !l.containsAll r
  | containsAny, l, r => l.containsAny r
  | notContainsAny, l, r => !l.containsAny r
  | isIn, l, r => r.containsAll l
  | notIn, l, r => !r.containsAll l

/-- A negated operator holds where the one that it negates does not. -/
theorem holds_of_positive? {op positive : Operator} (h : op.positive? = some positive)
    (l r : Value) : op.holds l r = !positive.holds l r := by
  cases op <;> simp_all [positive?] <;> subst h <;> rfl

end Operator

end ContentFilter
