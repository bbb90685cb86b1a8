/-!
# Comparison operators

Four of the fourteen operators are negations of others.
-/

namespace ContentFilter

/-- A comparison operator of the filter language. -/
inductive Operator where
  /-- `==`, `=`, `is` -/
  | equal
  /-- `!=`, `<>`, `is not` -/
  | notEqual
  /-- `<`, `less than` -/
  | less
  /-- `<=` -/
  | lessEqual
  /-- `>`, `greater than` -/
  | greater
  /-- `>=` -/
  | greaterEqual
  /-- `like` -/
  | like
  /-- `like not`, `not like` -/
  | notLike
  /-- `contains` -/
  | contains
  /-- `contains not` -/
  | notContains
  /-- `contains any` -/
  | containsAny
  /-- `contains not any` -/
  | notContainsAny
  /-- `in` -/
  | isIn
  /-- `not in` -/
  | notIn
deriving DecidableEq, Repr

namespace Operator

/-- All operators. -/
def all : List Operator :=
  [equal, notEqual, less, lessEqual, greater, greaterEqual, like, notLike, contains, notContains,
    containsAny, notContainsAny, isIn, notIn]

/-- The canonical spelling. -/
def spelling : Operator → String
  | equal => "=="
  | notEqual => "!="
  | less => "<"
  | lessEqual => "<="
  | greater => ">"
  | greaterEqual => ">="
  | like => "like"
  | notLike => "like not"
  | contains => "contains"
  | notContains => "contains not"
  | containsAny => "contains any"
  | notContainsAny => "contains not any"
  | isIn => "in"
  | notIn => "not in"

/-- The operator that a negated one is the negation of. -/
def positive? : Operator → Option Operator
  | notLike => some like
  | notContains => some contains
  | notContainsAny => some containsAny
  | notIn => some isIn
  | _ => none

theorem mem_all (op : Operator) : op ∈ all := by
  cases op <;> decide

/-- A positive operator is not the negation of another one. -/
theorem positive?_positive {op p : Operator} (h : op.positive? = some p) : p.positive? = none := by
  cases op <;> simp_all [positive?] <;> subst h <;> rfl

end Operator

end ContentFilter
