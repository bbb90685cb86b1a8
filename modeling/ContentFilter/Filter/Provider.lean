import ContentFilter.Resource.Basic
import ContentFilter.Value.Comparison

/-!
# Providers and predicates

What an operand is once it is compiled: a constant, or a function of the resource that a filter is
tested on. A predicate answers for each resource. Tests happen at a point in time, which belongs to
what they are tested on. Main statement: the test of a positive operator answers like the operator
does on the values of its operands, although the pattern of `like` may have been read beforehand.
-/

namespace ContentFilter

/-- What a filter is tested on. -/
structure Subject where
  /-- The resource. -/
  resource : Resource
  /-- The time of the test. -/
  now : Instant

/-- A compiled operand. -/
inductive Provider where
  /-- The same value for all resources. -/
  | constant (v : Value)
  /-- A value for each resource. -/
  | dynamic (f : Subject → Value)

namespace Provider

instance : Inhabited Provider := ⟨constant .absent⟩

/-- The value that the operand has. -/
def apply : Provider → Subject → Value
  | constant v, _ => v
  | dynamic f, s => f s

/-- The value of a constant. -/
def constant? : Provider → Option Value
  | constant v => some v
  | dynamic _ => none

/-- The values of operands that are all constants. -/
def constants? (operands : List Provider) : Option (List Value) :=
  operands.mapM constant?

/-- The values of operands. -/
def applyAll (operands : List Provider) (s : Subject) : List Value :=
  operands.map (·.apply s)

@[simp] theorem apply_constant (v : Value) (s : Subject) : (constant v).apply s = v := rfl

@[simp] theorem apply_dynamic (f : Subject → Value) (s : Subject) :
    (dynamic f).apply s = f s := rfl

/-- Constants have their values on every subject. -/
theorem applyAll_of_constants? {operands : List Provider} {values : List Value}
    (h : constants? operands = some values) (s : Subject) : applyAll operands s = values := by
  induction operands generalizing values with
  | nil => simp_all [constants?, applyAll]
  | cons p ps ih =>
    simp only [constants?, List.mapM_cons, Option.pure_def, Option.bind_eq_bind] at h
    obtain ⟨v, hv, hrest⟩ := Option.bind_eq_some_iff.mp h
    obtain ⟨vs, hvs, hcons⟩ := Option.bind_eq_some_iff.mp hrest
    cases p with
    | dynamic f => simp [constant?] at hv
    | constant w =>
      simp only [constant?, Option.some.injEq] at hv hcons
      subst hv hcons
      have := ih hvs
      simp_all [applyAll]

end Provider

/-- A test of resources. -/
abbrev Predicate := Subject → Bool

namespace Predicate

/-- The test that always has the same answer. -/
def always (answer : Bool) : Predicate := fun _ => answer

/-- Holds if all of the tests do. -/
def all (tests : List Predicate) : Predicate := fun s => tests.all fun p => p s

/-- Holds if any of the tests does. -/
def any (tests : List Predicate) : Predicate := fun s => tests.any fun p => p s

/-- Holds if the test does not. -/
def negate (test : Predicate) : Predicate := fun s => !test s

/-- The test whether a value is like a pattern, which is read beforehand. -/
def likePattern (value : Provider) (pattern : Value) : Predicate :=
  match pattern.toText?.bind Regex.whole? with
  | none => always false
  | some regex => fun s => (value.apply s).toText?.any fun t => regex.isMatch t.toList

/-- The test of an operator that is no negation. -/
def positiveComparison (op : Operator) (left right : Provider) : Predicate :=
  match op, right with
  | .like, .constant pattern => likePattern left pattern
  | _, _ => fun s => op.holds (left.apply s) (right.apply s)

/-- The test whether an operator holds. Two constants are compared beforehand, and a negated
operator negates the test of its positive one. -/
def comparison (op : Operator) (left right : Provider) : Predicate :=
  match left, right with
  | .constant l, .constant r => always (op.holds l r)
  | _, _ =>
    match op.positive? with
    | some positive => negate (positiveComparison positive left right)
    | none => positiveComparison op left right

/-! ## What the tests answer -/

theorem likePattern_apply (value : Provider) (pattern : Value) (s : Subject) :
    likePattern value pattern s = (value.apply s).isLike pattern := by
  unfold likePattern Value.isLike
  cases hp : pattern.toText? with
  | none => cases (value.apply s).toText? <;> simp [always]
  | some p =>
    cases hr : Regex.whole? p with
    | none => cases (value.apply s).toText? <;> simp [always, Regex.matchesWhole, hr]
    | some regex =>
      cases ht : (value.apply s).toText? <;> simp [Regex.matchesWhole, hr, ht]

theorem positiveComparison_apply (op : Operator) (left right : Provider) (s : Subject) :
    positiveComparison op left right s = op.holds (left.apply s) (right.apply s) := by
  unfold positiveComparison
  split
  · exact likePattern_apply _ _ _
  · rfl

end Predicate

end ContentFilter
