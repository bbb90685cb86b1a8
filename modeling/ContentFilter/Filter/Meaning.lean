import ContentFilter.Expr.Basic
import ContentFilter.Filter.Context

/-!
# The meaning of filter expressions

What an expression says of a resource, node by node and without compiling it. Functions are given by
what they make of the values of their arguments.
-/

namespace ContentFilter

/-- What names in an expression stand for. -/
structure Environment where
  /-- The functions, by what they make of the values of their arguments. -/
  functions : String → Option (List Value → Subject → Value)
  /-- The values of the arguments. -/
  arguments : String → Option Value

namespace Expr

mutual

/-- The value of an operand. -/
def value (env : Environment) (s : Subject) : Expr → Value
  | property path => (s.resource.property path).normalized
  | number lexeme => (Value.readNumber? lexeme).getD .absent
  | null => .null
  | date lexeme => ((Calendar.readDate? lexeme.toList).map .instant).getD .absent
  | localTime lexeme => ((Calendar.readLocalTime? lexeme.toList).map .instant).getD .absent
  | offsetTime lexeme => ((Calendar.readOffsetTime? lexeme.toList).map .instant).getD .absent
  | call "name" _ => .text s.resource.name
  | call "path" _ => .text s.resource.path
  | call name arguments =>
    match env.functions name with
    | some g => g (values env s arguments) s
    | none => .absent
  | argument name => ((env.arguments name).map Value.normalized).getD .null
  | text t => .text t
  | all _ | any _ | compare _ _ _ => .absent

/-- The values of operands. -/
def values (env : Environment) (s : Subject) : List Expr → List Value
  | [] => []
  | e :: es => value env s e :: values env s es

end

mutual

/-- Whether a predicate holds. -/
def holds (env : Environment) (s : Subject) : Expr → Bool
  | all es => holdsAll env s es
  | any es => holdsAny env s es
  | compare op left right => op.holds (left.value env s) (right.value env s)
  | _ => false

/-- Whether all of the predicates hold. -/
def holdsAll (env : Environment) (s : Subject) : List Expr → Bool
  | [] => true
  | e :: es => holds env s e && holdsAll env s es

/-- Whether any of the predicates holds. -/
def holdsAny (env : Environment) (s : Subject) : List Expr → Bool
  | [] => false
  | e :: es => holds env s e || holdsAny env s es

end

end Expr

end ContentFilter
