import ContentFilter.Expr.Basic
import ContentFilter.Filter.Context

/-!
# Compiling filter expressions

Functions and arguments are looked up once, literals are read once, and what depends on constants
only is decided once. A call of `name` or `path` is that of the resource, whatever is registered
under these names. A node in the wrong place is no value, or a test that fails.
-/

namespace ContentFilter.Context

/-- The operand of a time written in an expression. -/
def timeLiteral (time : Option Instant) : Provider :=
  .constant ((time.map .instant).getD .absent)

/-- The operand of a call whose arguments are compiled already. -/
def callProvider (c : Context) (name : String) (arguments : List Provider) : Provider :=
  if name = "name" then .dynamic fun s => .text s.resource.name
  else if name = "path" then .dynamic fun s => .text s.resource.path
  else
    match c.registry.find? name with
    | some f => f.call arguments
    | none => .constant .absent

mutual

/-- Compiles an operand. -/
def compileValue (c : Context) : Expr → Provider
  | .property path => .dynamic fun s => (s.resource.property path).normalized
  | .number lexeme => .constant ((Value.readNumber? lexeme).getD .absent)
  | .null => .constant .null
  | .date lexeme => timeLiteral (Calendar.readDate? lexeme.toList)
  | .localTime lexeme => timeLiteral (Calendar.readLocalTime? lexeme.toList)
  | .offsetTime lexeme => timeLiteral (Calendar.readOffsetTime? lexeme.toList)
  | .call name arguments => c.callProvider name (compileValues c arguments)
  | .argument name => .constant (((c.arguments.find? name).map Value.normalized).getD .null)
  | .text s => .constant (.text s)
  | .all _ | .any _ | .compare _ _ _ => .constant .absent

/-- Compiles operands. -/
def compileValues (c : Context) : List Expr → List Provider
  | [] => []
  | e :: es => compileValue c e :: compileValues c es

end

mutual

/-- Compiles a predicate. A conjunction or disjunction of one operand is that operand. -/
def compile (c : Context) : Expr → Predicate
  | .all [e] => compile c e
  | .all es => .all (compileAll c es)
  | .any [e] => compile c e
  | .any es => .any (compileAll c es)
  | .compare op left right => .comparison op (c.compileValue left) (c.compileValue right)
  | _ => .always false

/-- Compiles predicates. -/
def compileAll (c : Context) : List Expr → List Predicate
  | [] => []
  | e :: es => compile c e :: compileAll c es

end

end ContentFilter.Context
