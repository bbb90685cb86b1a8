import ContentFilter.Operator

/-!
# Filter expressions

A filter expression is a tree. Conjunctions, disjunctions and comparisons are predicates, every
other node is an operand. The type also has trees that no filter text denotes, such as a
conjunction as an operand; they have a meaning too.
-/

namespace ContentFilter

/-- A filter expression. -/
inductive Expr where
  /-- `a and b and …` -/
  | all (operands : List Expr)
  /-- `a or b or …` -/
  | any (operands : List Expr)
  /-- `left op right` -/
  | compare (op : Operator) (left right : Expr)
  /-- A function call: `name()`, `date('2020-01-01', 'yyyy-MM-dd')` -/
  | call (name : String) (arguments : List Expr)
  /-- The property with the given path: `title`, `[jcr:content/jcr:title]` -/
  | property (path : String)
  /-- A number, as it is written. -/
  | number (lexeme : String)
  /-- `null` -/
  | null
  /-- A date, as it is written: `2020-01-01` -/
  | date (lexeme : String)
  /-- A local date-time, as it is written: `2020-01-01T10:15:30` -/
  | localTime (lexeme : String)
  /-- A date-time with an offset, as it is written: `2020-01-01T10:15:30+02:00` -/
  | offsetTime (lexeme : String)
  /-- The argument that the context binds to a name: `$name` -/
  | argument (name : String)
  /-- A quoted text; also `true` and `false`. -/
  | text (s : String)
deriving Repr

namespace Expr

instance : Inhabited Expr := ⟨null⟩

/-- The name or lexeme of a node; predicates have none. -/
def lexeme? : Expr → Option String
  | call name _ => some name
  | property s | number s | date s | localTime s | offsetTime s | argument s | text s => some s
  | null => some "null"
  | all _ | any _ | compare _ _ _ => none

/-- The operands of a conjunction or disjunction, the arguments of a call. -/
def children : Expr → List Expr
  | all operands | any operands => operands
  | call _ arguments => arguments
  | _ => []

/-- Whether the node is a predicate. -/
def isPredicate : Expr → Bool
  | all _ | any _ | compare _ _ _ => true
  | _ => false

end Expr

end ContentFilter
