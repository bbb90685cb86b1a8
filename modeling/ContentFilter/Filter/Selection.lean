import ContentFilter.Expr.Reader
import ContentFilter.Filter.Compile
import ContentFilter.Resource.Traversal

/-!
# Selections

A selection names the resources of a tree that a filter accepts and that are reached through
branches that another filter accepts. The root is always reached; a resource that the first filter
rejects is left out, but not what is below it. Both filters are compiled when the resources are
asked for, so that they see the arguments bound last.
-/

namespace ContentFilter

/-- What is selected from a tree. -/
structure Selection where
  /-- The resource that the selection begins at. -/
  root : Resource
  /-- What the filters are compiled with. -/
  context : Context
  /-- The filter for the branches, if any. -/
  branch : Option Expr
  /-- The filter for the resources, if any. -/
  result : Option Expr

namespace Selection

/-- The selection of all resources below `root` and itself. -/
def new (root : Resource) (context : Context) : Selection :=
  ⟨root, context, none, none⟩

/-- Reads the filter for the branches. -/
def withBranch (s : Selection) (filter : String) : Except ParseError Selection :=
  (Expr.parse filter).map fun e => { s with branch := some e }

/-- Reads the filter for the resources. -/
def withResult (s : Selection) (filter : String) : Except ParseError Selection :=
  (Expr.parse filter).map fun e => { s with result := some e }

/-- Binds an argument of both filters. -/
def withArgument (s : Selection) (name : String) (value : Value) : Selection :=
  { s with context := s.context.withArgument name value }

/-- Binds arguments one after the other. -/
def withArguments (s : Selection) (arguments : List (String × Value)) : Selection :=
  { s with context := s.context.withArguments arguments }

/-- The test of a filter; no filter accepts everything. -/
def test (s : Selection) (filter : Option Expr) (now : Instant) : Resource → Bool :=
  match filter with
  | some e =>
    let predicate := s.context.compile e
    fun r => predicate ⟨r, now⟩
  | none => fun _ => true

/-- The selected resources, in the order of the tree. -/
def resources (s : Selection) (now : Instant) : List Resource :=
  (Traversal.start s.root (s.test s.branch now)).toList.filter (s.test s.result now)

/-- The children of the root that the filter for resources accepts, whatever the branches. -/
def children (s : Selection) (now : Instant) : List Resource :=
  s.root.children.filter (s.test s.result now)

end Selection

end ContentFilter
