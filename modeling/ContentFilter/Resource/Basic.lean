import ContentFilter.NameTable
import ContentFilter.Resource.Path
import ContentFilter.Value.Basic

/-!
# Resources

A content tree is made of resources. Each has a path, the last name of which is its own, a table of
properties and children in order; two children may have the same name, and then the first one is
found. A resource that does not exist stands for a path with nothing behind it, and one without a
table cannot be looked into: neither has properties.
-/

namespace ContentFilter

/-- A resource and everything below it. -/
structure Resource where
  /-- Its path. -/
  path : String
  /-- Its properties, if it can be looked into. -/
  properties : Option (NameTable Value)
  /-- Whether there is anything behind the path. -/
  existing : Bool
  /-- The resources right below it. -/
  children : List Resource

namespace Resource

/-- The resource with the given path and nothing in it. -/
def new (path : String) : Resource :=
  ⟨Path.normalize path, some .empty, true, []⟩

/-- The placeholder for a path with nothing behind it. -/
def missing (path : String) : Resource :=
  { new path with existing := false }

/-- The name of the resource. -/
def name (r : Resource) : String :=
  Path.lastName r.path

/-- Holds a property, in place of one of the same name. -/
def withProperty (r : Resource) (name : String) (value : Value) : Resource :=
  { r with properties := r.properties.map (·.insert name value) }

/-- Adds a child as the last one, built from the empty resource below `r` with the given name. -/
def withChild (r : Resource) (name : String) (build : Resource → Resource) : Resource :=
  { r with children := r.children ++ [build (new (Path.join r.path name))] }

/-- The same resource, no longer to be looked into. -/
def withoutTable (r : Resource) : Resource :=
  { r with properties := none }

/-! ## Looking up -/

/-- The first child with the given name. -/
def child? (r : Resource) (name : String) : Option Resource :=
  r.children.find? (·.name == name)

/-- The properties that can be seen. -/
def visibleProperties (r : Resource) : NameTable Value :=
  if r.existing then r.properties.getD .empty else .empty

/-- The resource that the segments of a path lead to. Empty segments and single dots stay where they
are; nothing leads upwards. -/
def descend? (r : Resource) : List (List Char) → Option Resource
  | [] => some r
  | segment :: rest =>
    if segment = [] ∨ segment = ['.'] then r.descend? rest
    else if segment = ['.', '.'] then none
    else (r.child? (String.ofList segment)).bind (·.descend? rest)

/-- The resource that a relative path leads to. -/
def resolve? (r : Resource) (path : List Char) : Option Resource :=
  r.descend? (Path.segments path)

/-- The property that a relative path leads to: its last segment is the name of the property, what
is before it leads to the resource. -/
def property (r : Resource) (path : String) : Value :=
  match Path.splitLast? path.toList with
  | none => (r.visibleProperties.find? path).getD .absent
  | some (front, key) =>
    match r.resolve? front with
    | none => .absent
    | some target => (target.visibleProperties.find? (String.ofList key)).getD .absent

/-- The resource that child names lead to. -/
def followNames? (r : Resource) : List (List Char) → Option Resource
  | [] => some r
  | segment :: rest => (r.child? (String.ofList segment)).bind (·.followNames? rest)

/-- The segments of a path that are names: neither empty nor a single dot. -/
def nameSegments (path : List Char) : List (List Char) :=
  (Path.segments path).filter fun s => s ≠ [] ∧ s ≠ ['.']

/-- The resource of this tree with the given path, or the one that a relative path leads to. Here
two dots are a name like any other. -/
def find? (r : Resource) (path : String) : Option Resource :=
  if path.toList.head? = some '/' then
    let path := Path.normalize path
    if path = r.path then some r
    else (Path.below? r.path path).bind fun rest => r.followNames? (nameSegments rest)
  else r.followNames? (nameSegments path.toList)

/-! ## Names and paths -/

@[simp] theorem name_withProperty (r : Resource) (name : String) (value : Value) :
    (r.withProperty name value).name = r.name := rfl

@[simp] theorem descend?_nil (r : Resource) : r.descend? [] = some r := rfl

/-- Going down two lists of segments is going down the one and then the other. -/
theorem descend?_append (r : Resource) (a b : List (List Char)) :
    r.descend? (a ++ b) = (r.descend? a).bind (·.descend? b) := by
  induction a generalizing r with
  | nil => rfl
  | cons segment rest ih =>
    simp only [List.cons_append, descend?]
    split
    · exact ih r
    · split
      · rfl
      · cases r.child? (String.ofList segment) with
        | none => rfl
        | some c => exact ih c

/-- A path is followed in two steps at any of its slashes. -/
theorem resolve?_append_slash (r : Resource) (a b : List Char) :
    r.resolve? (a ++ '/' :: b) = (r.resolve? a).bind (·.resolve? b) := by
  simp [resolve?, Path.segments_append_slash, descend?_append]

end Resource

end ContentFilter
