import ContentFilter.Resource.Basic
import ContentFilter.Value.OfJson

/-!
# Content trees of JSON

An object is a resource: its members that are objects are the children, in order, and all others are
properties. Whatever is no object is a resource with nothing in it.
-/

namespace ContentFilter.Resource

/-- Holds the members that are no objects as properties, one after the other. -/
def propertiesOf (members : List (String × Json)) : NameTable Value :=
  .ofList <| members.filterMap fun m =>
    match m.2 with
    | .object _ => none
    | j => some (m.1, Value.ofStored j)

mutual

/-- The content tree of a JSON value, its root at `path`. -/
def ofJson (path : String) : Json → Resource
  | .object members =>
    let root := new path
    { root with
      properties := some (propertiesOf members)
      children := childrenOf root.path members }
  | _ => new path

/-- The trees of the members that are objects, below `parent`. -/
def childrenOf (parent : String) : List (String × Json) → List Resource
  | [] => []
  | m :: members => childOf parent m ++ childrenOf parent members

/-- The tree of a member that is an object, and nothing for any other one. -/
def childOf (parent : String) : String × Json → List Resource
  | (name, .object members) => [ofJson (Path.join parent name) (.object members)]
  | (_, _) => []

end

end ContentFilter.Resource
