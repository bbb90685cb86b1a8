import ContentFilter.Filter.Compile

/-!
# Sessions

A session holds contexts by name. A registry belongs to all contexts that were made to share it:
what is registered or removed through one of them is so for the others. The arguments of a context
are its own. What was compiled before a change is not touched by it, for a compiled filter holds its
functions and values itself.
-/

namespace ContentFilter

/-- A context of a session. -/
structure SharedContext where
  /-- Which of the registries of the session is its own. -/
  registry : Nat
  /-- The values of its arguments. -/
  arguments : NameTable Value

/-- Contexts and the registries that they share. -/
structure Session where
  /-- The registries, in the order in which they were made. -/
  registries : List Registry
  /-- The contexts by name. -/
  contexts : NameTable SharedContext

namespace Session

/-- The session that holds nothing. -/
def empty : Session := ⟨[], .empty⟩

/-- The registry with the given place; beyond the last one there are empty ones. -/
def registryAt (s : Session) (place : Nat) : Registry :=
  s.registries[place]?.getD .empty

/-- The context with the given name as filters are compiled with it. -/
def context? (s : Session) (id : String) : Option Context :=
  (s.contexts.find? id).map fun c => ⟨s.registryAt c.registry, c.arguments⟩

/-- Makes a context with a registry of its own and no arguments. -/
def create (s : Session) (id : String) (registry : Registry) : Session :=
  { registries := s.registries ++ [registry]
    contexts := s.contexts.insert id ⟨s.registries.length, .empty⟩ }

/-- Makes a context that shares the registry of another one and begins with its arguments. -/
def clone (s : Session) (id origin : String) : Session :=
  match s.contexts.find? origin with
  | some c => { s with contexts := s.contexts.insert id c }
  | none => s

/-- Makes a context that shares the registry of another one and has no arguments. -/
def share (s : Session) (id origin : String) : Session :=
  match s.contexts.find? origin with
  | some c => { s with contexts := s.contexts.insert id { c with arguments := .empty } }
  | none => s

/-- Changes the registry of a context. -/
def changeRegistry (s : Session) (id : String) (change : Registry → Registry) : Session :=
  match s.contexts.find? id with
  | some c => { s with registries := s.registries.modify c.registry change }
  | none => s

/-- Registers a function through a context. -/
def register (s : Session) (id name : String) (f : Function) : Session :=
  s.changeRegistry id (·.insert name f)

/-- Removes a function through a context. -/
def remove (s : Session) (id name : String) : Session :=
  s.changeRegistry id (·.erase name)

/-- Binds an argument in a context. -/
def setArgument (s : Session) (id name : String) (value : Value) : Session :=
  match s.contexts.find? id with
  | some c =>
    let changed := { c with arguments := c.arguments.insert name value }
    { s with contexts := s.contexts.insert id changed }
  | none => s

/-- The function that a context finds under a name. -/
def function? (s : Session) (id name : String) : Option Function :=
  (s.context? id).bind (·.registry.find? name)

/-- The names under which a context finds functions, in order. -/
def functionNames (s : Session) (id : String) : List String :=
  ((s.context? id).map (·.registry.names)).getD []

/-- The arguments of a context. -/
def argumentsOf (s : Session) (id : String) : NameTable Value :=
  ((s.contexts.find? id).map (·.arguments)).getD .empty

end Session

end ContentFilter
