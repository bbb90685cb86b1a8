import ContentFilter.Filter.Session

/-!
# Workspaces

A session at work: what is done with its contexts step by step. A step can find a function, which
is kept to be registered again, under another name or through another context, and it can compile a
filter, which is kept to be tested later.
-/

namespace ContentFilter

/-- Where a function to be registered comes from. -/
inductive Source where
  /-- It is given. -/
  | given (f : Function)
  /-- It was found before and kept under a key. -/
  | kept (key : String)

/-- What can be done in a workspace. -/
inductive Step where
  /-- Makes a context with a registry of its own. -/
  | create (id : String) (registry : Registry)
  /-- Makes a context like another one. -/
  | clone (id origin : String)
  /-- Makes a context with the registry of another one. -/
  | share (id origin : String)
  /-- Registers a function through a context. -/
  | register (id name : String) (source : Source)
  /-- Removes a function through a context; what was there may be kept. -/
  | remove (id name : String) (key : Option String)
  /-- Keeps the function that a context finds under a name. -/
  | lookUp (id name key : String)
  /-- Binds an argument in a context. -/
  | setArgument (id name : String) (value : Value)
  /-- Compiles a filter with a context and keeps it under a label. -/
  | compile (id label : String) (filter : Expr)

/-- What was done, the last step first. -/
abbrev History := List Step

/-- A session and what was taken from it. -/
structure Workspace where
  /-- The contexts and their registries. -/
  session : Session
  /-- The functions that were found and kept. -/
  kept : NameTable Function
  /-- The filters that were compiled. -/
  filters : NameTable Predicate

namespace Workspace

/-- The workspace in which nothing was done yet. -/
def empty : Workspace := ⟨.empty, .empty, .empty⟩

/-- The function that a source gives. -/
def functionOf? (w : Workspace) : Source → Option Function
  | .given f => some f
  | .kept key => w.kept.find? key

/-- Keeps a function, if there is one. -/
def keep (w : Workspace) (key : String) (found : Option Function) : Workspace :=
  match found with
  | some f => { w with kept := w.kept.insert key f }
  | none => w

/-- Does a step. The function that the context found under the name before is the answer of a step
that registers, removes or looks up. -/
def perform (w : Workspace) : Step → Option Function × Workspace
  | .create id registry => (none, { w with session := w.session.create id registry })
  | .clone id origin => (none, { w with session := w.session.clone id origin })
  | .share id origin => (none, { w with session := w.session.share id origin })
  | .register id name source =>
    match w.functionOf? source with
    | some f => (w.session.function? id name, { w with session := w.session.register id name f })
    | none => (none, w)
  | .remove id name key =>
    let found := w.session.function? id name
    let u : Workspace := { w with session := w.session.remove id name }
    (found, (key.map (u.keep · found)).getD u)
  | .lookUp id name key =>
    let found := w.session.function? id name
    (found, w.keep key found)
  | .setArgument id name value =>
    (none, { w with session := w.session.setArgument id name value })
  | .compile id label filter =>
    match w.session.context? id with
    | some c => (none, { w with filters := w.filters.insert label (c.compile filter) })
    | none => (none, w)

/-- The workspace after a history. -/
def after : History → Workspace
  | [] => empty
  | step :: past => ((after past).perform step).2

end Workspace

end ContentFilter
