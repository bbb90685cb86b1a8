import ContentFilter.Filter.Meaning
import ContentFilter.Filter.Workspace

/-!
# What a history comes to

What the names stand for after a history, read off the history itself: of the steps that concern a
name the last one counts. No tables are kept for this. Registries are told apart by how many were
made before them.
-/

namespace ContentFilter

namespace History

/-- How many registries were made. -/
def created : History → Nat
  | [] => 0
  | .create _ _ :: past => created past + 1
  | _ :: past => created past

/-- The registry of a context. -/
def registryOf? : History → String → Option Nat
  | [], _ => none
  | .create id _ :: past, other =>
    if other = id then some (created past) else registryOf? past other
  | .clone id origin :: past, other | .share id origin :: past, other =>
    if other = id then (registryOf? past origin).or (registryOf? past other)
    else registryOf? past other
  | _ :: past, other => registryOf? past other

/-- The argument that a context has under a name: what was bound there last. A clone has those of
its origin, as they were when it was made. -/
def argumentOf? : History → String → String → Option Value
  | [], _, _ => none
  | .create id _ :: past, other, name => if other = id then none else argumentOf? past other name
  | .clone id origin :: past, other, name =>
    if other = id ∧ registryOf? past origin ≠ none then argumentOf? past origin name
    else argumentOf? past other name
  | .share id origin :: past, other, name =>
    if other = id ∧ registryOf? past origin ≠ none then none else argumentOf? past other name
  | .setArgument id key value :: past, other, name =>
    if other = id ∧ name = key then some value else argumentOf? past other name
  | _ :: past, other, name => argumentOf? past other name

mutual

/-- The function that a registry has under a name: what was registered there last, through any of
its contexts, unless it was removed since. -/
def functionOf? : History → Nat → String → Option Function
  | [], _, _ => none
  | .create _ registry :: past, place, name =>
    if place = created past then registry.find? name else functionOf? past place name
  | .register id key (.given f) :: past, place, name =>
    if registryOf? past id = some place ∧ name = key then some f else functionOf? past place name
  | .register id key (.kept label) :: past, place, name =>
    if registryOf? past id = some place ∧ name = key then
      (keptOf? past label).or (functionOf? past place name)
    else functionOf? past place name
  | .remove id key _ :: past, place, name =>
    if registryOf? past id = some place ∧ name = key then none else functionOf? past place name
  | _ :: past, place, name => functionOf? past place name

/-- The function that is kept under a key: what was found last when it was to be kept there. -/
def keptOf? : History → String → Option Function
  | [], _ => none
  | .remove id name (some label) :: past, key | .lookUp id name label :: past, key =>
    if key = label then
      ((registryOf? past id).bind fun place => functionOf? past place name).or (keptOf? past key)
    else keptOf? past key
  | _ :: past, key => keptOf? past key

end

/-- The function that a context has under a name. -/
def functionFor? (past : History) (id name : String) : Option Function :=
  (past.registryOf? id).bind fun place => past.functionOf? place name

/-- The function that a source gives. -/
def sourceOf? (past : History) : Source → Option Function
  | .given f => some f
  | .kept key => past.keptOf? key

/-- What the names stand for in a context. -/
def environment (past : History) (id : String) : Environment where
  functions name := (past.functionFor? id name).map Function.denotation
  arguments name := past.argumentOf? id name

end History

end ContentFilter
