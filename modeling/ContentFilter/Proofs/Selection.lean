import Mathlib
import ContentFilter.Filter.Selection
import ContentFilter.Proofs.Traversal

/-!
# A selection depends on how its settings end

The settings of a selection can be made in any order and as often as one likes. Of the filters for
one purpose, and of the values for one name, the last counts. What a setting does to this account
of all those before it is said once (`Configured.set`); the account of a whole sequence follows by
induction.

The filters are compiled when the resources are asked for. So a filter sees also the values that
were bound after it was set, and `Selection.settled_by_last_settings` needs to know of a sequence
only how it ends.
-/

namespace ContentFilter

/-- The test of a filter that is compiled with `c`. A filter that is not there accepts
    everything. -/
def Context.accepts (c : Context) (filter : Option Expr) (now : Instant) (r : Resource) : Bool :=
  filter.all fun e => c.compile e ⟨r, now⟩

/-- Of several values for a name the last one is bound; other names keep what they had. -/
theorem Context.find?_withArguments (c : Context) (pairs : List (String × Value)) (name : String) :
    (c.withArguments pairs).arguments.find? name =
      (pairs.reverse.lookup name).or (c.arguments.find? name) := by
  induction pairs generalizing c with
  | nil => rfl
  | cons p rest ih =>
    have hhead : (c.withArgument p.1 p.2).arguments.find? name =
        ([p].lookup name).or (c.arguments.find? name) := by
      show (c.arguments.insert p.1 p.2).find? name = _
      rw [NameTable.find?_insert, List.lookup_cons, List.lookup_nil]
      by_cases h : name = p.1
      · rw [if_pos h, beq_iff_eq.mpr h, Option.some_or]
      · rw [if_neg h, beq_false_of_ne h, Option.none_or]
    have htail := ih (c.withArgument p.1 p.2)
    rw [hhead] at htail
    rw [List.reverse_cons, List.lookup_append, Option.or_assoc]
    exact htail

theorem Context.registry_withArguments (c : Context) (pairs : List (String × Value)) :
    (c.withArguments pairs).registry = c.registry := by
  induction pairs generalizing c with
  | nil => rfl
  | cons p rest ih => exact ih (c.withArgument p.1 p.2)

namespace Selection

/-! ## Settings -/

/-- One setting of a selection. -/
inductive Setting where
  /-- The filter for the branches. -/
  | branch (filter : String)
  /-- The filter for the resources. -/
  | result (filter : String)
  /-- The value of an argument. -/
  | argument (name : String) (value : Value)
  /-- The values of several arguments. -/
  | arguments (pairs : List (String × Value))

namespace Setting

/-- The filter for the branches that is set. -/
def branch? : Setting → Option String
  | branch filter => some filter
  | _ => none

/-- The filter for the resources that is set. -/
def result? : Setting → Option String
  | result filter => some filter
  | _ => none

/-- The values that are bound, in order. -/
def bindings : Setting → List (String × Value)
  | argument name value => [(name, value)]
  | arguments pairs => pairs
  | _ => []

end Setting

/-- Makes a setting. -/
def set (s : Selection) : Setting → Except ParseError Selection
  | .branch filter => s.withBranch filter
  | .result filter => s.withResult filter
  | .argument name value => .ok (s.withArgument name value)
  | .arguments pairs => .ok (s.withArguments pairs)

/-- Makes settings one after the other. -/
def setAll (s : Selection) : List Setting → Except ParseError Selection
  | [] => .ok s
  | a :: rest => (s.set a).bind fun t => t.setAll rest

/-- The filter for the branches that is set last. -/
def lastBranch (settings : List Setting) : Option String :=
  (settings.filterMap Setting.branch?).getLast?

/-- The filter for the resources that is set last. -/
def lastResult (settings : List Setting) : Option String :=
  (settings.filterMap Setting.result?).getLast?

/-- The value that is bound last to a name. -/
def lastValue (settings : List Setting) (name : String) : Option Value :=
  (settings.flatMap Setting.bindings).reverse.lookup name

theorem lastBranch_concat (settings : List Setting) (a : Setting) :
    lastBranch (settings ++ [a]) = a.branch?.or (lastBranch settings) := by
  rw [lastBranch, List.filterMap_append, List.getLast?_append, lastBranch]
  cases h : a.branch? <;> simp [h]

theorem lastResult_concat (settings : List Setting) (a : Setting) :
    lastResult (settings ++ [a]) = a.result?.or (lastResult settings) := by
  rw [lastResult, List.filterMap_append, List.getLast?_append, lastResult]
  cases h : a.result? <;> simp [h]

theorem lastValue_concat (settings : List Setting) (a : Setting) (name : String) :
    lastValue (settings ++ [a]) name =
      (a.bindings.reverse.lookup name).or (lastValue settings name) := by
  rw [lastValue, List.flatMap_append, List.flatMap_singleton, List.reverse_append,
    List.lookup_append, lastValue]

/-! ## What settings come to -/

/-- `filter` is what the text, if there is one, is read as. -/
def Reads (text : Option String) (filter : Option Expr) : Prop :=
  Option.Rel (fun s e => Expr.parse s = .ok e) text filter

theorem Reads.eq {text text' : Option String} {filter filter' : Option Expr}
    (h : Reads text filter) (h' : Reads text' filter')
    (heq : text.map Expr.parse = text'.map Expr.parse) : filter = filter' := by
  cases h with
  | none =>
    cases h' with
    | none => rfl
    | some _ => cases heq
  | some h =>
    cases h' with
    | none => cases heq
    | some h' =>
      have hparse := Option.some.inj heq
      rw [h, h'] at hparse
      rw [Except.ok.inj hparse]

/-- What `s` is, if it began with `root` and `context` and the settings were made since. -/
structure Configured (root : Resource) (context : Context) (settings : List Setting)
    (s : Selection) : Prop where
  /-- The tree is the one it began with. -/
  root : s.root = root
  /-- The functions are those it began with. -/
  registry : s.context.registry = context.registry
  /-- A name has the value bound last, or else the one it began with. -/
  argument : ∀ name, s.context.arguments.find? name =
    (lastValue settings name).or (context.arguments.find? name)
  /-- The filter for the branches is the one set last. -/
  branch : Reads (lastBranch settings) s.branch
  /-- The filter for the resources is the one set last. -/
  result : Reads (lastResult settings) s.result

variable {root : Resource} {context : Context} {settings past : List Setting} {s t : Selection}

theorem configured_new (root : Resource) (context : Context) :
    Configured root context [] (new root context) where
  root := rfl
  registry := rfl
  argument _ := rfl
  branch := .none
  result := .none

theorem exists_of_map_eq_ok {α β : Type} {x : Except ParseError α} {f : α → β} {b : β}
    (h : x.map f = .ok b) : ∃ a, x = .ok a ∧ f a = b := by
  cases x with
  | error e => cases h
  | ok a => exact ⟨a, rfl, Except.ok.inj h⟩

/-- A setting takes the place of those that it repeats and leaves the others. -/
theorem Configured.set (h : Configured root context past s) {a : Setting} (hset : s.set a = .ok t) :
    Configured root context (past ++ [a]) t := by
  cases a with
  | branch filter =>
    obtain ⟨e, hparse, rfl⟩ := exists_of_map_eq_ok hset
    refine ⟨h.root, h.registry, fun name => ?_, ?_, ?_⟩
    · rw [lastValue_concat]
      exact h.argument name
    · rw [lastBranch_concat]
      exact .some hparse
    · rw [lastResult_concat]
      exact h.result
  | result filter =>
    obtain ⟨e, hparse, rfl⟩ := exists_of_map_eq_ok hset
    refine ⟨h.root, h.registry, fun name => ?_, ?_, ?_⟩
    · rw [lastValue_concat]
      exact h.argument name
    · rw [lastBranch_concat]
      exact h.branch
    · rw [lastResult_concat]
      exact .some hparse
  | argument name value =>
    obtain rfl := Except.ok.inj hset
    refine ⟨h.root, h.registry, fun other => ?_, ?_, ?_⟩
    · have hfind := s.context.find?_withArguments [(name, value)] other
      rw [lastValue_concat, Option.or_assoc, ← h.argument]
      exact hfind
    · rw [lastBranch_concat]
      exact h.branch
    · rw [lastResult_concat]
      exact h.result
  | arguments pairs =>
    obtain rfl := Except.ok.inj hset
    refine ⟨h.root, ?_, fun other => ?_, ?_, ?_⟩
    · rw [← h.registry]
      exact s.context.registry_withArguments pairs
    · have hfind := s.context.find?_withArguments pairs other
      rw [lastValue_concat, Option.or_assoc, ← h.argument]
      exact hfind
    · rw [lastBranch_concat]
      exact h.branch
    · rw [lastResult_concat]
      exact h.result

theorem Configured.setAll (h : Configured root context past s)
    (hset : s.setAll settings = .ok t) : Configured root context (past ++ settings) t := by
  induction settings generalizing past s with
  | nil =>
    obtain rfl := Except.ok.inj hset
    rwa [List.append_nil]
  | cons a rest ih =>
    rw [Selection.setAll] at hset
    cases hfirst : s.set a with
    | error e =>
      rw [hfirst] at hset
      cases hset
    | ok u =>
      rw [hfirst] at hset
      have hrest := ih (h.set hfirst) hset
      rwa [List.append_assoc] at hrest

theorem configured_of_setAll (h : (new root context).setAll settings = .ok s) :
    Configured root context settings s :=
  (configured_new root context).setAll h

/-! ## What is selected -/

theorem test_eq_accepts (s : Selection) (filter : Option Expr) (now : Instant) :
    s.test filter now = s.context.accepts filter now := by
  funext r
  cases filter <;> rfl

/-- The selected resources are those of the preorder of the accepted branches that the filter for
    resources accepts. -/
theorem resources_eq (s : Selection) (now : Instant) :
    s.resources now =
      (s.root.preorder (s.context.accepts s.branch now)).filter
        (s.context.accepts s.result now) := by
  rw [resources, test_eq_accepts, test_eq_accepts, Traversal.toList_eq_outstanding,
    Traversal.outstanding_start]

/-- An address has its place in the selection exactly if it is reached through accepted branches
    and the filter for resources accepts what is there. -/
theorem inTreeOrder_resources (s : Selection) (now : Instant) :
    Resource.InTreeOrder
      (fun address x => s.root.Reaches (s.context.accepts s.branch now) address x ∧
        s.context.accepts s.result now x = true)
      (s.resources now) := by
  rw [resources_eq]
  have hbranches := Resource.inTreeOrder_preorder (s.context.accepts s.branch now) s.root
  exact hbranches.filter _ fun _ _ _ => Resource.Reaches.unique

theorem children_eq (s : Selection) (now : Instant) :
    s.children now = s.root.children.filter (s.context.accepts s.result now) := by
  rw [children, test_eq_accepts]

/-- Selections that are configured to the same end are the same. -/
theorem Configured.unique {context' : Context} {settings' : List Setting}
    (h : Configured root context settings s) (h' : Configured root context' settings' t)
    (hregistry : context.registry = context'.registry)
    (hargument : ∀ name, (lastValue settings name).or (context.arguments.find? name) =
      (lastValue settings' name).or (context'.arguments.find? name))
    (hbranch : (lastBranch settings).map Expr.parse = (lastBranch settings').map Expr.parse)
    (hresult : (lastResult settings).map Expr.parse = (lastResult settings').map Expr.parse) :
    s = t := by
  have hroot : s.root = t.root := h.root.trans h'.root.symm
  have hfunctions : s.context.registry = t.context.registry := by
    rw [h.registry, hregistry, h'.registry]
  have hvalues : s.context.arguments = t.context.arguments := by
    refine NameTable.ext_find? fun name => ?_
    rw [h.argument, hargument, h'.argument]
  have hbranches := h.branch.eq h'.branch hbranch
  have hresults := h.result.eq h'.result hresult
  obtain ⟨_, ⟨_, _⟩, _, _⟩ := s
  obtain ⟨_, ⟨_, _⟩, _, _⟩ := t
  simp only at hroot hfunctions hvalues hbranches hresults
  rw [hroot, hfunctions, hvalues, hbranches, hresults]

/-- Only the end of the settings counts. Both filters are compiled with the arguments bound last,
    no matter whether before or after the filter was set. The selected resources are, in the order
    of the tree, the root and what is reached through branches that the last filter for branches
    accepts, as far as the last filter for resources accepts it; what is below a resource that only
    the latter rejects is there. The selected children are those that the last filter for resources
    accepts. So settings that end alike select alike. -/
theorem settled_by_last_settings :
    (∀ (root : Resource) (context : Context) (settings : List Setting) (s : Selection),
      (new root context).setAll settings = .ok s →
      ∃ (final : Context) (branch result : Option Expr),
        final.registry = context.registry ∧
        (∀ name, final.arguments.find? name =
          (lastValue settings name).or (context.arguments.find? name)) ∧
        Reads (lastBranch settings) branch ∧ Reads (lastResult settings) result ∧
        ∀ now,
          s.resources now =
            (root.preorder (final.accepts branch now)).filter (final.accepts result now) ∧
          Resource.InTreeOrder
            (fun address x => root.Reaches (final.accepts branch now) address x ∧
              final.accepts result now x = true)
            (s.resources now) ∧
          s.children now = root.children.filter (final.accepts result now)) ∧
    ∀ (root : Resource) (context context' : Context) (settings settings' : List Setting)
      (s t : Selection),
      (new root context).setAll settings = .ok s →
      (new root context').setAll settings' = .ok t →
      context.registry = context'.registry →
      (∀ name, (lastValue settings name).or (context.arguments.find? name) =
        (lastValue settings' name).or (context'.arguments.find? name)) →
      (lastBranch settings).map Expr.parse = (lastBranch settings').map Expr.parse →
      (lastResult settings).map Expr.parse = (lastResult settings').map Expr.parse →
      ∀ now, s.resources now = t.resources now ∧ s.children now = t.children now := by
  constructor
  · intro root context settings s hset
    have h := configured_of_setAll hset
    refine ⟨s.context, s.branch, s.result, h.registry, h.argument, h.branch, h.result, ?_⟩
    intro now
    rw [← h.root]
    exact ⟨s.resources_eq now, s.inTreeOrder_resources now, s.children_eq now⟩
  · intro root context context' settings settings' s t hs ht hregistry hargument hbranch hresult now
    have heq : s = t := (configured_of_setAll hs).unique (configured_of_setAll ht) hregistry
      hargument hbranch hresult
    rw [heq]
    exact ⟨rfl, rfl⟩

/-- A page `a` with a page `b` below it, and an image `c` with a page `d` below it. -/
def pages : Resource :=
  let kind (value : String) (r : Resource) : Resource := r.withProperty "kind" (.text value)
  ((Resource.new "/r").withChild "a" fun a =>
    (kind "page" a).withChild "b" (kind "page")).withChild "c" fun c =>
      (kind "image" c).withChild "d" (kind "page")

/-- The argument of the filter for resources is bound after the filter is set, and bound again; the
    filter for branches is replaced. -/
def pageSettings : List Setting :=
  [.result "[kind] = $kind", .branch "name() = 'b'", .argument "kind" (.text "image"),
    .branch "name() != 'b'", .arguments [("kind", .null), ("kind", .text "page")]]

/-- What the settings come to. -/
def pageSelection : Selection :=
  ⟨pages, Context.standard.withArgument "kind" (.text "page"),
    some (.compare .notEqual (.call "name" []) (.text "b")),
    some (.compare .equal (.property "kind") (.argument "kind"))⟩

/-- The same end, reached at once from a context in which the argument is bound already. -/
theorem settled_by_last_settings_pages :
    ∃ s t,
      (new pages .standard).setAll pageSettings = .ok s ∧
      (new pages (Context.standard.withArgument "kind" (.text "page"))).setAll
          [.branch "name() != 'b'", .result "[kind] = $kind"] = .ok t ∧
      (∃ (final : Context) (branch result : Option Expr),
        Reads (some "name() != 'b'") branch ∧ Reads (some "[kind] = $kind") result ∧
        ∀ now, s.resources now =
          (pages.preorder (final.accepts branch now)).filter (final.accepts result now)) ∧
      (∀ now, s.resources now = t.resources now ∧ s.children now = t.children now) ∧
      (s.resources ⟨0, 0⟩).map (·.path) = ["/r/a", "/r/c/d"] ∧
      (s.children ⟨0, 0⟩).map (·.path) = ["/r/a"] := by
  have hs : (new pages .standard).setAll pageSettings = .ok pageSelection := by cbv
  have ht : (new pages (Context.standard.withArgument "kind" (.text "page"))).setAll
      [.branch "name() != 'b'", .result "[kind] = $kind"] = .ok pageSelection := by cbv
  have hargument : ∀ name,
      (lastValue pageSettings name).or (Context.standard.arguments.find? name) =
        (lastValue [.branch "name() != 'b'", .result "[kind] = $kind"] name).or
          ((Context.standard.withArgument "kind" (.text "page")).arguments.find? name) := by
    intro name
    show (List.lookup name [("kind", .text "page"), ("kind", .null), ("kind", .text "image")]).or
      none = (NameTable.empty.insert "kind" (Value.text "page")).find? name
    rw [NameTable.find?_insert, NameTable.find?_empty, Option.or_none]
    by_cases h : name = "kind"
    · simp [h]
    · simp [List.lookup_cons, beq_false_of_ne h, h]
  refine ⟨pageSelection, pageSelection, hs, ht, ?_, ?_, ?_, ?_⟩
  · obtain ⟨final, branch, result, -, -, hbranch, hresult, h⟩ :=
      settled_by_last_settings.1 pages .standard pageSettings pageSelection hs
    exact ⟨final, branch, result, hbranch, hresult, fun now => (h now).1⟩
  · have hbranch : lastBranch pageSettings = some "name() != 'b'" := rfl
    have hresult : lastResult pageSettings = some "[kind] = $kind" := rfl
    exact settled_by_last_settings.2 pages _ _ _ _ pageSelection pageSelection hs ht rfl hargument
      (by rw [hbranch]; rfl) (by rw [hresult]; rfl)
  · rw [resources_eq]
    decide +kernel
  · decide +kernel

end Selection

end ContentFilter
