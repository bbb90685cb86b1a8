import ContentFilter.Filter.History
import ContentFilter.Proofs.Meaning

/-!
# Names are bound when a filter is compiled

A workspace keeps tables: registries that several contexts share, and arguments that each context
has for itself. A history is a list of steps and nothing else. `Reflects` says that the tables of a
workspace hold what the history comes to; every step keeps this (`Reflects.perform`), so it holds
after any history.

From this it follows what a compiled filter answers at any later time, whatever was registered,
removed or bound since: `History.bound_when_compiled`.
-/

namespace ContentFilter

/-! ## Sessions -/

namespace Session

variable (s : Session)

theorem registryAt_create (id : String) (registry : Registry) (place : Nat) :
    (s.create id registry).registryAt place =
      if place = s.registries.length then registry else s.registryAt place := by
  show (s.registries ++ [registry])[place]?.getD .empty = _
  unfold registryAt
  rcases Nat.lt_trichotomy place s.registries.length with hlt | heq | hgt
  · rw [if_neg (by omega), List.getElem?_append_left hlt]
  · rw [if_pos heq, heq, List.getElem?_append_right (Nat.le_refl _), Nat.sub_self]
    rfl
  · have hend : s.registries.length + [registry].length ≤ place := hgt
    rw [if_neg (by omega), List.getElem?_eq_none (by rwa [List.length_append]),
      List.getElem?_eq_none (by omega)]

@[simp] theorem contexts_changeRegistry (id : String) (change : Registry → Registry) :
    (s.changeRegistry id change).contexts = s.contexts := by
  unfold changeRegistry
  split <;> rfl

@[simp] theorem length_changeRegistry (id : String) (change : Registry → Registry) :
    (s.changeRegistry id change).registries.length = s.registries.length := by
  unfold changeRegistry
  split
  · exact List.length_modify _ _ _
  · rfl

/-- The registry of the context is changed, whichever contexts share it, and no other. -/
theorem registryAt_changeRegistry {s : Session} {id : String} {place : Nat}
    (change : Registry → Registry)
    (hbound : ∀ c, s.contexts.find? id = some c → c.registry < s.registries.length) :
    (s.changeRegistry id change).registryAt place =
      if (s.contexts.find? id).map (·.registry) = some place then change (s.registryAt place)
      else s.registryAt place := by
  unfold changeRegistry
  cases hfind : s.contexts.find? id with
  | none => rfl
  | some c =>
    have hlt := hbound c hfind
    show (s.registries.modify c.registry change)[place]?.getD .empty = _
    unfold registryAt
    rw [List.getElem?_modify, Option.map_some]
    by_cases h : c.registry = place
    · subst h
      rw [if_pos rfl, List.getElem?_eq_getElem hlt]
      simp
    · have hne : some c.registry ≠ some place := fun heq => h (Option.some.inj heq)
      rw [if_neg hne]
      simp [h]

/-- The names of a registry are in order, and none is repeated. -/
theorem pairwise_functionNames (id : String) : (s.functionNames id).Pairwise (· < ·) := by
  unfold functionNames
  cases s.context? id with
  | none => exact .nil
  | some c => exact c.registry.pairwise_names

theorem mem_functionNames_iff (id name : String) :
    name ∈ s.functionNames id ↔ s.function? id name ≠ none := by
  unfold functionNames function?
  cases s.context? id with
  | none => simp
  | some c =>
    show name ∈ c.registry.names ↔ c.registry.find? name ≠ none
    rw [NameTable.mem_names_iff, NameTable.contains, Option.isSome_iff_ne_none]

end Session

/-! ## Tables that hold what a history comes to -/

/-- The tables of `w` hold what `past` comes to. -/
structure Reflects (past : History) (w : Workspace) : Prop where
  /-- There are as many registries as were made. -/
  length : w.session.registries.length = past.created
  /-- Each context has its registry. -/
  registry : ∀ id, (w.session.contexts.find? id).map (·.registry) = past.registryOf? id
  /-- Registries of contexts were made before. -/
  bound : ∀ id place, past.registryOf? id = some place → place < past.created
  /-- Each registry has its functions. -/
  function : ∀ place name, (w.session.registryAt place).find? name = past.functionOf? place name
  /-- Each context has its arguments. -/
  argument : ∀ id c, w.session.contexts.find? id = some c →
    ∀ name, c.arguments.find? name = past.argumentOf? id name
  /-- What was found is kept. -/
  kept : ∀ key, w.kept.find? key = past.keptOf? key

namespace Reflects

variable {past : History} {w : Workspace}

theorem empty : Reflects [] .empty where
  length := rfl
  registry _ := rfl
  bound _ _ h := by cases h
  function _ _ := rfl
  argument _ _ h := by cases h
  kept _ := rfl

theorem registry_eq (h : Reflects past w) {id : String} {c : SharedContext}
    (hfind : w.session.contexts.find? id = some c) : past.registryOf? id = some c.registry := by
  rw [← h.registry, hfind]
  rfl

theorem find?_eq_none_iff (h : Reflects past w) (id : String) :
    w.session.contexts.find? id = none ↔ past.registryOf? id = none := by
  rw [← h.registry, Option.map_eq_none_iff]

theorem lt_length (h : Reflects past w) (id : String) (c : SharedContext)
    (hfind : w.session.contexts.find? id = some c) :
    c.registry < w.session.registries.length := by
  rw [h.length]
  exact h.bound id _ (h.registry_eq hfind)

/-- A context finds the functions that the history comes to. -/
theorem function?_eq (h : Reflects past w) (id name : String) :
    w.session.function? id name = past.functionFor? id name := by
  unfold Session.function? Session.context? History.functionFor?
  rw [← h.registry]
  cases w.session.contexts.find? id with
  | none => rfl
  | some c => exact h.function c.registry name

theorem functionOf?_eq (h : Reflects past w) (source : Source) :
    w.functionOf? source = past.sourceOf? source := by
  cases source with
  | given f => rfl
  | kept key => exact h.kept key

theorem registryAt_changeRegistry (h : Reflects past w) (id : String)
    (change : Registry → Registry) (place : Nat) :
    (w.session.changeRegistry id change).registryAt place =
      if past.registryOf? id = some place then change (w.session.registryAt place)
      else w.session.registryAt place := by
  rw [Session.registryAt_changeRegistry change (h.lt_length id), h.registry]

/-! ## Steps -/

theorem create (h : Reflects past w) (id : String) (registry : Registry) :
    Reflects (.create id registry :: past) (w.perform (.create id registry)).2 := by
  refine ⟨?_, ?_, ?_, ?_, ?_, h.kept⟩
  · show (w.session.registries ++ [registry]).length = past.created + 1
    rw [List.length_append, h.length]
    rfl
  · intro other
    show ((w.session.contexts.insert id _).find? other).map _ = _
    rw [NameTable.find?_insert, History.registryOf?]
    by_cases hid : other = id
    · rw [if_pos hid, if_pos hid, ← h.length]
      rfl
    · rw [if_neg hid, if_neg hid]
      exact h.registry other
  · intro other place
    show History.registryOf? _ _ = _ → place < past.created + 1
    rw [History.registryOf?]
    by_cases hid : other = id
    · rw [if_pos hid]
      intro hplace
      cases hplace
      omega
    · rw [if_neg hid]
      intro hplace
      have := h.bound other place hplace
      omega
  · intro place name
    show ((w.session.create id registry).registryAt place).find? name = _
    rw [Session.registryAt_create, h.length, History.functionOf?]
    by_cases hplace : place = past.created
    · rw [if_pos hplace, if_pos hplace]
    · rw [if_neg hplace, if_neg hplace]
      exact h.function place name
  · intro other c
    show (w.session.contexts.insert id _).find? other = _ → _
    rw [NameTable.find?_insert]
    intro hfind name
    rw [History.argumentOf?]
    by_cases hid : other = id
    · rw [if_pos hid] at hfind
      cases hfind
      rw [if_pos hid]
      rfl
    · rw [if_neg hid] at hfind
      rw [if_neg hid]
      exact h.argument other c hfind name

/-- A step that changes neither a table nor what the history comes to. -/
theorem congr (h : Reflects past w) {next : History} (hcreated : next.created = past.created)
    (hregistry : ∀ id, next.registryOf? id = past.registryOf? id)
    (hfunction : ∀ place name, next.functionOf? place name = past.functionOf? place name)
    (hargument : ∀ id name, past.registryOf? id ≠ none →
      next.argumentOf? id name = past.argumentOf? id name)
    (hkept : ∀ key, next.keptOf? key = past.keptOf? key) : Reflects next w where
  length := h.length.trans hcreated.symm
  registry id := (h.registry id).trans (hregistry id).symm
  bound id place hplace := by
    rw [hregistry] at hplace
    rw [hcreated]
    exact h.bound id place hplace
  function place name := (h.function place name).trans (hfunction place name).symm
  argument id c hfind name := by
    have hknown : past.registryOf? id ≠ none := by simp [h.registry_eq hfind]
    rw [hargument id name hknown]
    exact h.argument id c hfind name
  kept key := (h.kept key).trans (hkept key).symm

/-- A step that changes one function of the registry of a context, if there is the context. -/
theorem changeFunction (h : Reflects past w) {next : History} {id key : String}
    {change : Registry → Registry} {f : Option Function}
    (hchange : ∀ (r : Registry) name,
      (change r).find? name = if name = key then f else r.find? name)
    (hcreated : next.created = past.created)
    (hregistry : ∀ other, next.registryOf? other = past.registryOf? other)
    (hfunction : ∀ place name, next.functionOf? place name =
      if past.registryOf? id = some place ∧ name = key then f else past.functionOf? place name)
    (hargument : ∀ other name, next.argumentOf? other name = past.argumentOf? other name)
    (hkept : ∀ label, next.keptOf? label = past.keptOf? label) :
    Reflects next { w with session := w.session.changeRegistry id change } := by
  refine ⟨?_, ?_, ?_, ?_, ?_, ?_⟩
  · rw [hcreated, ← h.length]
    exact Session.length_changeRegistry _ _ _
  · intro other
    rw [hregistry, ← h.registry, Session.contexts_changeRegistry]
  · intro other place hplace
    rw [hregistry] at hplace
    rw [hcreated]
    exact h.bound other place hplace
  · intro place name
    rw [h.registryAt_changeRegistry, hfunction, ← h.function]
    by_cases hplace : past.registryOf? id = some place
    · rw [if_pos hplace, hchange]
      by_cases hname : name = key
      · rw [if_pos hname, if_pos ⟨hplace, hname⟩]
      · rw [if_neg hname, if_neg fun hboth => hname hboth.2]
    · rw [if_neg hplace, if_neg fun hboth => hplace hboth.1]
  · intro other c
    show (w.session.changeRegistry id change).contexts.find? other = _ → _
    rw [Session.contexts_changeRegistry]
    intro hfind name
    rw [hargument]
    exact h.argument other c hfind name
  · intro label
    exact (h.kept label).trans (hkept label).symm

/-- What was found is kept, if there was something. -/
theorem keep (h : Reflects past w) {next : History} {found : Option Function} {label : String}
    (hcreated : next.created = past.created)
    (hregistry : ∀ id, next.registryOf? id = past.registryOf? id)
    (hfunction : ∀ place name, next.functionOf? place name = past.functionOf? place name)
    (hargument : ∀ id name, next.argumentOf? id name = past.argumentOf? id name)
    (hkept : ∀ key, next.keptOf? key =
      if key = label then found.or (past.keptOf? key) else past.keptOf? key) :
    Reflects next (w.keep label found) := by
  cases found with
  | none =>
    refine h.congr hcreated hregistry hfunction (fun id name _ => hargument id name) fun key => ?_
    rw [hkept, Option.none_or, ite_self]
  | some f =>
    refine ⟨h.length.trans hcreated.symm, ?_, ?_, ?_, ?_, ?_⟩
    · intro id
      exact (h.registry id).trans (hregistry id).symm
    · intro id place hplace
      rw [hregistry] at hplace
      rw [hcreated]
      exact h.bound id place hplace
    · intro place name
      exact (h.function place name).trans (hfunction place name).symm
    · intro id c hfind name
      rw [hargument]
      exact h.argument id c hfind name
    · intro key
      show (w.kept.insert label f).find? key = _
      rw [NameTable.find?_insert, hkept, h.kept]
      rfl

/-- A step that makes a context of another one, if there is such a context. The two share a
    registry, and the arguments of the new one come from those of the other. -/
theorem derive (h : Reflects past w) {next : History} {id origin : String}
    (arguments : NameTable Value → NameTable Value) (hcreated : next.created = past.created)
    (hregistry : ∀ other, next.registryOf? other =
      if other = id then (past.registryOf? origin).or (past.registryOf? other)
      else past.registryOf? other)
    (hfunction : ∀ place name, next.functionOf? place name = past.functionOf? place name)
    (hargument : ∀ table : NameTable Value,
      (past.registryOf? origin ≠ none → ∀ name, table.find? name = past.argumentOf? origin name) →
      ∀ other name, next.registryOf? other ≠ none → next.argumentOf? other name =
        if other = id ∧ past.registryOf? origin ≠ none then (arguments table).find? name
        else past.argumentOf? other name)
    (hkept : ∀ key, next.keptOf? key = past.keptOf? key) :
    Reflects next { w with session :=
      match w.session.contexts.find? origin with
      | some c =>
        { w.session with contexts :=
          w.session.contexts.insert id { c with arguments := arguments c.arguments } }
      | none => w.session } := by
  cases hfind : w.session.contexts.find? origin with
  | none =>
    have hnone := (h.find?_eq_none_iff origin).mp hfind
    have hsame : ∀ other, next.registryOf? other = past.registryOf? other := by
      intro other
      rw [hregistry, hnone, Option.none_or, ite_self]
    -- There are no arguments to come from, so any table will do.
    refine h.congr hcreated hsame hfunction ?_ hkept
    intro other name hknown
    rw [hargument .empty (fun horigin => absurd hnone horigin) other name (hsame other ▸ hknown),
      if_neg fun hboth => hboth.2 hnone]
  | some c =>
    have hsome := h.registry_eq hfind
    have hnew : ∀ other, next.registryOf? other =
        if other = id then some c.registry else past.registryOf? other := by
      intro other
      rw [hregistry, hsome, Option.some_or]
    refine ⟨h.length.trans hcreated.symm, ?_, ?_, ?_, ?_, ?_⟩
    · intro other
      show ((w.session.contexts.insert id _).find? other).map _ = _
      rw [NameTable.find?_insert, hnew]
      by_cases hid : other = id
      · rw [if_pos hid, if_pos hid]
        rfl
      · rw [if_neg hid, if_neg hid]
        exact h.registry other
    · intro other place hplace
      rw [hnew] at hplace
      rw [hcreated]
      by_cases hid : other = id
      · rw [if_pos hid] at hplace
        cases hplace
        exact h.bound origin _ hsome
      · rw [if_neg hid] at hplace
        exact h.bound other place hplace
    · intro place name
      exact (h.function place name).trans (hfunction place name).symm
    · intro other found
      show (w.session.contexts.insert id _).find? other = _ → _
      rw [NameTable.find?_insert]
      intro hfound name
      have hargument := hargument c.arguments (fun _ => h.argument origin c hfind) other name
      rw [hnew] at hargument
      by_cases hid : other = id
      · rw [if_pos hid] at hfound hargument
        cases hfound
        rw [hargument nofun, if_pos ⟨hid, by simp [hsome]⟩]
      · rw [if_neg hid] at hfound hargument
        rw [hargument (by simp [h.registry_eq hfound]), if_neg fun hboth => hid hboth.1]
        exact h.argument other found hfound name
    · intro key
      exact (h.kept key).trans (hkept key).symm

theorem clone (h : Reflects past w) (id origin : String) :
    Reflects (.clone id origin :: past) (w.perform (.clone id origin)).2 := by
  refine h.derive (fun table => table) rfl (fun _ => rfl) (fun _ _ => rfl) ?_ fun _ => rfl
  intro table htable other name _
  rw [History.argumentOf?]
  by_cases hnew : other = id ∧ past.registryOf? origin ≠ none
  · rw [if_pos hnew, if_pos hnew, htable hnew.2]
  · rw [if_neg hnew, if_neg hnew]

theorem share (h : Reflects past w) (id origin : String) :
    Reflects (.share id origin :: past) (w.perform (.share id origin)).2 := by
  refine h.derive (fun _ => .empty) rfl (fun _ => rfl) (fun _ _ => rfl) ?_ fun _ => rfl
  intro table _ other name _
  rw [History.argumentOf?, NameTable.find?_empty]

theorem setArgument (h : Reflects past w) (id name : String) (value : Value) :
    Reflects (.setArgument id name value :: past) (w.perform (.setArgument id name value)).2 := by
  refine h.derive (·.insert name value) rfl ?_ (fun _ _ => rfl) ?_ fun _ => rfl
  · intro other
    by_cases hid : other = id
    · rw [if_pos hid, hid, Option.or_self]
      rfl
    · rw [if_neg hid]
      rfl
  · intro table htable other key hknown
    rw [History.argumentOf?]
    by_cases hid : other = id
    · have hcontext : past.registryOf? id ≠ none := hid ▸ hknown
      rw [NameTable.find?_insert, htable hcontext]
      by_cases hkey : key = name <;> simp [hid, hkey, hcontext]
    · rw [if_neg fun hboth => hid hboth.1, if_neg fun hboth => hid hboth.1]

theorem register (h : Reflects past w) (id name : String) (source : Source) :
    Reflects (.register id name source :: past) (w.perform (.register id name source)).2 := by
  have hfunction : ∀ place key,
      History.functionOf? (.register id name source :: past) place key =
        if past.registryOf? id = some place ∧ key = name then
          (past.sourceOf? source).or (past.functionOf? place key)
        else past.functionOf? place key := by
    intro place key
    cases source <;> rfl
  rw [Workspace.perform, h.functionOf?_eq]
  cases hsource : past.sourceOf? source with
  | none =>
    refine h.congr rfl (fun _ => rfl) ?_ (fun _ _ _ => rfl) fun _ => rfl
    intro place key
    rw [hfunction, hsource, Option.none_or, ite_self]
  | some f =>
    refine h.changeFunction (fun r key => r.find?_insert name key f) rfl (fun _ => rfl) ?_
      (fun _ _ => rfl) fun _ => rfl
    intro place key
    rw [hfunction, hsource, Option.some_or]

theorem remove (h : Reflects past w) (id name : String) (key : Option String) :
    Reflects (.remove id name key :: past) (w.perform (.remove id name key)).2 := by
  have hremoved : Reflects (.remove id name none :: past)
      { w with session := w.session.remove id name } :=
    h.changeFunction (fun r other => r.find?_erase name other) rfl (fun _ => rfl)
      (fun _ _ => rfl) (fun _ _ => rfl) fun _ => rfl
  cases key with
  | none => exact hremoved
  | some label =>
    refine hremoved.keep rfl (fun _ => rfl) (fun _ _ => rfl) (fun _ _ => rfl) fun other => ?_
    rw [h.function?_eq]
    rfl

theorem lookUp (h : Reflects past w) (id name key : String) :
    Reflects (.lookUp id name key :: past) (w.perform (.lookUp id name key)).2 := by
  refine h.keep rfl (fun _ => rfl) (fun _ _ => rfl) (fun _ _ => rfl) fun other => ?_
  rw [h.function?_eq]
  rfl

theorem compile (h : Reflects past w) (id label : String) (filter : Expr) :
    Reflects (.compile id label filter :: past) (w.perform (.compile id label filter)).2 := by
  have hsame : Reflects (.compile id label filter :: past) w :=
    h.congr rfl (fun _ => rfl) (fun _ _ => rfl) (fun _ _ _ => rfl) fun _ => rfl
  rw [Workspace.perform]
  cases w.session.context? id with
  | none => exact hsame
  | some c => exact ⟨hsame.length, hsame.registry, hsame.bound, hsame.function, hsame.argument,
      hsame.kept⟩

/-- Every step keeps the tables in accordance with the history. -/
theorem perform (h : Reflects past w) (step : Step) :
    Reflects (step :: past) (w.perform step).2 := by
  cases step with
  | create id registry => exact h.create id registry
  | clone id origin => exact h.clone id origin
  | share id origin => exact h.share id origin
  | register id name source => exact h.register id name source
  | remove id name key => exact h.remove id name key
  | lookUp id name key => exact h.lookUp id name key
  | setArgument id name value => exact h.setArgument id name value
  | compile id label filter => exact h.compile id label filter

theorem after (past : History) : Reflects past (Workspace.after past) := by
  induction past with
  | nil => exact Reflects.empty
  | cons step past ih => exact ih.perform step

end Reflects

/-! ## What a filter answers -/

namespace History

variable {past : History}

/-- A context has the functions and the arguments that the history comes to. -/
theorem exists_context (past : History) {id : String} (hid : past.registryOf? id ≠ none) :
    ∃ c : Context, (Workspace.after past).session.context? id = some c ∧
      (∀ name, c.registry.find? name = past.functionFor? id name) ∧
      ∀ name, c.arguments.find? name = past.argumentOf? id name := by
  have h := Reflects.after past
  cases hfind : (Workspace.after past).session.contexts.find? id with
  | none => exact absurd ((h.find?_eq_none_iff id).mp hfind) hid
  | some c =>
    refine ⟨⟨(Workspace.after past).session.registryAt c.registry, c.arguments⟩, ?_, ?_, ?_⟩
    · rw [Session.context?, hfind]
      rfl
    · intro name
      rw [functionFor?, h.registry_eq hfind]
      exact h.function c.registry name
    · exact h.argument id c hfind

/-- Functions that are pointwise are what the environment of a context says. -/
theorem environment_describesFor {id : String} {names : List String} {c : Context}
    (hfunctions : ∀ name, c.registry.find? name = past.functionFor? id name)
    (harguments : ∀ name, c.arguments.find? name = past.argumentOf? id name)
    (hpointwise : ∀ name ∈ names, name ≠ "name" → name ≠ "path" →
      ∀ f, past.functionFor? id name = some f → ∃ g, f.Pointwise g) :
    (past.environment id).DescribesFor names c := by
  refine ⟨fun name hname hn hp => ?_, fun name => (harguments name).symm⟩
  show Option.Rel _ _ ((past.functionFor? id name).map Function.denotation)
  rw [hfunctions]
  cases hf : past.functionFor? id name with
  | none => exact .none
  | some f =>
    obtain ⟨g, hg⟩ := hpointwise name hname hn hp f hf
    exact .some hg.denotation

theorem filters_keep (w : Workspace) (label : String) (found : Option Function) :
    (w.keep label found).filters = w.filters := by
  cases found <;> rfl

/-- A filter stays as it is until another one is compiled in its place. -/
theorem find?_filters_perform (w : Workspace) {step : Step} {label : String}
    (h : ∀ id filter, step ≠ .compile id label filter) :
    (w.perform step).2.filters.find? label = w.filters.find? label := by
  cases step with
  | create | clone | share | setArgument => rfl
  | register id name source =>
    rw [Workspace.perform]
    cases w.functionOf? source <;> rfl
  | remove id name key =>
    cases key with
    | none => rfl
    | some label' =>
      show (Workspace.keep _ label' _).filters.find? label = _
      rw [filters_keep]
  | lookUp id name key =>
    show (w.keep key _).filters.find? label = _
    rw [filters_keep]
  | compile id other filter =>
    have hother : label ≠ other := by
      rintro rfl
      exact h id filter rfl
    rw [Workspace.perform]
    cases w.session.context? id with
    | none => rfl
    | some c =>
      show (w.filters.insert other _).find? label = _
      rw [NameTable.find?_insert, if_neg hother]

theorem find?_filters_after {later : History} {label : String}
    (h : ∀ step ∈ later, ∀ id filter, step ≠ .compile id label filter) :
    (Workspace.after (later ++ past)).filters.find? label =
      (Workspace.after past).filters.find? label := by
  induction later with
  | nil => rfl
  | cons step later ih =>
    rw [List.cons_append, Workspace.after,
      find?_filters_perform _ (h step List.mem_cons_self),
      ih fun other hother => h other (List.mem_cons_of_mem _ hother)]

/-- A filter is bound to its names when it is compiled. Whatever is done later, short of compiling
    another filter in its place, it answers as its expression does if a function name stands for
    what was registered under it last, through any context of the same registry and without being
    removed since, and an argument for what was bound to it last, in the context itself or, before
    it was cloned, in its origin. Registering and removing tell what the name stood for before, and
    the names of a registry are those that stand for something, each once and in order. -/
theorem bound_when_compiled :
    (∀ (past later : History) (id label : String) (filter : Expr),
      past.registryOf? id ≠ none →
      (∀ step ∈ later, ∀ other e, step ≠ .compile other label e) →
      (∀ name ∈ filter.calledNames, name ≠ "name" → name ≠ "path" →
        ∀ f, past.functionFor? id name = some f → ∃ g, f.Pointwise g) →
      ∃ p, (Workspace.after (later ++ .compile id label filter :: past)).filters.find? label =
          some p ∧
        ∀ s, p s = filter.holds (past.environment id) s) ∧
    (∀ (past : History) (id name : String) (source : Source), past.sourceOf? source ≠ none →
      ((Workspace.after past).perform (.register id name source)).1 =
        past.functionFor? id name) ∧
    (∀ (past : History) (id name : String) (key : Option String),
      ((Workspace.after past).perform (.remove id name key)).1 = past.functionFor? id name) ∧
    ∀ (past : History) (id : String),
      ((Workspace.after past).session.functionNames id).Pairwise (· < ·) ∧
      ∀ name, name ∈ (Workspace.after past).session.functionNames id ↔
        past.functionFor? id name ≠ none := by
  refine ⟨?_, ?_, ?_, ?_⟩
  · intro past later id label filter hid hlater hpointwise
    obtain ⟨c, hcontext, hfunctions, harguments⟩ := exists_context past hid
    have hcompiled : (Workspace.after (.compile id label filter :: past)).filters.find? label =
        some (c.compile filter) := by
      rw [Workspace.after, Workspace.perform, hcontext]
      show ((Workspace.after past).filters.insert label _).find? label = _
      rw [NameTable.find?_insert, if_pos rfl]
    refine ⟨c.compile filter, ?_, fun s => ?_⟩
    · rw [find?_filters_after hlater, hcompiled]
    · exact Context.compile_apply_of_describesFor s filter
        (environment_describesFor hfunctions harguments hpointwise)
  · intro past id name source hsource
    have h := Reflects.after past
    obtain ⟨f, hf⟩ := Option.ne_none_iff_exists'.mp hsource
    rw [Workspace.perform, h.functionOf?_eq, hf]
    exact h.function?_eq id name
  · intro past id name key
    exact (Reflects.after past).function?_eq id name
  · intro past id
    refine ⟨Session.pairwise_functionNames _ id, fun name => ?_⟩
    rw [Session.mem_functionNames_iff, (Reflects.after past).function?_eq]

/-- The function that gives the same value for all resources and arguments. -/
def constantly (value : Value) : Function := .perResource fun _ _ => value

/-- A function is registered in `a`, removed through a clone of `a`, replaced in `a`, and put back.
    The argument is bound again in `a`, but not in the clone. -/
def cloneHistory : History :=
  [.register "a" "answer" (.kept "k"), .register "a" "answer" (.given (constantly (.integer 7))),
    .remove "b" "answer" (some "k"), .setArgument "a" "x" (.integer 7), .clone "b" "a",
    .setArgument "a" "x" (.integer 42),
    .register "a" "answer" (.given (constantly (.integer 42))), .create "a" .standard]

/-- Compares what the function gives with the argument. -/
def cloneFilter : Expr := .compare .equal (.call "answer" []) (.argument "x")

/-- The filter is compiled with the clone, and tested when the function is gone and the argument has
    another value. -/
theorem bound_when_compiled_clone :
    (∃ p, (Workspace.after ([.setArgument "b" "x" .null, .remove "b" "answer" none] ++
          .compile "b" "f" cloneFilter :: cloneHistory)).filters.find? "f" = some p ∧
        p ⟨.new "/", ⟨0, 0⟩⟩ =
          cloneFilter.holds (cloneHistory.environment "b") ⟨.new "/", ⟨0, 0⟩⟩) ∧
      cloneFilter.holds (cloneHistory.environment "b") ⟨.new "/", ⟨0, 0⟩⟩ = true ∧
      cloneHistory.functionFor? "b" "answer" ≠ none ∧
      ((Workspace.after cloneHistory).perform (.register "a" "answer" (.kept "k"))).1 =
        cloneHistory.functionFor? "a" "answer" := by
  have hanswer : cloneHistory.functionFor? "b" "answer" = some (constantly (.integer 42)) := rfl
  have hkept : cloneHistory.sourceOf? (.kept "k") = some (constantly (.integer 42)) := rfl
  have hpointwise : ∀ name ∈ cloneFilter.calledNames, name ≠ "name" → name ≠ "path" →
      ∀ f, cloneHistory.functionFor? "b" name = some f → ∃ g, f.Pointwise g := by
    intro name hname _ _ f hf
    obtain rfl : name = "answer" := by
      simpa [cloneFilter, Expr.calledNames, Expr.calledNamesAll] using hname
    rw [hanswer] at hf
    cases hf
    exact ⟨_, Function.pointwise_perResource _⟩
  refine ⟨?_, by decide +kernel, by simp [hanswer], ?_⟩
  · obtain ⟨p, hfind, hp⟩ := bound_when_compiled.1 cloneHistory
      [.setArgument "b" "x" .null, .remove "b" "answer" none] "b" "f" cloneFilter (by decide)
      (by simp) hpointwise
    exact ⟨p, hfind, hp _⟩
  · exact bound_when_compiled.2.1 cloneHistory "a" "answer" (.kept "k") (by simp [hkept])

end History

end ContentFilter
