import Mathlib
import ContentFilter.CommandLine.Run
import ContentFilter.Proofs.Addressing
import ContentFilter.Proofs.JsonPrinting

/-!
# Where a run starts

A run starts at the resource that the start path leads to in the content tree. A path that another
run has printed leads to the resource that it was printed for, as far as paths lead back to their
resources at all. Without a start path the path of the root is looked for, but in the form in which
it was given: without a slash in front it is taken for a path below the root.
-/

namespace ContentFilter

namespace Resource

variable {x : Resource}

/-- A selection is made of resources of the tree that it begins at. -/
theorem mem_all_of_mem_resources {s : Selection} {now : Instant} (h : x ∈ s.resources now) :
    x ∈ s.root.all := by
  rw [Selection.resources, Traversal.toList_eq_outstanding, Traversal.outstanding_start] at h
  exact mem_all_of_mem_preorder (List.mem_filter.mp h).1

end Resource

namespace CommandLine

open Resource

namespace Options

variable {o : Options} {tree start : Resource} {content : Except String String} {now : Instant}
  {paths : List String} {s : Selection}

theorem start?_eq_ok_iff : o.start? tree = .ok start ↔ tree.find? o.startPath = some start := by
  unfold start?
  cases tree.find? o.startPath with
  | none => exact ⟨nofun, nofun⟩
  | some r =>
    constructor
    · intro h
      exact congrArg some (Except.ok.inj h)
    · intro h
      exact congrArg Except.ok (Option.some.inj h)

/-- The selection of a run begins where the run starts, and it has the filters as they are read. -/
theorem selection?_eq_ok_iff :
    o.selection? start = .ok s ↔ ∃ branch e, o.branch.mapM Expr.parse = .ok branch ∧
      Expr.parse o.filter = .ok e ∧ s = ⟨start, o.context, branch, some e⟩ := by
  unfold selection? Selection.withResult
  cases hfilter : Expr.parse o.filter with
  | error error =>
    constructor
    · intro h
      cases h
    · rintro ⟨_, _, _, h, _⟩
      cases h
  | ok e =>
    cases hb : o.branch with
    | none =>
      constructor
      · rintro ⟨⟩
        exact ⟨none, e, rfl, rfl, rfl⟩
      · rintro ⟨_, _, ⟨⟩, ⟨⟩, rfl⟩
        rfl
    | some filter =>
      simp only [Except.map, Selection.withBranch, Option.mapM]
      cases hbranch : Expr.parse filter with
      | error error =>
        constructor
        · intro h
          cases h
        · rintro ⟨_, _, h, _⟩
          cases h
      | ok e' =>
        constructor
        · rintro ⟨⟩
          exact ⟨some e', e, rfl, rfl, rfl⟩
        · rintro ⟨_, _, ⟨⟩, ⟨⟩, rfl⟩
          rfl

theorem root_of_selection? (h : o.selection? start = .ok s) : s.root = start := by
  obtain ⟨branch, e, -, -, rfl⟩ := selection?_eq_ok_iff.mp h
  rfl

/-- With filters that can be read there is a selection wherever a run starts. -/
theorem exists_selection? (hfilter : ∃ e, Expr.parse o.filter = .ok e)
    (hbranch : ∀ filter, o.branch = some filter → ∃ e, Expr.parse filter = .ok e)
    (start : Resource) : ∃ s, o.selection? start = .ok s := by
  obtain ⟨e, he⟩ := hfilter
  obtain ⟨branch, hb⟩ : ∃ branch, o.branch.mapM Expr.parse = .ok branch := by
    cases h : o.branch with
    | none => exact ⟨none, rfl⟩
    | some filter =>
      obtain ⟨e', he'⟩ := hbranch filter h
      exact ⟨some e', by rw [Option.mapM, he']; rfl⟩
  exact ⟨_, selection?_eq_ok_iff.mpr ⟨branch, e, hb, he, rfl⟩⟩

theorem bind_eq_ok_iff {ε α β : Type} {a : Except ε α} {f : α → Except ε β} {b : β} :
    (a >>= f) = .ok b ↔ ∃ x, a = .ok x ∧ f x = .ok b := by
  cases a with
  | error e => exact ⟨nofun, nofun⟩
  | ok x => exact ⟨fun h => ⟨x, rfl, h⟩, fun ⟨_, hx, h⟩ => Except.ok.inj hx ▸ h⟩

/-- The paths of a run that goes through all of its stages. -/
theorem paths?_eq_ok_iff :
    o.paths? content now = .ok paths ↔ ∃ tree, o.tree? content = .ok tree ∧
      ∃ start, o.start? tree = .ok start ∧ ∃ s, o.selection? start = .ok s ∧
      (s.resources now).map (·.path) = paths := by
  have hpure : ∀ s : Selection,
      (pure ((s.resources now).map (·.path)) : Except Failure (List String)) = .ok paths ↔
        (s.resources now).map (·.path) = paths :=
    fun s => ⟨Except.ok.inj, congrArg Except.ok⟩
  rw [paths?]
  simp only [bind_eq_ok_iff, hpure]

theorem tree?_ok {text : String} {j : Json} (hj : Json.ofText? text = some j) :
    o.tree? (.ok text) = .ok (ofJson o.root j) := by
  rw [tree?]
  simp only [Json.ofText?_eq_some_iff.mp hj]

theorem start?_of_mem_paths {text : String} {j : Json} {path : String}
    (hj : Json.ofText? text = some j) (h : j.Followable)
    (hpaths : o.paths? (.ok text) now = .ok paths) (hpath : path ∈ paths) :
    ∃ x, (Traversal.start (ofJson o.root j) fun _ => true).toList.filter (·.path == path) = [x] ∧
      { o with start := some path }.start? (ofJson o.root j) = .ok x := by
  have haddressable := addressable_of_followable o.root h
  obtain ⟨tree, htree, start, hstart, s, hs, rfl⟩ := paths?_eq_ok_iff.mp hpaths
  obtain rfl := Except.ok.inj ((tree?_ok hj).symm.trans htree)
  obtain ⟨x, hx, rfl⟩ := List.mem_map.mp hpath
  have hbelow : x ∈ start.all := root_of_selection? hs ▸ mem_all_of_mem_resources hx
  have hstart' : start ∈ (ofJson o.root j).all := mem_all_of_find? (start?_eq_ok_iff.mp hstart)
  have hmem := (sublist_all hstart').subset hbelow
  have hlist := toList_start (ofJson o.root j)
  refine ⟨x, ?_, start?_eq_ok_iff.mpr (haddressable.found x (hlist ▸ hmem))⟩
  have hnodup : ((ofJson o.root j).all.map (·.path)).Nodup := hlist ▸ haddressable.distinct
  rw [hlist]
  exact filter_kind_eq hnodup hmem

/-- The path of the root, in the form in which it was given, leads to the root: it is absolute, or
    it has no names. -/
def RootLeadsBack (o : Options) : Prop :=
  o.root.toList.head? = some '/' ∨ nameSegments o.root.toList = []

/-- Without a start path a run starts at the root if and only if the path given for the root leads
    back to it. -/
theorem start?_eq_root_iff (h : o.start = none) (j : Json) :
    o.start? (ofJson o.root j) = .ok (ofJson o.root j) ↔ o.RootLeadsBack := by
  have hpath : o.startPath = o.root := by
    rw [startPath, h]
    rfl
  rw [start?_eq_ok_iff, hpath, RootLeadsBack]
  by_cases hslash : o.root.toList.head? = some '/'
  · have hfind : (ofJson o.root j).find? o.root = some (ofJson o.root j) := by
      rw [find?, if_pos hslash]
      simp only [path_ofJson, if_true]
    exact ⟨fun _ => .inl hslash, fun _ => hfind⟩
  · rw [find?, if_neg hslash, followNames?_eq_some_self_iff, or_iff_right hslash]

/-- The path of the root, in the form in which resources have theirs, leads to the root. -/
theorem start?_root_path (o : Options) (j : Json) :
    { o with start := some (ofJson o.root j).path }.start? (ofJson o.root j) =
      .ok (ofJson o.root j) := by
  refine start?_eq_ok_iff.mpr ?_
  show (ofJson o.root j).find? (ofJson o.root j).path = _
  rw [path_ofJson]
  exact find?_pathOf (path_ofJson o.root j) []

theorem run_of_start? {text : String} {j : Json} (now : Instant) (hj : Json.ofText? text = some j)
    (hstart : o.start? (ofJson o.root j) = .ok start) (hs : o.selection? start = .ok s) :
    run o (.ok text) now = ⟨0, o.print ((s.resources now).map (·.path)), none⟩ := by
  have hpaths : o.paths? (.ok text) now = .ok ((s.resources now).map (·.path)) :=
    paths?_eq_ok_iff.mpr ⟨_, tree?_ok hj, start, hstart, s, hs, rfl⟩
  rw [run, hpaths]

/-- Selects a resource with the name of the root, which has the path `/site`. -/
def site : Options where
  filter := "name() = 'site'"
  content := none
  root := "/site/"
  start := none
  branch := none
  arguments := []
  json := false

theorem parse_filter_site :
    Expr.parse site.filter = .ok (.compare .equal (.call "name" []) (.text "site")) := by cbv

theorem parse_branch_site (filter : String) (h : site.branch = some filter) :
    ∃ e, Expr.parse filter = .ok e := by
  cases h

/-- The root is at `/site` again, and a resource further down is selected. -/
def page : Options :=
  { site with filter := "name() = 'b'" }

/-- A content with an object in an object, and a property in this. -/
def pageText : String :=
  "\x7b\"a\":\x7b\"b\":\x7b\"n\":7\x7d\x7d\x7d"

/-- The value of this content. -/
def pageContent : Json :=
  .object [("a", .object [("b", .object [("n", .number (.integer 7))])])]

theorem ofText?_page : Json.ofText? pageText = some pageContent := by
  have htakes : Json.Takes (Json.readValue Json.depthLimit
      ['{', '"', 'a', '"', ':', '{', '"', 'b', '"', ':', '{', '"', 'n', '"', ':', '7', '}', '}',
        '}']) pageContent [] := Json.takes_iff.mpr (by cbv)
  exact Json.ofText?_of_takes htakes rfl

theorem paths?_page : page.paths? (.ok pageText) ⟨0, 0⟩ = .ok ["/site/a/b"] := by
  have hfilter : Expr.parse page.filter = .ok (.compare .equal (.call "name" []) (.text "b")) := by
    cbv
  have hstart : page.start? (ofJson page.root pageContent) = .ok (ofJson page.root pageContent) :=
    (start?_eq_root_iff rfl _).mpr (.inl rfl)
  have hs : page.selection? (ofJson page.root pageContent) = .ok ⟨ofJson page.root pageContent,
      page.context, none, some (.compare .equal (.call "name" []) (.text "b"))⟩ :=
    selection?_eq_ok_iff.mpr ⟨none, _, rfl, hfilter, rfl⟩
  refine paths?_eq_ok_iff.mpr ⟨_, tree?_ok ofText?_page, _, hstart, _, hs, ?_⟩
  rw [Selection.resources, Traversal.toList_eq_outstanding, Traversal.outstanding_start]
  decide +kernel

end Options

/-- Paths lead back to their resources, and tell them apart, in the content trees of the JSON values
    whose names can be followed, and in no others. There a path that a run prints is that of one
    resource, and a run that is told to start at this path starts at this resource. -/
theorem paths_lead_back (root : String) (j : Json) :
    ((ofJson root j).Addressable ↔ j.Followable) ∧
    ∀ (o : Options) (text : String) (now : Instant) (paths : List String) (path : String),
      o.root = root → Json.ofText? text = some j → j.Followable →
      o.paths? (.ok text) now = .ok paths → path ∈ paths →
      ∃ x, (Traversal.start (ofJson root j) fun _ => true).toList.filter (·.path == path) = [x] ∧
        { o with start := some path }.start? (ofJson root j) = .ok x := by
  refine ⟨⟨followable_of_addressable, addressable_of_followable root⟩, ?_⟩
  rintro o text now paths path rfl hj h hpaths hpath
  exact Options.start?_of_mem_paths hj h hpaths hpath

/-- A run prints the path of a resource two levels below the root, and another one starts there. -/
theorem paths_lead_back_site :
    Json.ofText? Options.pageText = some Options.pageContent ∧ Options.pageContent.Followable ∧
    Options.page.paths? (.ok Options.pageText) ⟨0, 0⟩ = .ok ["/site/a/b"] ∧
    "/site/a/b" ∈ ["/site/a/b"] ∧
    ∃ x, (Traversal.start (ofJson "/site/" Options.pageContent) fun _ => true).toList.filter
        (·.path == "/site/a/b") = [x] ∧
      { Options.page with start := some "/site/a/b" }.start? (ofJson "/site/" Options.pageContent) =
        .ok x := by
  have hj := Options.ofText?_page
  have hfollowable : Options.pageContent.Followable := by decide +kernel
  have hpaths := Options.paths?_page
  have hpath : "/site/a/b" ∈ ["/site/a/b"] := List.mem_cons_self
  exact ⟨hj, hfollowable, hpaths, hpath,
    (paths_lead_back "/site/" Options.pageContent).2 Options.page Options.pageText ⟨0, 0⟩ _ _ rfl hj
      hfollowable hpaths hpath⟩

/-- An object with one member, an object with a slash in its name. -/
def slashedMember : Json :=
  .object [("a/b", .object [])]

/-- The name of a member with a slash in it has two segments, so that its path is not found. -/
theorem not_forall_addressable : ¬ ∀ root j, (ofJson root j).Addressable := by
  intro h
  have hfollowable := followable_of_addressable (h "/" slashedMember)
  have hsingle := (hfollowable [] _ (.here _)).single ("a/b", .object []) List.mem_cons_self rfl
  exact absurd (congrArg List.length hsingle) (by decide +kernel)

/-- A run without a start path, whose content is a JSON text and whose filters can be read. It
    starts at the root of the content tree if and only if the path given for the root leads back to
    it. Then it succeeds with what it selects from the root, and it ends like a run that is told to
    start at the path that the root has in the tree. -/
theorem run_without_start {o : Options} {text : String} {j : Json} (now : Instant)
    (hstart : o.start = none) (hj : Json.ofText? text = some j)
    (hfilter : ∃ e, Expr.parse o.filter = .ok e)
    (hbranch : ∀ filter, o.branch = some filter → ∃ e, Expr.parse filter = .ok e) :
    (o.start? (ofJson o.root j) = .ok (ofJson o.root j) ↔ o.RootLeadsBack) ∧
    (o.RootLeadsBack →
      (∃ s, s.root = ofJson o.root j ∧ o.selection? (ofJson o.root j) = .ok s ∧
        run o (.ok text) now = ⟨0, o.print ((s.resources now).map (·.path)), none⟩) ∧
      run o (.ok text) now =
        run { o with start := some (ofJson o.root j).path } (.ok text) now) := by
  have hiff := Options.start?_eq_root_iff hstart j
  refine ⟨hiff, fun hroot => ?_⟩
  obtain ⟨s, hs⟩ := Options.exists_selection? hfilter hbranch (ofJson o.root j)
  have hrun := Options.run_of_start? now hj (hiff.mpr hroot) hs
  have hrun' := Options.run_of_start? (o := { o with start := some (ofJson o.root j).path }) now hj
    (Options.start?_root_path o j) hs
  refine ⟨⟨s, Options.root_of_selection? hs, hs, hrun⟩, ?_⟩
  rw [hrun, hrun']
  rfl

/-- The root is given as `/site/`, and its path is `/site`. -/
theorem run_without_start_site :
    Options.site.start = none ∧ Json.ofText? "{}" = some (.object []) ∧
    Options.site.RootLeadsBack ∧ (ofJson "/site/" (.object [])).path = "/site" ∧
    run Options.site (.ok "{}") ⟨0, 0⟩ =
      run { Options.site with start := some (ofJson "/site/" (.object [])).path } (.ok "{}")
        ⟨0, 0⟩ := by
  have hj : Json.ofText? "{}" = some (.object []) := by cbv
  have hroot : Options.site.RootLeadsBack := .inl rfl
  exact ⟨rfl, hj, hroot, by decide +kernel,
    ((run_without_start ⟨0, 0⟩ rfl hj ⟨_, Options.parse_filter_site⟩
    Options.parse_branch_site).2 hroot).2⟩

/-- With `site` for the path of the root, a resource with this name is looked for below the root. -/
theorem not_forall_run_without_start :
    ¬ ∀ (o : Options) (text : String) (j : Json) (now : Instant), o.start = none →
      Json.ofText? text = some j → (∃ e, Expr.parse o.filter = .ok e) →
      (∀ filter, o.branch = some filter → ∃ e, Expr.parse filter = .ok e) →
      (run o (.ok text) now).code = 0 := by
  intro h
  have hj : Json.ofText? "{}" = some (.object []) := by cbv
  have hzero := h { Options.site with root := "site" } "{}" _ ⟨0, 0⟩ rfl hj
    ⟨_, Options.parse_filter_site⟩
    Options.parse_branch_site
  have hone : run { Options.site with root := "site" } (.ok "{}") ⟨0, 0⟩ =
      ⟨1, "", some (.noResource "site")⟩ := by cbv
  rw [hone] at hzero
  exact absurd hzero (by decide)

end CommandLine

end ContentFilter
