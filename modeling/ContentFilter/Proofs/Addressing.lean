import ContentFilter.Proofs.Lookup
import Mathlib.Data.List.Pairwise

/-!
# Paths that lead back to their resources

A path is followed by names, and the name of a resource comes from its path. So the path of a
resource leads back to it if the name of each member on the way has one segment that is followed,
the last one, and if no two resources side by side have the same name. This is not so for all JSON
values: a name may be empty, a dot or have slashes in it. `Resource.addressable_of_followable` and
`Resource.followable_of_addressable` say that it is the only obstacle, for finding each resource of
a tree by its path as well as for telling the resources apart by their paths.
-/

namespace ContentFilter

/-- The name of a child that is made with the given name: the same below all paths. -/
def Path.nameOf (name : String) : String :=
  Path.lastName (Path.child "/" name)

/-- The members that are objects have names that can be followed. -/
structure Json.FollowableMembers (members : List (String × Json)) : Prop where
  /-- One segment is followed for each, and it is the name of the resource. -/
  single : ∀ m ∈ members, m.2.isObject = true →
    Resource.nameSegments m.1.toList = [(Path.nameOf m.1).toList]
  /-- No two of the resources have the same name. -/
  distinct : ((members.filter (·.2.isObject)).map fun m => Path.nameOf m.1).Nodup

/-- In every object that names lead to, names can be followed. -/
def Json.Followable (j : Json) : Prop :=
  ∀ names members, j.LeadsTo names members → FollowableMembers members

theorem Json.followableMembers_iff (members : List (String × Json)) :
    FollowableMembers members ↔
      (∀ m ∈ members.filter (·.2.isObject),
        Resource.nameSegments m.1.toList = [(Path.nameOf m.1).toList]) ∧
      ((members.filter (·.2.isObject)).map fun m => Path.nameOf m.1).Nodup := by
  simp only [List.mem_filter, and_imp]
  exact ⟨fun ⟨hsingle, hdistinct⟩ => ⟨hsingle, hdistinct⟩,
    fun ⟨hsingle, hdistinct⟩ => ⟨hsingle, hdistinct⟩⟩

instance : DecidablePred Json.FollowableMembers :=
  fun members => decidable_of_iff _ (Json.followableMembers_iff members).symm

instance (j : Json) : Decidable j.Followable :=
  decidable_of_iff (∀ q ∈ j.objects, Json.FollowableMembers q.2)
    (Json.forall_mem_objects_iff (P := fun _ => Json.FollowableMembers))

/-- Each resource that a walk from the root comes to is found by its path, and their paths are all
    different. -/
structure Resource.Addressable (tree : Resource) : Prop where
  /-- The path of a resource leads to it. -/
  found : ∀ x ∈ (Traversal.start tree fun _ => true).toList, tree.find? x.path = some x
  /-- No path is that of two resources. -/
  distinct : ((Traversal.start tree fun _ => true).toList.map (·.path)).Nodup

namespace Resource

variable {root : String} {j : Json} {names : List String} {members o : List (String × Json)}
  {r x c : Resource} {s : List Char}

/-! ## Names of resources -/

/-- A child has the name that its own name gives it, whatever path it is below, if there is a
    segment in it to be followed. -/
theorem name_ofJson_child (parent : String) {name : String} (j : Json)
    (h : nameSegments name.toList ≠ []) :
    (ofJson (Path.child (Path.normalize parent) name) j).name = Path.nameOf name := by
  have hne : Path.dropFinalSlashes ('/' :: name.toList) ≠ [] := by
    intro hnil
    rw [← nameSegments_cons_slash, ← nameSegments_dropFinalSlashes, hnil] at h
    exact h nameSegments_nil
  have hstem : Path.IsStem (Path.dropFinalSlashes ('/' :: name.toList)) :=
    Path.isStem_dropFinalSlashes (.inr rfl)
  rw [Resource.name, path_ofJson, Path.normalize_child,
    Path.child_eq_ofStem (Path.normalize_normalize parent), Path.lastName_ofStem_append _ hstem hne,
    Path.nameOf, Path.child_eq_ofStem rfl]
  rfl

/-- A member that is an object gives a child, and it is found by its name. -/
theorem child?_ofJson (h : Json.FollowableMembers members) {m : String × Json} (hm : m ∈ members)
    (hobject : m.2.isObject = true) :
    (ofJson root (.object members)).child? (Path.nameOf m.1) =
      some (ofJson (Path.child (Path.normalize root) m.1) m.2) := by
  have hname : ∀ m' ∈ members.filter (·.2.isObject),
      (ofJson (Path.child (Path.normalize root) m'.1) m'.2).name = Path.nameOf m'.1 := by
    intro m' hm'
    obtain ⟨hmem, hobject'⟩ := List.mem_filter.mp hm'
    refine name_ofJson_child root m'.2 ?_
    rw [h.single m' hmem hobject']
    exact List.cons_ne_nil _ _
  have hfilter : m ∈ members.filter (·.2.isObject) := List.mem_filter.mpr ⟨hm, hobject⟩
  have hnames : (ofJson root (.object members)).children.map (·.name) =
      (members.filter (·.2.isObject)).map fun m => Path.nameOf m.1 := by
    rw [children_ofJson, List.map_map]
    exact List.map_congr_left hname
  have hnodup : ((ofJson root (.object members)).children.map (·.name)).Nodup :=
    hnames ▸ h.distinct
  have hchild : ofJson (Path.child (Path.normalize root) m.1) m.2 ∈
      (ofJson root (.object members)).children := by
    rw [children_ofJson]
    exact List.mem_map_of_mem hfilter
  rw [← hname m hfilter, child?, ← List.head?_filter, filter_kind_eq hnodup hchild,
    List.head?_cons]

/-! ## Names that can be followed are enough -/

/-- Following the segments of names that lead to an object leads to its resource. -/
theorem followNames?_segmentsOf (root : String) (h : j.Followable) (hleads : j.LeadsTo names o) :
    (ofJson root j).followNames? (segmentsOf names) =
      some (ofJson (pathOf root names) (.object o)) := by
  induction hleads generalizing root with
  | here o =>
    rw [ofJson_pathOf_nil]
    rfl
  | @inside members o name j names hmem hleads ih =>
    have hmembers := h [] members (.here members)
    have hobject : j.isObject = true := hleads.isObject
    have hinside : j.Followable := fun names' o' h' => h (name :: names') o' (.inside hmem h')
    have hsegments :
        segmentsOf (name :: names) = (Path.nameOf name).toList :: segmentsOf names := by
      rw [segmentsOf, List.flatMap_cons, hmembers.single (name, j) hmem hobject]
      rfl
    rw [hsegments, followNames?, String.ofList_toList, child?_ofJson hmembers hmem hobject,
      Option.bind_some, ih _ hinside, pathOf_cons]

/-- The resource of an object that names lead to is found by its path. -/
theorem find?_path_ofJson (root : String) (h : j.Followable) (hleads : j.LeadsTo names o) :
    (ofJson root j).find? (pathOf root names) = some (ofJson (pathOf root names) (.object o)) := by
  rw [find?_pathOf (path_ofJson root j) names]
  exact followNames?_segmentsOf root h hleads

/-- Where names can be followed, different names have different segments. -/
theorem nodup_segmentsOf (h : j.Followable) : (j.objects.map fun q => segmentsOf q.1).Nodup := by
  induction j using Json.induction_members with
  | h j ih =>
    cases j with
    | object members =>
      have hmembers := h [] members (.here members)
      have hbelow : ∀ m ∈ members.filter (·.2.isObject),
          (m.2.objects.map fun q => segmentsOf (m.1 :: q.1)) =
            m.2.objects.map fun q => (Path.nameOf m.1).toList :: segmentsOf q.1 := by
        intro m hm
        obtain ⟨hmem, hobject⟩ := List.mem_filter.mp hm
        refine List.map_congr_left fun q _ => ?_
        rw [segmentsOf, List.flatMap_cons, hmembers.single m hmem hobject]
        rfl
      have hlist : ((Json.object members).objects.map fun q => segmentsOf q.1) = [] ::
          (members.filter (·.2.isObject)).flatMap fun m =>
            m.2.objects.map fun q => (Path.nameOf m.1).toList :: segmentsOf q.1 := by
        rw [Json.objects_object, List.map_cons, List.map_flatMap, ← List.flatMap_congr hbelow,
          Json.flatMap_objects_filter]
        simp only [List.map_map]
        rfl
      rw [hlist, List.nodup_cons, List.nodup_flatMap]
      refine ⟨by simp, fun m hm => ?_, ?_⟩
      · have hmem := (List.mem_filter.mp hm).1
        have hinside : m.2.Followable := fun names o h' => h (m.1 :: names) o (.inside hmem h')
        exact nodup_map_of_imp (ih members rfl m hmem hinside) fun _ _ heq => (List.cons.inj heq).2
      · -- segments in different children differ at their first
        refine (List.pairwise_map.mp hmembers.distinct).imp fun {m m'} hne => ?_
        intro segments hm hm'
        obtain ⟨below, -, rfl⟩ := List.mem_map.mp hm
        obtain ⟨below', -, hcons⟩ := List.mem_map.mp hm'
        exact hne (String.toList_injective (List.cons.inj hcons).1.symm)
    | _ => exact List.nodup_nil

/-- The path of a resource knows the segments that lead to it. -/
theorem segmentsOf_eq_of_pathOf_eq {names' : List String}
    (h : pathOf root names = pathOf root names') : segmentsOf names = segmentsOf names' := by
  have hstem := stem_pathOf root names
  rw [h, stem_pathOf root names'] at hstem
  rw [← nameSegments_flatMap, ← nameSegments_flatMap, List.append_cancel_left hstem]

theorem addressable_of_followable (root : String) (h : j.Followable) :
    (ofJson root j).Addressable := by
  cases hobject : j.isObject with
  | false =>
    have hall := all_ofJson_of_not_isObject root hobject
    rw [← toList_start] at hall
    constructor
    · intro x hx
      rw [hall, List.mem_singleton] at hx
      rw [hx, path_ofJson]
      exact find?_pathOf (path_ofJson root j) []
    · rw [hall]
      exact List.nodup_singleton _
  | true =>
    constructor
    · intro x hx
      rw [toList_start, mem_all_ofJson_iff hobject] at hx
      obtain ⟨names, o, hleads, rfl⟩ := hx
      rw [path_ofJson_pathOf]
      exact find?_path_ofJson root h hleads
    · have hpaths : (ofJson root j).all.map (·.path) = j.objects.map fun q => pathOf root q.1 := by
        rw [all_ofJson root hobject, List.map_map]
        exact List.map_congr_left fun q _ => path_ofJson_pathOf root q.1 _
      rw [toList_start, hpaths]
      exact nodup_map_of_imp (nodup_segmentsOf h) fun _ _ => segmentsOf_eq_of_pathOf_eq

/-! ## Names that cannot be followed lead to no path -/

/-- No path is that of a resource of both trees. -/
def PathsApart (a b : Resource) : Prop :=
  ∀ x ∈ a.all, ∀ y ∈ b.all, x.path ≠ y.path

instance : Std.Symm PathsApart where
  symm _ _ h x hx y hy := (h y hy x hx).symm

/-- Where all paths are different, the trees of the children are apart. -/
theorem pairwise_children (h : (r.all.map (·.path)).Nodup) : r.children.Pairwise PathsApart := by
  rw [all_eq, List.map_cons, List.nodup_cons, List.map_flatMap, List.nodup_flatMap] at h
  refine h.2.2.imp fun {a b} hdisjoint x hx y hy heq => ?_
  exact hdisjoint (List.mem_map_of_mem hx) (heq ▸ List.mem_map_of_mem hy)

/-- A child that names lead to is led to by one of them. -/
theorem length_eq_one_of_followNames? {segments : List (List Char)}
    (hpaths : (r.all.map (·.path)).Nodup) (hc : c ∈ r.children)
    (h : r.followNames? segments = some c) : segments.length = 1 := by
  cases segments with
  | nil =>
    obtain rfl := Option.some.inj h
    exact absurd (size_lt_of_mem_children hc) (Nat.lt_irrefl _)
  | cons s segments =>
    obtain ⟨b, hb, hbelow⟩ := followNames?_cons_eq_some_iff.mp h
    obtain ⟨hmem, hsize⟩ := of_followNames?_eq_some hbelow
    have hbmem := (mem_children_of_child? hb).1
    cases segments with
    | nil => rfl
    | cons s' segments =>
      have hne : b ≠ c := by
        rintro rfl
        rw [List.length_cons] at hsize
        omega
      -- `c` would be a child and below another child at the same time
      have hapart := (pairwise_children hpaths).forall hbmem hc hne
      exact absurd rfl (hapart c hmem c (mem_all_self c))

/-- In a tree where paths lead back to their resources, the segments of the name of a member lead
    to its resource. -/
theorem followNames?_member (h : (ofJson root j).Addressable) (hleads : j.LeadsTo names members)
    {m : String × Json} (hm : m ∈ members) (hobject : m.2.isObject = true) :
    (ofJson (pathOf root names) (.object members)).followNames? (nameSegments m.1.toList) =
      some (ofJson (Path.child (pathOf root names) m.1) m.2) := by
  have hfound : ∀ names' o', j.LeadsTo names' o' →
      (ofJson root j).followNames? (segmentsOf names') =
        some (ofJson (pathOf root names') (.object o')) := by
    intro names' o' hleads'
    have hmem : ofJson (pathOf root names') (.object o') ∈ (ofJson root j).all :=
      (mem_all_ofJson_iff (hleads'.isObject)).mpr ⟨names', o', hleads', rfl⟩
    have hfind := h.found _ (toList_start _ ▸ hmem)
    rwa [path_ofJson_pathOf, find?_pathOf (path_ofJson root j)] at hfind
  obtain ⟨name, held⟩ := m
  obtain ⟨inner, rfl⟩ := Json.isObject_iff.mp hobject
  have hchild := hfound (names ++ [name]) inner (hleads.concat hm)
  have hsegments : segmentsOf (names ++ [name]) = segmentsOf names ++ nameSegments name.toList := by
    simp [segmentsOf]
  rw [hsegments, followNames?_append, hfound names members hleads, Option.bind_some,
    pathOf_concat] at hchild
  exact hchild

/-- The resource of an object has different paths in it where the whole tree has. -/
theorem nodup_paths_pathOf (h : (ofJson root j).Addressable) (hleads : j.LeadsTo names members) :
    ((ofJson (pathOf root names) (.object members)).all.map (·.path)).Nodup := by
  have hmem : ofJson (pathOf root names) (.object members) ∈ (ofJson root j).all :=
    (mem_all_ofJson_iff hleads.isObject).mpr ⟨names, members, hleads, rfl⟩
  exact (toList_start _ ▸ h.distinct).sublist ((sublist_all hmem).map _)

theorem children_ofJson_pathOf (root : String) (names : List String)
    (members : List (String × Json)) :
    (ofJson (pathOf root names) (.object members)).children =
      (members.filter (·.2.isObject)).map fun m =>
        ofJson (Path.child (pathOf root names) m.1) m.2 := by
  rw [children_ofJson, normalize_pathOf]

/-- Then the name of a member has one segment that is followed, the name of its resource. -/
theorem nameSegments_member (h : (ofJson root j).Addressable) (hleads : j.LeadsTo names members)
    {m : String × Json} (hm : m ∈ members) (hobject : m.2.isObject = true) :
    nameSegments m.1.toList = [(Path.nameOf m.1).toList] := by
  have hfollow := followNames?_member h hleads hm hobject
  have hmem : ofJson (Path.child (pathOf root names) m.1) m.2 ∈
      (ofJson (pathOf root names) (.object members)).children := by
    rw [children_ofJson_pathOf]
    exact List.mem_map_of_mem (List.mem_filter.mpr ⟨hm, hobject⟩)
  have hlength := length_eq_one_of_followNames? (nodup_paths_pathOf h hleads) hmem hfollow
  obtain ⟨s, hs⟩ := List.length_eq_one_iff.mp hlength
  rw [hs] at hfollow
  obtain ⟨c, hc, hlast⟩ := followNames?_cons_eq_some_iff.mp hfollow
  obtain rfl := Option.some.inj hlast
  have hname := (mem_children_of_child? hc).2
  have hne : nameSegments m.1.toList ≠ [] := hs ▸ List.cons_ne_nil _ _
  rw [← normalize_pathOf, name_ofJson_child _ _ hne] at hname
  rw [hs, hname, String.toList_ofList]

/-- If paths lead back to their resources, names can be followed. -/
theorem followable_of_addressable (h : (ofJson root j).Addressable) : j.Followable := by
  intro names members hleads
  have hsingle : ∀ m ∈ members, m.2.isObject = true →
      nameSegments m.1.toList = [(Path.nameOf m.1).toList] :=
    fun m hm hobject => nameSegments_member h hleads hm hobject
  refine ⟨hsingle, ?_⟩
  have hapart := pairwise_children (nodup_paths_pathOf h hleads)
  rw [children_ofJson_pathOf] at hapart
  refine List.pairwise_map.mpr ((List.pairwise_map.mp hapart).imp_of_mem ?_)
  intro m m' hm hm' hne heq
  obtain ⟨hmem, hobject⟩ := List.mem_filter.mp hm
  obtain ⟨hmem', hobject'⟩ := List.mem_filter.mp hm'
  -- one name would lead to both resources
  have hfollow := followNames?_member h hleads hmem hobject
  have hfollow' := followNames?_member h hleads hmem' hobject'
  rw [hsingle m hmem hobject, heq, ← hsingle m' hmem' hobject', hfollow'] at hfollow
  have hpath := congrArg Resource.path (Option.some.inj hfollow)
  exact hne _ (mem_all_self _) _ (mem_all_self _) hpath.symm

end Resource

end ContentFilter
