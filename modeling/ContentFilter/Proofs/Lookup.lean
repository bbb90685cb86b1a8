import ContentFilter.Proofs.JsonNames
import ContentFilter.Proofs.Path
import ContentFilter.Proofs.Traversal
import ContentFilter.Resource.OfJson

/-!
# Looking up by paths

The content tree of a JSON value has a resource for each object that names lead to, below a root of
the given path. Looking for the path of such a resource comes to the same as following the segments
of the names that lead to its object, leaving out those that are empty or a single dot. What is
found in this way is another question: the names of the resources come from their paths too.
-/

namespace ContentFilter

/-! ## Lists without repetitions -/

section Lists

variable {α β γ : Type} {l : List α}

/-- What tells the items of a list apart is told apart by whatever determines it. -/
theorem nodup_map_of_imp {f : α → β} {g : α → γ} (h : (l.map f).Nodup)
    (hg : ∀ a b, g a = g b → f a = f b) : (l.map g).Nodup :=
  List.pairwise_map.mpr ((List.pairwise_map.mp h).imp fun hne heq => hne (hg _ _ heq))

/-- An item is the only one of its kind if no two items are of one kind. -/
theorem filter_kind_eq [DecidableEq β] {f : α → β} (h : (l.map f).Nodup) {a : α} (ha : a ∈ l) :
    l.filter (f · == f a) = [a] := by
  induction l with
  | nil => cases ha
  | cons b l ih =>
    rw [List.map_cons, List.nodup_cons] at h
    rcases List.mem_cons.mp ha with rfl | ha
    · have hnone : l.filter (f · == f a) = [] := by
        refine List.filter_eq_nil_iff.mpr fun b hb hkind => h.1 ?_
        rw [← eq_of_beq hkind]
        exact List.mem_map_of_mem hb
      rw [List.filter_cons, if_pos (beq_self_eq_true _), hnone]
    · have hne : f b ≠ f a := fun heq => h.1 (heq ▸ List.mem_map_of_mem ha)
      rw [List.filter_cons, if_neg (by simpa using hne), ih h.2 ha]

end Lists

namespace Resource

variable {root path : String} {j : Json} {names : List String} {members o : List (String × Json)}
  {r x c : Resource} {s t : List Char}

/-! ## The resources of a tree -/

/-- All resources of the tree, each before those below it. -/
def all (r : Resource) : List Resource :=
  r.preorder fun _ => true

theorem all_eq (r : Resource) : r.all = r :: r.children.flatMap all := by
  rw [all, preorder_eq, List.filter_eq_self.mpr fun _ _ => rfl]
  rfl

/-- A walk through all branches comes to all resources. -/
theorem toList_start (r : Resource) : (Traversal.start r fun _ => true).toList = r.all := by
  rw [Traversal.toList_eq_outstanding, Traversal.outstanding_start, all]

theorem size_lt_of_mem_children (h : c ∈ r.children) : c.size < r.size := by
  have hle : ∀ rs : List Resource, c ∈ rs → c.size ≤ sizeAll rs := by
    intro rs hc
    induction rs with
    | nil => cases hc
    | cons r rs ih =>
      rw [sizeAll]
      rcases List.mem_cons.mp hc with rfl | hc
      · exact Nat.le_add_right _ _
      · exact Nat.le_add_left_of_le (ih hc)
  rw [size_eq r]
  exact Nat.lt_succ_of_le (hle r.children h)

/-- What holds of a resource if it holds of its children, holds of every resource. -/
theorem induction_children {P : Resource → Prop} (h : ∀ r, (∀ c ∈ r.children, P c) → P r)
    (r : Resource) : P r :=
  h r fun c _ => induction_children h c
termination_by r.size
decreasing_by exact size_lt_of_mem_children ‹_›

theorem mem_children_of_child? {name : String} (h : r.child? name = some c) :
    c ∈ r.children ∧ c.name = name := by
  rw [child?] at h
  have hname := List.find?_some h
  exact ⟨List.mem_of_find?_eq_some h, beq_iff_eq.mp hname⟩

theorem followNames?_append (r : Resource) (a b : List (List Char)) :
    r.followNames? (a ++ b) = (r.followNames? a).bind (·.followNames? b) := by
  induction a generalizing r with
  | nil => rfl
  | cons s a ih =>
    rw [List.cons_append, followNames?, followNames?]
    cases r.child? (String.ofList s) with
    | none => rfl
    | some c => exact ih c

theorem followNames?_cons_eq_some_iff {segments : List (List Char)} :
    r.followNames? (s :: segments) = some x ↔
      ∃ c, r.child? (String.ofList s) = some c ∧ c.followNames? segments = some x := by
  rw [followNames?, Option.bind_eq_some_iff]

theorem mem_all_self (r : Resource) : r ∈ r.all := by
  rw [all_eq]
  exact List.mem_cons_self

theorem mem_all_of_mem_children (hc : c ∈ r.children) (hx : x ∈ c.all) : x ∈ r.all := by
  rw [all_eq]
  exact List.mem_cons_of_mem _ (List.mem_flatMap.mpr ⟨c, hc, hx⟩)

/-- Names lead to resources of the tree, smaller ones if there are any names. -/
theorem of_followNames?_eq_some {segments : List (List Char)}
    (h : r.followNames? segments = some x) :
    x ∈ r.all ∧ x.size + segments.length ≤ r.size := by
  induction segments generalizing r with
  | nil =>
    obtain rfl := Option.some.inj h
    exact ⟨mem_all_self r, Nat.le_refl _⟩
  | cons s segments ih =>
    obtain ⟨c, hc, hx⟩ := followNames?_cons_eq_some_iff.mp h
    have hmem := (mem_children_of_child? hc).1
    obtain ⟨hall, hsize⟩ := ih hx
    have hlt := size_lt_of_mem_children hmem
    refine ⟨mem_all_of_mem_children hmem hall, ?_⟩
    rw [List.length_cons]
    omega

/-- What is below a resource of the tree is a part of the list of all. -/
theorem sublist_all (h : x ∈ r.all) : x.all.Sublist r.all := by
  induction r using induction_children with
  | h r ih =>
    rw [all_eq r] at h
    rcases List.mem_cons.mp h with rfl | h
    · exact List.Sublist.refl _
    · obtain ⟨c, hc, hx⟩ := List.mem_flatMap.mp h
      rw [all_eq r, List.flatMap_def]
      exact ((ih c hc hx).trans (List.sublist_flatten_of_mem (List.mem_map_of_mem hc))).cons _

/-- A walk comes to no other resources than one through all branches. -/
theorem mem_all_of_mem_preorder {accepts : Resource → Bool} (h : x ∈ r.preorder accepts) :
    x ∈ r.all := by
  induction r using induction_children with
  | h r ih =>
    rw [preorder_eq] at h
    rcases List.mem_cons.mp h with rfl | h
    · exact mem_all_self _
    · obtain ⟨c, hc, hx⟩ := List.mem_flatMap.mp h
      have hmem := (List.mem_filter.mp hc).1
      exact mem_all_of_mem_children hmem (ih c hmem hx)

/-- No names lead from a resource back to it. -/
theorem followNames?_eq_some_self_iff {segments : List (List Char)} :
    r.followNames? segments = some r ↔ segments = [] := by
  constructor
  · intro h
    have hsize := (of_followNames?_eq_some h).2
    exact List.eq_nil_of_length_eq_zero (by omega)
  · rintro rfl
    rfl

theorem mem_all_of_find? {path : String} (h : r.find? path = some x) : x ∈ r.all := by
  have hfollow : ∀ segments, r.followNames? segments = some x → x ∈ r.all :=
    fun _ h => (of_followNames?_eq_some h).1
  unfold find? at h
  split at h
  · simp only at h
    split at h
    · obtain rfl := Option.some.inj h
      exact mem_all_self r
    · obtain ⟨rest, -, h⟩ := Option.bind_eq_some_iff.mp h
      exact hfollow _ h
  · exact hfollow _ h

/-! ## Segments that are names -/

theorem nameSegments_append_slash (s t : List Char) :
    nameSegments (s ++ '/' :: t) = nameSegments s ++ nameSegments t := by
  rw [nameSegments, Path.segments_append_slash, List.filter_append]
  rfl

theorem nameSegments_nil : nameSegments [] = [] := rfl

theorem nameSegments_cons_slash (s : List Char) : nameSegments ('/' :: s) = nameSegments s :=
  nameSegments_append_slash [] s

theorem nameSegments_append (s : List Char) (ht : Path.IsStem t) :
    nameSegments (s ++ t) = nameSegments s ++ nameSegments t := by
  cases t with
  | nil => rw [List.append_nil, nameSegments_nil, List.append_nil]
  | cons c t =>
    obtain rfl : c = '/' := Option.some.inj (ht.start.resolve_left (List.cons_ne_nil c t))
    rw [nameSegments_append_slash, nameSegments_cons_slash]

theorem nameSegments_dropFinalSlashes (s : List Char) :
    nameSegments (Path.dropFinalSlashes s) = nameSegments s := by
  induction s using List.reverseRecOn with
  | nil => rfl
  | append_singleton s c ih =>
    have hnil : Path.dropFinalSlashes [] = [] := rfl
    rw [Path.dropFinalSlashes_append]
    by_cases hc : c = '/'
    · subst hc
      rw [Path.dropFinalSlashes_cons_slash, hnil, if_pos rfl, if_pos rfl, ih,
        nameSegments_append_slash, nameSegments_nil, List.append_nil]
    · rw [Path.dropFinalSlashes_cons hc, hnil, if_neg (List.cons_ne_nil _ _)]

/-- The segments of a name that stands alone. -/
theorem nameSegments_of_not_mem (h : '/' ∉ s) (hne : s ≠ []) (hdot : s ≠ ['.']) :
    nameSegments s = [s] := by
  rw [nameSegments, Path.segments_of_not_mem h, List.filter_cons_of_pos]
  · rfl
  · exact decide_eq_true ⟨hne, hdot⟩

/-! ## Relative paths -/

/-- Going down segments is following those of them that are names, if none of these is two dots. -/
theorem descend?_eq (r : Resource) (segments : List (List Char)) :
    r.descend? segments =
      if ['.', '.'] ∈ segments.filter (fun s => s ≠ [] ∧ s ≠ ['.']) then none
      else r.followNames? (segments.filter fun s => s ≠ [] ∧ s ≠ ['.']) := by
  induction segments generalizing r with
  | nil => rfl
  | cons s segments ih =>
    rw [descend?]
    by_cases hstays : s = [] ∨ s = ['.']
    · have hskip : ¬ decide (s ≠ [] ∧ s ≠ ['.']) = true :=
        fun h => not_or.mpr (of_decide_eq_true h) hstays
      rw [if_pos hstays, ih, List.filter_cons, if_neg hskip]
    · have hkeep : decide (s ≠ [] ∧ s ≠ ['.']) = true := decide_eq_true (not_or.mp hstays)
      rw [if_neg hstays, List.filter_cons, if_pos hkeep]
      by_cases hdots : s = ['.', '.']
      · rw [if_pos hdots, if_pos (hdots ▸ List.mem_cons_self)]
      · have hmem : ∀ names : List (List Char), ['.', '.'] ∈ s :: names ↔ ['.', '.'] ∈ names :=
          fun names => List.mem_cons.trans (or_iff_right fun h => hdots h.symm)
        rw [if_neg hdots, followNames?]
        simp only [hmem]
        cases r.child? (String.ofList s) with
        | none => exact (ite_self none).symm
        | some c => exact ih c

/-- Only the names in a relative path matter, and two dots among them lead nowhere. -/
theorem resolve?_eq (r : Resource) (path : List Char) : r.resolve? path =
    if ['.', '.'] ∈ nameSegments path then none else r.followNames? (nameSegments path) :=
  r.descend?_eq (Path.segments path)

/-! ## Resources of JSON objects -/

/-- The path of the resource that names lead to, below a root of the given path. -/
def pathOf (root : String) (names : List String) : String :=
  names.foldl Path.child (Path.normalize root)

/-- The segments of names that are followed when the path of a resource is looked for. -/
def segmentsOf (names : List String) : List (List Char) :=
  names.flatMap fun name => nameSegments name.toList

/-- Names with slashes between them have the segments of the single names. -/
theorem nameSegments_intercalate (names : List String) :
    nameSegments (String.intercalate "/" names).toList = segmentsOf names := by
  rw [String.toList_intercalate]
  induction names with
  | nil => rfl
  | cons name names ih =>
    cases names with
    | nil =>
      rw [List.map_singleton, List.intercalate_singleton]
      exact (List.append_nil _).symm
    | cons name' names =>
      rw [List.map_cons, List.map_cons, List.intercalate_cons_cons, List.append_assoc,
        ← List.map_cons]
      exact (nameSegments_append_slash _ _).trans (congrArg _ ih)

theorem normalize_pathOf (root : String) (names : List String) :
    Path.normalize (pathOf root names) = pathOf root names := by
  rw [pathOf]
  rcases List.eq_nil_or_concat names with rfl | ⟨names, name, rfl⟩
  · exact Path.normalize_normalize root
  · rw [List.concat_eq_append, List.foldl_append, List.foldl_cons, List.foldl_nil]
    exact Path.normalize_child _ name

theorem pathOf_cons (root name : String) (names : List String) :
    pathOf root (name :: names) = pathOf (Path.child (Path.normalize root) name) names := by
  rw [pathOf, List.foldl_cons, pathOf, Path.normalize_child]

theorem pathOf_concat (root : String) (names : List String) (name : String) :
    pathOf root (names ++ [name]) = Path.child (pathOf root names) name := by
  rw [pathOf, List.foldl_append, List.foldl_cons, List.foldl_nil, pathOf]

/-- What names add to the stem of the root. -/
theorem stem_pathOf (root : String) (names : List String) :
    Path.stem (pathOf root names) = Path.stem (Path.normalize root) ++
      names.flatMap fun name => Path.dropFinalSlashes ('/' :: name.toList) := by
  induction names generalizing root with
  | nil => exact (List.append_nil _).symm
  | cons name names ih =>
    rw [pathOf_cons, ih, Path.normalize_child, Path.stem_child (Path.normalize_normalize root),
      List.flatMap_cons, List.append_assoc]

theorem isStem_flatMap (names : List String) :
    Path.IsStem (names.flatMap fun name => Path.dropFinalSlashes ('/' :: name.toList)) := by
  induction names with
  | nil => exact ⟨.inl rfl, rfl⟩
  | cons name names ih =>
    rw [List.flatMap_cons]
    exact Path.isStem_append (Path.isStem_dropFinalSlashes (.inr rfl)) ih

theorem nameSegments_flatMap (names : List String) :
    nameSegments (names.flatMap fun name => Path.dropFinalSlashes ('/' :: name.toList)) =
      segmentsOf names := by
  induction names with
  | nil => rfl
  | cons name names ih =>
    rw [List.flatMap_cons, nameSegments_append _ (isStem_flatMap names), ih,
      nameSegments_dropFinalSlashes, nameSegments_cons_slash]
    rfl

/-- Looking for the path that names have below a resource is following their segments. -/
theorem find?_pathOf (h : r.path = Path.normalize root) (names : List String) :
    r.find? (pathOf root names) = r.followNames? (segmentsOf names) := by
  have hnormal := normalize_pathOf root names
  have hstem := stem_pathOf root names
  have hadded := isStem_flatMap names
  have hsegments := nameSegments_flatMap names
  generalize (names.flatMap fun name => Path.dropFinalSlashes ('/' :: name.toList)) = t at *
  rw [find?, if_pos (Path.head?_of_normalize_eq hnormal)]
  simp only [hnormal]
  rw [← h] at hstem
  cases t with
  | nil =>
    have hpath : pathOf root names = r.path := by
      rw [← Path.ofStem_stem hnormal, hstem, List.append_nil, h,
        Path.ofStem_stem (Path.normalize_normalize root)]
    rw [if_pos hpath, ← hsegments]
    rfl
  | cons c t =>
    obtain rfl : c = '/' := Option.some.inj (hadded.start.resolve_left (List.cons_ne_nil c t))
    have hne : pathOf root names ≠ r.path := by
      intro hpath
      rw [hpath] at hstem
      simp at hstem
    have htext : (pathOf root names).toList = Path.stem r.path ++ ['/'] ++ t := by
      rw [← Path.ofStem_stem hnormal, hstem, Path.ofStem, if_neg (by simp),
        String.toList_ofList, List.append_assoc]
      rfl
    rw [if_neg hne, Path.below?_eq, htext, Text.afterPrefix?_append, Option.bind_some,
      ← hsegments, nameSegments_cons_slash]

theorem path_ofJson (path : String) (j : Json) : (ofJson path j).path = Path.normalize path := by
  cases j with
  | object members =>
    rw [ofJson]
    rfl
  | _ => rfl

/-- The content tree depends on the form of the path only. -/
theorem ofJson_congr {path' : String} (h : Path.normalize path = Path.normalize path') :
    ofJson path j = ofJson path' j := by
  cases j with
  | object members =>
    rw [ofJson, ofJson, new, new, h]
  | _ => rw [ofJson, ofJson, new, new, h] <;> exact nofun

theorem childOf_eq (parent : String) (m : String × Json) :
    childOf parent m = if m.2.isObject then [ofJson (Path.child parent m.1) m.2] else [] := by
  obtain ⟨name, j⟩ := m
  cases j with
  | object members =>
    have hform : Path.normalize (Path.join parent name) =
        Path.normalize (Path.child parent name) := (Path.normalize_child parent name).symm
    rw [childOf, ofJson_congr hform]
    rfl
  | _ =>
    rw [childOf]
    · rfl
    · exact nofun

theorem childrenOf_eq (parent : String) (members : List (String × Json)) :
    childrenOf parent members =
      (members.filter (·.2.isObject)).map fun m => ofJson (Path.child parent m.1) m.2 := by
  induction members with
  | nil => rfl
  | cons m members ih =>
    rw [childrenOf, childOf_eq, ih]
    by_cases h : m.2.isObject = true
    · rw [if_pos h, List.filter_cons, if_pos h]
      rfl
    · rw [if_neg h, List.filter_cons, if_neg h]
      rfl

theorem ofJson_pathOf_nil (root : String) (j : Json) : ofJson (pathOf root []) j = ofJson root j :=
  ofJson_congr (Path.normalize_normalize root)

theorem path_ofJson_pathOf (root : String) (names : List String) (j : Json) :
    (ofJson (pathOf root names) j).path = pathOf root names := by
  rw [path_ofJson, normalize_pathOf]

/-- The children of the resource of an object are the resources of its members that are objects. -/
theorem children_ofJson (path : String) (members : List (String × Json)) :
    (ofJson path (.object members)).children =
      (members.filter (·.2.isObject)).map fun m =>
        ofJson (Path.child (Path.normalize path) m.1) m.2 := by
  rw [ofJson]
  exact childrenOf_eq (Path.normalize path) members

/-- The resources of the tree of an object are those of the objects that names lead to. -/
theorem all_ofJson (root : String) (h : j.isObject = true) :
    (ofJson root j).all = j.objects.map fun q => ofJson (pathOf root q.1) (.object q.2) := by
  induction j using Json.induction_members generalizing root with
  | h j ih =>
    obtain ⟨members, rfl⟩ := Json.isObject_iff.mp h
    have hbelow : ∀ m ∈ members.filter (·.2.isObject),
        (ofJson (Path.child (Path.normalize root) m.1) m.2).all =
          m.2.objects.map fun q => ofJson (pathOf root (m.1 :: q.1)) (.object q.2) := by
      intro m hm
      obtain ⟨hmem, hobject⟩ := List.mem_filter.mp hm
      rw [ih members rfl m hmem _ hobject]
      simp only [pathOf_cons]
    rw [all_eq, children_ofJson, Json.objects_object, List.map_cons, ofJson_pathOf_nil,
      List.flatMap_map, List.flatMap_congr hbelow, Json.flatMap_objects_filter, List.map_flatMap]
    simp only [List.map_map]
    rfl

theorem all_ofJson_of_not_isObject (root : String) (h : j.isObject = false) :
    (ofJson root j).all = [ofJson root j] := by
  cases j with
  | object => cases h
  | _ =>
    rw [all_eq]
    rfl

theorem mem_all_ofJson_iff (h : j.isObject = true) :
    x ∈ (ofJson root j).all ↔
      ∃ names o, j.LeadsTo names o ∧ x = ofJson (pathOf root names) (.object o) := by
  rw [all_ofJson root h, List.mem_map]
  constructor
  · rintro ⟨⟨names, o⟩, hq, rfl⟩
    exact ⟨names, o, Json.mem_objects_iff.mp hq, rfl⟩
  · rintro ⟨names, o, hleads, rfl⟩
    exact ⟨(names, o), Json.mem_objects_iff.mpr hleads, rfl⟩

end Resource

end ContentFilter
