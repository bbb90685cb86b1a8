import ContentFilter.Proofs.Addressing
import ContentFilter.Proofs.StoredValue

/-!
# Content is found under its names

A name is plain if it can stand in a path for itself: it is not empty, has no slash in it and is
neither a dot nor two. Where the names of all objects are plain, the names that lead to an object,
with slashes between them, lead to its resource, and with the name of another member behind them to
the value of this member.
-/

namespace ContentFilter

/-- A name that stands for itself in a path. -/
structure PlainName (name : String) : Prop where
  ne_empty : name ≠ ""
  no_slash : '/' ∉ name.toList
  ne_dot : name ≠ "."
  ne_dots : name ≠ ".."

theorem plainName_iff (name : String) :
    PlainName name ↔ name ≠ "" ∧ '/' ∉ name.toList ∧ name ≠ "." ∧ name ≠ ".." :=
  ⟨fun ⟨h1, h2, h3, h4⟩ => ⟨h1, h2, h3, h4⟩, fun ⟨h1, h2, h3, h4⟩ => ⟨h1, h2, h3, h4⟩⟩

instance : DecidablePred PlainName :=
  fun name => decidable_of_iff _ (plainName_iff name).symm

/-- All names that lead to objects are plain. -/
def Json.PlainNames (j : Json) : Prop :=
  ∀ names o, j.LeadsTo names o → ∀ name ∈ names, PlainName name

instance (j : Json) : Decidable j.PlainNames :=
  decidable_of_iff (∀ q ∈ j.objects, ∀ name ∈ q.1, PlainName name)
    (Json.forall_mem_objects_iff (P := fun names _ => ∀ name ∈ names, PlainName name))

namespace Resource

/-- `x` is the resource of `tree` for the object with the members `o`, to which `names` lead; the
    root of the tree has the given path. -/
structure StandsFor (root : String) (tree : Resource) (names : List String)
    (o : List (String × Json)) (x : Resource) : Prop where
  /-- The names, joined by slashes, lead to it when it is looked up. -/
  found : tree.find? (String.intercalate "/" names) = some x
  /-- They lead to it when they are resolved. -/
  resolved : tree.resolve? (String.intercalate "/" names).toList = some x
  /-- Its own path leads to it. -/
  found_by_path : tree.find? x.path = some x
  /-- It has the last of the names. -/
  name : ∀ name, names.getLast? = some name → x.name = name
  /-- Its path is that of the root with the names joined to it. -/
  path : x.path = names.foldl Path.join (Path.normalize root)
  /-- The name of a member that is no object, behind the others, leads to what is held for it. -/
  value : ∀ name j, '/' ∉ name.toList → (name, j) ∈ o → j.isObject = false →
    Value.StoredFor j (tree.property (String.intercalate "/" (names ++ [name])))
  /-- Without such a member it leads to nothing. -/
  absent : ∀ name, '/' ∉ name.toList → (∀ j, (name, j) ∈ o → j.isObject = true) →
    tree.property (String.intercalate "/" (names ++ [name])) = .absent

/-- A walk through the tree comes to one resource for each object that names lead to. -/
structure ListsObjects (tree : Resource) (j : Json) : Prop where
  /-- The objects are those that names lead to. -/
  complete : ∀ names o, (names, o) ∈ j.objects ↔ j.LeadsTo names o
  /-- No names lead to two of them. -/
  once : (j.objects.map (·.1)).Nodup
  /-- The walk comes to their resources, in the order of the text. -/
  in_order : (Traversal.start tree fun _ => true).toList.map some =
    j.objects.map fun q => tree.find? (String.intercalate "/" q.1)
  /-- No path is that of two resources. -/
  distinct : ((Traversal.start tree fun _ => true).toList.map (·.path)).Nodup

end Resource

/-! ## Tables of distinct names -/

namespace NameTable

variable {α : Type} {pairs : List (String × α)} {name : String} {value : α}

theorem find?_foldl_of_not_mem (h : name ∉ pairs.map (·.1)) (t : NameTable α) :
    (pairs.foldl (fun t p => t.insert p.1 p.2) t).find? name = t.find? name := by
  induction pairs generalizing t with
  | nil => rfl
  | cons p pairs ih =>
    rw [List.map_cons, List.mem_cons, not_or] at h
    rw [List.foldl_cons, ih h.2, find?_insert, if_neg h.1]

theorem find?_foldl_of_mem (hnodup : (pairs.map (·.1)).Nodup) (h : (name, value) ∈ pairs)
    (t : NameTable α) :
    (pairs.foldl (fun t p => t.insert p.1 p.2) t).find? name = some value := by
  induction pairs generalizing t with
  | nil => cases h
  | cons p pairs ih =>
    rw [List.map_cons, List.nodup_cons] at hnodup
    rcases List.mem_cons.mp h with rfl | h
    · rw [List.foldl_cons, find?_foldl_of_not_mem hnodup.1, find?_insert, if_pos rfl]
    · rw [List.foldl_cons, ih hnodup.2 h]

end NameTable

namespace PlainName

variable {name : String}

theorem toList_ne_nil (h : PlainName name) : name.toList ≠ [] :=
  fun hnil => h.ne_empty (String.toList_injective hnil)

theorem toList_ne_dot (h : PlainName name) : name.toList ≠ ['.'] :=
  fun hdot => h.ne_dot (String.toList_injective hdot)

theorem toList_ne_dots (h : PlainName name) : name.toList ≠ ['.', '.'] :=
  fun hdots => h.ne_dots (String.toList_injective hdots)

theorem nameSegments_eq (h : PlainName name) : Resource.nameSegments name.toList = [name.toList] :=
  Resource.nameSegments_of_not_mem h.no_slash h.toList_ne_nil h.toList_ne_dot

/-- A plain name is added to a path as it is. -/
theorem child_eq_join (h : PlainName name) {parent : String} (hp : Path.normalize parent = parent) :
    Path.child parent name = Path.join parent name := by
  have hkept : Path.dropFinalSlashes ('/' :: name.toList) = '/' :: name.toList := by
    rw [Path.dropFinalSlashes_cons_slash, Path.dropFinalSlashes_of_not_mem h.no_slash,
      if_neg h.toList_ne_nil]
  refine String.toList_injective ?_
  rw [Path.child_eq_ofStem hp, hkept, Path.toList_join, Path.ofStem, if_neg (by simp),
    String.toList_ofList]

theorem nameOf_eq (h : PlainName name) : Path.nameOf name = name := by
  have hlast : Path.lastSegment ('/' :: name.toList) = name.toList := by
    rw [← List.nil_append ('/' :: name.toList), Path.lastSegment_append_slash,
      Path.lastSegment_of_not_mem h.no_slash]
  rw [Path.nameOf, h.child_eq_join rfl, Path.lastName_eq, Path.toList_join]
  exact (congrArg String.ofList hlast).trans String.ofList_toList

end PlainName

namespace Resource

variable {root : String} {j : Json} {names : List String} {members o : List (String × Json)}
  {r : Resource}

/-! ## Plain names on the way -/

theorem segmentsOf_eq_map (h : ∀ name ∈ names, PlainName name) :
    segmentsOf names = names.map String.toList := by
  induction names with
  | nil => rfl
  | cons name names ih =>
    rw [segmentsOf, List.flatMap_cons, (h name List.mem_cons_self).nameSegments_eq,
      List.map_cons, ← ih fun name hname => h name (List.mem_cons_of_mem _ hname)]
    rfl

/-- The path of a resource is that of the root with the names added one after the other. -/
theorem pathOf_eq_foldl (h : ∀ name ∈ names, PlainName name) :
    pathOf root names = names.foldl Path.join (Path.normalize root) := by
  induction names generalizing root with
  | nil => rfl
  | cons name names ih =>
    have hchild := (h name List.mem_cons_self).child_eq_join (Path.normalize_normalize root)
    have hrest : ∀ name ∈ names, PlainName name := fun n hn => h n (List.mem_cons_of_mem _ hn)
    rw [pathOf_cons, ih hrest, Path.normalize_child, hchild, List.foldl_cons]

theorem followableMembers_of_plain (hnodup : (members.map (·.1)).Nodup)
    (hplain : ∀ m ∈ members, m.2.isObject = true → PlainName m.1) :
    Json.FollowableMembers members := by
  have hnames : ((members.filter (·.2.isObject)).map fun m => Path.nameOf m.1) =
      (members.filter (·.2.isObject)).map (·.1) := by
    refine List.map_congr_left fun m hm => ?_
    obtain ⟨hmem, hobject⟩ := List.mem_filter.mp hm
    exact (hplain m hmem hobject).nameOf_eq
  constructor
  · intro m hm hobject
    have hm := hplain m hm hobject
    rw [hm.nameSegments_eq, hm.nameOf_eq]
  · rw [hnames]
    exact hnodup.sublist (List.filter_sublist.map _)

/-- Plain names can be followed, as far as they are distinct. -/
theorem followable_of_plainNames (hdistinct : j.NamesDistinct) (hplain : j.PlainNames) :
    j.Followable := by
  intro names members hleads
  refine followableMembers_of_plain (hdistinct names members hleads) ?_
  rintro ⟨name, held⟩ hm hobject
  obtain ⟨inner, rfl⟩ := Json.isObject_iff.mp hobject
  exact hplain _ _ (hleads.concat hm) name (by simp)

/-! ## Relative paths -/

theorem toList_intercalate (names : List String) :
    (String.intercalate "/" names).toList = ['/'].intercalate (names.map String.toList) :=
  String.toList_intercalate

theorem head?_intercalate_ne (h : ∀ name ∈ names, PlainName name) :
    (String.intercalate "/" names).toList.head? ≠ some '/' := by
  rw [toList_intercalate]
  cases names with
  | nil => nofun
  | cons name names =>
    have hname := h name List.mem_cons_self
    obtain ⟨c, s, hs⟩ := List.exists_cons_of_ne_nil hname.toList_ne_nil
    have hc : c ≠ '/' := fun hslash => hname.no_slash (by rw [hs, hslash]; exact List.mem_cons_self)
    have hhead : (['/'].intercalate ((name :: names).map String.toList)).head? = some c := by
      cases names with
      | nil => rw [List.map_cons, List.map_nil, List.intercalate_singleton, hs, List.head?_cons]
      | cons name' names =>
        rw [List.map_cons, List.map_cons, List.intercalate_cons_cons, hs]
        rfl
    rw [hhead]
    exact fun heq => hc (Option.some.inj heq)

/-- A relative path of plain names is followed name by name. -/
theorem find?_intercalate (h : ∀ name ∈ names, PlainName name) (r : Resource) :
    r.find? (String.intercalate "/" names) = r.followNames? (names.map String.toList) := by
  rw [find?, if_neg (head?_intercalate_ne h), nameSegments_intercalate, segmentsOf_eq_map h]

theorem resolve?_intercalate (h : ∀ name ∈ names, PlainName name) (r : Resource) :
    r.resolve? (String.intercalate "/" names).toList =
      r.followNames? (names.map String.toList) := by
  rw [resolve?_eq, nameSegments_intercalate, segmentsOf_eq_map h, if_neg]
  intro hdots
  obtain ⟨name, hname, heq⟩ := List.mem_map.mp hdots
  exact (h name hname).toList_ne_dots heq

theorem intercalate_concat {segments : List (List Char)} (hne : segments ≠ []) (s : List Char) :
    ['/'].intercalate (segments ++ [s]) = ['/'].intercalate segments ++ '/' :: s := by
  induction segments with
  | nil => exact absurd rfl hne
  | cons t segments ih =>
    cases segments with
    | nil => simp [List.intercalate_cons_cons]
    | cons t' segments =>
      rw [List.cons_append, List.cons_append, List.intercalate_cons_cons, ← List.cons_append,
        ih (List.cons_ne_nil _ _), List.intercalate_cons_cons]
      simp only [List.append_assoc]

/-- A property by the path of its resource and its name. -/
theorem property_intercalate {x : Resource} {name : String} (hname : '/' ∉ name.toList)
    (hx : r.resolve? (String.intercalate "/" names).toList = some x) :
    r.property (String.intercalate "/" (names ++ [name])) =
      (x.visibleProperties.find? name).getD .absent := by
  cases names with
  | nil =>
    obtain rfl : r = x := Option.some.inj hx
    have hself : String.intercalate "/" ([] ++ [name]) = name := by
      refine String.toList_injective ?_
      rw [toList_intercalate, List.nil_append, List.map_singleton, List.intercalate_singleton]
    rw [hself]
    exact property_of_not_mem r hname
  | cons name' names =>
    have hpath : (String.intercalate "/" (name' :: names ++ [name])).toList =
        (String.intercalate "/" (name' :: names)).toList ++ '/' :: name.toList := by
      rw [toList_intercalate, toList_intercalate, List.map_append, List.map_singleton,
        intercalate_concat (by simp)]
    rw [property_of_resolve? hpath hname hx, String.ofList_toList]

/-! ## Members that are properties -/

theorem propertiesOf_eq (members : List (String × Json)) :
    propertiesOf members = .ofList ((members.filter (!·.2.isObject)).map fun m =>
      (m.1, Value.ofStored m.2)) := by
  rw [propertiesOf]
  congr 1
  induction members with
  | nil => rfl
  | cons m members ih =>
    obtain ⟨name, j⟩ := m
    cases j with
    | object => exact ih
    | _ => exact congrArg (_ :: ·) ih

theorem visibleProperties_ofJson (path : String) (members : List (String × Json)) :
    (ofJson path (.object members)).visibleProperties = propertiesOf members := by
  rw [ofJson]
  rfl

/-- A member that is no object is found with its value. -/
theorem find?_propertiesOf_of_mem (hnodup : (members.map (·.1)).Nodup) {name : String}
    (hmem : (name, j) ∈ members) (hobject : j.isObject = false) :
    (propertiesOf members).find? name = some (Value.ofStored j) := by
  rw [propertiesOf_eq]
  refine NameTable.find?_foldl_of_mem ?_ ?_ _
  · rw [List.map_map]
    exact hnodup.sublist (List.filter_sublist.map _)
  · refine List.mem_map.mpr ⟨(name, j), List.mem_filter.mpr ⟨hmem, ?_⟩, rfl⟩
    rw [hobject]
    rfl

/-- Nothing else is found. -/
theorem find?_propertiesOf_of_forall {name : String}
    (h : ∀ j, (name, j) ∈ members → j.isObject = true) :
    (propertiesOf members).find? name = none := by
  rw [propertiesOf_eq]
  refine (NameTable.find?_foldl_of_not_mem ?_ _).trans (NameTable.find?_empty name)
  intro hmem
  rw [List.map_map] at hmem
  obtain ⟨⟨name', j⟩, hm, rfl⟩ := List.mem_map.mp hmem
  obtain ⟨hm, hobject⟩ := List.mem_filter.mp hm
  rw [h j hm] at hobject
  cases hobject

/-! ## The whole tree -/

/-- The resource that names lead to is found under them, by both ways of looking up. -/
theorem find?_under_names (root : String) (hdistinct : j.NamesDistinct) (hplain : j.PlainNames)
    (hleads : j.LeadsTo names o) :
    (ofJson root j).find? (String.intercalate "/" names) =
        some (ofJson (pathOf root names) (.object o)) ∧
      (ofJson root j).resolve? (String.intercalate "/" names).toList =
        some (ofJson (pathOf root names) (.object o)) := by
  have hnames := hplain names o hleads
  have hfollow :=
    followNames?_segmentsOf root (followable_of_plainNames hdistinct hplain) hleads
  rw [segmentsOf_eq_map hnames] at hfollow
  exact ⟨(find?_intercalate hnames _).trans hfollow, (resolve?_intercalate hnames _).trans hfollow⟩

theorem name_of_plain (hnames : ∀ name ∈ names, PlainName name) {name : String}
    (hlast : names.getLast? = some name) (j : Json) :
    (ofJson (pathOf root names) j).name = name := by
  obtain ⟨init, rfl⟩ := List.getLast?_eq_some_iff.mp hlast
  have hname := hnames name (by simp)
  have hne : nameSegments name.toList ≠ [] := by
    rw [hname.nameSegments_eq]
    exact List.cons_ne_nil _ _
  rw [pathOf_concat, ← normalize_pathOf, name_ofJson_child _ _ hne, hname.nameOf_eq]

theorem standsFor_ofJson (hdistinct : j.NamesDistinct) (hplain : j.PlainNames)
    (hleads : j.LeadsTo names o) :
    StandsFor root (ofJson root j) names o (ofJson (pathOf root names) (.object o)) := by
  have hnames := hplain names o hleads
  have hfollowable := followable_of_plainNames hdistinct hplain
  obtain ⟨hfind, hresolve⟩ := find?_under_names root hdistinct hplain hleads
  have hpath := path_ofJson_pathOf root names (.object o)
  constructor
  case found => exact hfind
  case resolved => exact hresolve
  case found_by_path =>
    rw [hpath]
    exact find?_path_ofJson root hfollowable hleads
  case name =>
    intro name hlast
    exact name_of_plain hnames hlast _
  case path => rw [hpath, pathOf_eq_foldl hnames]
  case value =>
    intro name j hname hmem hobject
    rw [property_intercalate hname hresolve, visibleProperties_ofJson,
      find?_propertiesOf_of_mem (hdistinct names o hleads) hmem hobject]
    exact Value.storedFor_ofStored j
  case absent =>
    intro name hname habsent
    rw [property_intercalate hname hresolve, visibleProperties_ofJson,
      find?_propertiesOf_of_forall habsent]
    rfl

theorem listsObjects_ofJson (hobject : j.isObject = true) (hdistinct : j.NamesDistinct)
    (hplain : j.PlainNames) : (ofJson root j).ListsObjects j := by
  have hfollowable := followable_of_plainNames hdistinct hplain
  constructor
  case complete => exact fun names o => Json.mem_objects_iff
  case once =>
    exact nodup_map_of_imp (nodup_segmentsOf hfollowable) fun _ _ => congrArg segmentsOf
  case in_order =>
    rw [toList_start, all_ofJson root hobject, List.map_map]
    refine List.map_congr_left fun q hq => ?_
    exact (find?_under_names root hdistinct hplain (Json.mem_objects_iff.mp hq)).1.symm
  case distinct => exact (addressable_of_followable root hfollowable).distinct

/-- The content of an object is found again under its names, whatever the path of the root, if the
    names of all objects inside it are plain. No object has two members of one name, as it is with
    all that is read from texts. -/
theorem found_under_names :
    (∀ text j, Json.ofText? text = some j → j.NamesDistinct) ∧
    ∀ (root : String) (members : List (String × Json)),
      (Json.object members).NamesDistinct → (Json.object members).PlainNames →
      (∀ names o, (Json.object members).LeadsTo names o →
        ∃ x, StandsFor root (ofJson root (.object members)) names o x) ∧
      (ofJson root (.object members)).ListsObjects (.object members) := by
  refine ⟨fun text j h => Json.namesDistinct_of_ofText? h, ?_⟩
  intro root members hdistinct hplain
  refine ⟨?_, listsObjects_ofJson rfl hdistinct hplain⟩
  intro names o hleads
  exact ⟨_, standsFor_ofJson hdistinct hplain hleads⟩

/-- The members of a page with two objects below its paragraph. -/
def pageMembers : List (String × Json) :=
  [("title", .text "Home"),
    ("par", .object [("text", .object [("size", .number (.integer 3))]), ("image", .object [])])]

/-- A page below a root without a slash in front and with one at its end. -/
theorem found_under_names_page :
    (Json.object pageMembers).NamesDistinct ∧ (Json.object pageMembers).PlainNames ∧
    (∃ x, StandsFor "content/page/" (ofJson "content/page/" (.object pageMembers))
      ["par", "text"] [("size", .number (.integer 3))] x) ∧
    (ofJson "content/page/" (.object pageMembers)).ListsObjects (.object pageMembers) := by
  have hdistinct : (Json.object pageMembers).NamesDistinct := by decide
  have hplain : (Json.object pageMembers).PlainNames := by decide
  have hleads : (Json.object pageMembers).LeadsTo ["par", "text"]
      [("size", .number (.integer 3))] :=
    .inside (.tail _ (.head _)) (.inside (.head _) (.here _))
  obtain ⟨hfound, hlists⟩ :=
    found_under_names.2 "content/page/" pageMembers hdistinct hplain
  exact ⟨hdistinct, hplain, hfound _ _ hleads, hlists⟩

end Resource

end ContentFilter
