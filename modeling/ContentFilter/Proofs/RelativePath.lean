import ContentFilter.Proofs.Lookup

/-!
# Relative paths

A relative path can be followed in two ways: by resolving it, where two dots lead nowhere, and by
looking it up, where they are a name. Both follow the parts that are names and pass over empty ones
and single dots, so they lead to the same resource as long as no part is two dots. A path can be
cut at any of its slashes, and what the front leads to is where the back goes on from.
-/

namespace ContentFilter

namespace Path

/-- The parts of a path that lead somewhere: neither empty nor a single dot. -/
def steps (parts : List String) : List String :=
  parts.filter fun part => part ≠ "" ∧ part ≠ "."

theorem toList_append_slash (a b : String) :
    (a ++ "/" ++ b).toList = a.toList ++ '/' :: b.toList := by
  simp

/-- A path is its segments with slashes between them. -/
theorem intercalate_segments (path : List Char) : ['/'].intercalate (segments path) = path := by
  induction path with
  | nil => rfl
  | cons c path ih =>
    obtain ⟨s, ss, hsegments⟩ := List.exists_cons_of_ne_nil (segments_ne_nil path)
    rw [segments, hsegments]
    rw [hsegments] at ih
    by_cases hslash : c = '/'
    · rw [if_pos hslash, List.intercalate_cons_cons, ih, hslash]
      rfl
    · rw [if_neg hslash]
      cases ss with
      | nil =>
        rw [List.intercalate_singleton] at ih ⊢
        rw [ih]
      | cons s' ss =>
        rw [List.intercalate_cons_cons] at ih ⊢
        rw [List.cons_append, List.cons_append, ih]

end Path

namespace Resource

variable {r : Resource} {parts parts' : List String}

theorem segmentsOf_cons (part : String) (parts : List String) :
    segmentsOf (part :: parts) = nameSegments part.toList ++ segmentsOf parts :=
  List.flatMap_cons

theorem segmentsOf_steps (parts : List String) :
    segmentsOf (Path.steps parts) = segmentsOf parts := by
  induction parts with
  | nil => rfl
  | cons part parts ih =>
    rw [Path.steps] at ih
    rw [Path.steps, List.filter_cons, segmentsOf_cons]
    split
    · rw [segmentsOf_cons, ih]
    · rename_i hpass
      have hnone : nameSegments part.toList = [] := by
        rw [decide_eq_true_iff, not_and_or, not_not, not_not] at hpass
        rcases hpass with rfl | rfl <;> rfl
      rw [ih, hnone, List.nil_append]

theorem nameSegments_eq_of_steps_eq (h : Path.steps parts = Path.steps parts') :
    nameSegments (String.intercalate "/" parts).toList =
      nameSegments (String.intercalate "/" parts').toList := by
  rw [nameSegments_intercalate, nameSegments_intercalate, ← segmentsOf_steps parts, h,
    segmentsOf_steps]

/-- Empty parts and single dots may be put in and left out anywhere. -/
theorem resolve?_eq_of_steps_eq (r : Resource) (h : Path.steps parts = Path.steps parts') :
    r.resolve? (String.intercalate "/" parts).toList =
      r.resolve? (String.intercalate "/" parts').toList := by
  rw [resolve?_eq, resolve?_eq, nameSegments_eq_of_steps_eq h]

theorem dots_mem_nameSegments_iff (path : List Char) :
    ['.', '.'] ∈ nameSegments path ↔ ['.', '.'] ∈ Path.segments path := by
  rw [nameSegments, List.mem_filter]
  exact and_iff_left (by decide)

theorem resolve?_of_dots_mem (r : Resource) {path : List Char}
    (h : ['.', '.'] ∈ Path.segments path) : r.resolve? path = none := by
  rw [resolve?_eq, if_pos ((dots_mem_nameSegments_iff path).mpr h)]

theorem find?_eq_resolve? (r : Resource) {path : String} (hrelative : path.toList.head? ≠ some '/')
    (hdots : ['.', '.'] ∉ Path.segments path.toList) : r.find? path = r.resolve? path.toList := by
  rw [find?, if_neg hrelative, resolve?_eq, if_neg]
  rwa [dots_mem_nameSegments_iff]

theorem property_append_slash (r : Resource) (a : String) {key : String} (hkey : '/' ∉ key.toList) :
    r.property (a ++ "/" ++ key) =
      (r.resolve? a.toList).elim Value.absent fun x => x.property key := by
  have hpath := Path.toList_append_slash a key
  cases ha : r.resolve? a.toList with
  | none => exact property_of_unresolved hpath hkey ha
  | some x =>
    rw [property_of_resolve? hpath hkey ha, String.ofList_toList]
    exact (property_of_not_mem x hkey).symm

/-- Relative paths are put together by slashes, whether they lead to resources or to properties.
    A path is given by its parts, and those that are empty or a single dot do not matter; two dots
    lead nowhere. Without them a relative path is resolved to what is found by looking it up. -/
theorem relative_paths (r : Resource) :
    (∀ a b : String, r.resolve? (a ++ "/" ++ b).toList =
      (r.resolve? a.toList).bind fun x => x.resolve? b.toList) ∧
    (∀ a key : String, '/' ∉ key.toList → r.property (a ++ "/" ++ key) =
      (r.resolve? a.toList).elim Value.absent fun x => x.property key) ∧
    (∀ path : String, ['.', '.'] ∈ Path.segments path.toList → r.resolve? path.toList = none) ∧
    (∀ path : String,
      String.intercalate "/" ((Path.segments path.toList).map String.ofList) = path) ∧
    (∀ parts parts' : List String, Path.steps parts = Path.steps parts' →
      r.resolve? (String.intercalate "/" parts).toList =
        r.resolve? (String.intercalate "/" parts').toList) ∧
    ∀ path : String, path.toList.head? ≠ some '/' → ['.', '.'] ∉ Path.segments path.toList →
      r.find? path = r.resolve? path.toList := by
  refine ⟨?_, fun a key hkey => r.property_append_slash a hkey,
    fun path h => r.resolve?_of_dots_mem h, ?_, fun parts parts' h => r.resolve?_eq_of_steps_eq h,
    fun path hrelative hdots => r.find?_eq_resolve? hrelative hdots⟩
  · intro a b
    rw [Path.toList_append_slash]
    exact r.resolve?_append_slash a.toList b.toList
  · intro path
    refine String.toList_injective ?_
    rw [String.toList_intercalate, List.map_map]
    have hid : String.toList ∘ String.ofList = id := funext fun _ => String.toList_ofList
    rw [hid, List.map_id]
    exact Path.intercalate_segments path.toList

/-- A tree with two siblings of one name, and a name of two dots. -/
def siblings : Resource :=
  (((new "/site").withChild "page" fun c => c.withProperty "title" (.text "first")).withChild "page"
    fun c => c.withProperty "title" (.text "second")).withChild ".." fun c => c

theorem relative_paths_siblings :
    '/' ∉ "title".toList ∧ siblings.property (".//page" ++ "/" ++ "title") = .text "first" ∧
    ['.', '.'] ∈ Path.segments "page/..".toList ∧ siblings.resolve? "page/..".toList = none ∧
    Path.steps ["", "page", ".", ""] = Path.steps ["page"] ∧
    siblings.resolve? (String.intercalate "/" ["", "page", ".", ""]).toList =
      siblings.resolve? (String.intercalate "/" ["page"]).toList ∧
    "./page/".toList.head? ≠ some '/' ∧ ['.', '.'] ∉ Path.segments "./page/".toList ∧
    siblings.find? "./page/" = siblings.resolve? "./page/".toList := by
  have hkey : '/' ∉ "title".toList := by decide
  have hdots : ['.', '.'] ∈ Path.segments "page/..".toList := by decide
  have hsteps : Path.steps ["", "page", ".", ""] = Path.steps ["page"] := by decide
  have hrelative : "./page/".toList.head? ≠ some '/' := by decide
  have hnoDots : ['.', '.'] ∉ Path.segments "./page/".toList := by decide
  obtain ⟨-, hproperty, hnowhere, -, hsame, hfind⟩ := relative_paths siblings
  refine ⟨hkey, ?_, hdots, hnowhere _ hdots, hsteps, hsame _ _ hsteps, hrelative, hnoDots,
    hfind _ hrelative hnoDots⟩
  rw [hproperty _ _ hkey]
  cbv

end Resource

end ContentFilter
