import ContentFilter.Resource.Basic
import Mathlib.Data.List.DropRight

/-!
# Paths put together and taken apart

The path of a child is that of its parent, a slash and the name of the child, put into the form
that the paths of resources have. What a path adds to the one above it is best seen on stems: the
stem of a path is the path itself, but for the path of the slash alone, which has the empty one.
Below a path in its form, the stem of a child is the stem of the parent followed by what the name
adds, whatever the name is.
-/

namespace ContentFilter

namespace Path

open Text

/-! ## Slashes at the end -/

variable {s t : List Char} {path parent name : String}

theorem dropFinalSlashes_append (s t : List Char) :
    dropFinalSlashes (s ++ t) =
      if dropFinalSlashes t = [] then dropFinalSlashes s else s ++ dropFinalSlashes t := by
  unfold dropFinalSlashes
  rw [List.reverse_append, List.dropWhile_append]
  by_cases h : t.reverse.dropWhile (· = '/') = []
  · rw [h]
    rfl
  · rw [if_neg (by simpa using h), if_neg (by simpa using h), List.reverse_append,
      List.reverse_reverse]

theorem dropFinalSlashes_dropFinalSlashes (s : List Char) :
    dropFinalSlashes (dropFinalSlashes s) = dropFinalSlashes s :=
  List.rdropWhile_idempotent _ s

/-- Before the slashes at its end a text begins as it does with them. -/
theorem dropFinalSlashes_cons {c : Char} (hc : c ≠ '/') (s : List Char) :
    dropFinalSlashes (c :: s) = c :: dropFinalSlashes s := by
  have hlast : dropFinalSlashes [c] = [c] := by
    simp [dropFinalSlashes, hc]
  rw [← List.singleton_append, dropFinalSlashes_append, hlast]
  split
  · rename_i h
    rw [h]
  · rfl

theorem dropFinalSlashes_of_not_mem (h : '/' ∉ s) : dropFinalSlashes s = s := by
  refine List.rdropWhile_eq_self_iff.mpr fun hne hlast => ?_
  rw [decide_eq_true_iff] at hlast
  exact h (hlast ▸ List.getLast_mem hne)

/-- What is left of a text that begins with a slash is nothing or begins with a slash. -/
theorem dropFinalSlashes_cons_slash (s : List Char) :
    dropFinalSlashes ('/' :: s) = if dropFinalSlashes s = [] then [] else '/' :: dropFinalSlashes s
    := by
  rw [← List.singleton_append, dropFinalSlashes_append]
  rfl

/-! ## Paths in the form of resources -/

/-- The path without the slash that stands for the root of all paths. -/
def stem (path : String) : List Char :=
  if path = "/" then [] else path.toList

/-- The path of the child with the given name. -/
def child (parent name : String) : String :=
  normalize (join parent name)

/-- A text that may stand behind a path: nothing, or a slash and more without a slash at its end. -/
structure IsStem (s : List Char) : Prop where
  /-- It begins with a slash. -/
  start : s = [] ∨ s.head? = some '/'
  /-- It does not end with one. -/
  last : dropFinalSlashes s = s

theorem IsStem.ne_slash (h : IsStem s) : s ≠ ['/'] := by
  rintro rfl
  cases h.last

theorem isStem_dropFinalSlashes (h : s = [] ∨ s.head? = some '/') :
    IsStem (dropFinalSlashes s) := by
  refine ⟨?_, dropFinalSlashes_dropFinalSlashes s⟩
  rcases h with rfl | h
  · exact .inl rfl
  · obtain ⟨r, rfl⟩ := List.head?_eq_some_iff.mp h
    rw [dropFinalSlashes_cons_slash]
    split
    · exact .inl rfl
    · exact .inr rfl

/-- The path with the given stem. -/
def ofStem (s : List Char) : String :=
  if s = [] then "/" else String.ofList s

theorem stem_ofStem (h : IsStem s) : stem (ofStem s) = s := by
  unfold ofStem
  split
  · rename_i hs
    rw [hs]
    rfl
  · rw [stem, if_neg, String.toList_ofList]
    intro hslash
    exact h.ne_slash (by rw [← String.toList_ofList (l := s), hslash]; rfl)

theorem normalize_eq_ofStem (h : s = [] ∨ s.head? = some '/') :
    normalize (String.ofList s) = ofStem (dropFinalSlashes s) := by
  have hstem := isStem_dropFinalSlashes h
  unfold normalize
  rw [String.toList_ofList]
  split
  · rename_i hnil
    rw [hnil]
    rfl
  · rename_i r hr
    rw [hr]
    rfl
  · rename_i hnil hcons
    rcases hstem.start with hs | hs
    · exact absurd hs hnil
    · obtain ⟨r, hr⟩ := List.head?_eq_some_iff.mp hs
      exact absurd hr (hcons r)

/-- Every path has its form by a stem. -/
theorem exists_normalize_eq_ofStem (path : String) :
    ∃ s, IsStem s ∧ normalize path = ofStem s := by
  unfold normalize
  have hlast := dropFinalSlashes_dropFinalSlashes path.toList
  split
  · exact ⟨[], ⟨.inl rfl, rfl⟩, rfl⟩
  · rename_i r hr
    rw [hr] at hlast
    exact ⟨'/' :: r, ⟨.inr rfl, hlast⟩, rfl⟩
  · rename_i hnil hcons
    refine ⟨'/' :: dropFinalSlashes path.toList, ⟨.inr rfl, ?_⟩, rfl⟩
    rw [dropFinalSlashes_cons_slash, if_neg (by rwa [hlast]), hlast]

/-- A path is in the form of resources if it is that of its stem. -/
theorem normalize_eq_self_iff : normalize path = path ↔ ∃ s, IsStem s ∧ path = ofStem s := by
  constructor
  · intro h
    obtain ⟨s, hs, hpath⟩ := exists_normalize_eq_ofStem path
    exact ⟨s, hs, h ▸ hpath⟩
  · rintro ⟨s, hs, rfl⟩
    unfold ofStem
    split
    · rfl
    · rename_i hne
      rw [normalize_eq_ofStem hs.start, hs.last, ofStem, if_neg hne]

theorem normalize_normalize (path : String) : normalize (normalize path) = normalize path :=
  normalize_eq_self_iff.mpr (exists_normalize_eq_ofStem path)

theorem isStem_stem (h : normalize path = path) : IsStem (stem path) := by
  obtain ⟨s, hs, rfl⟩ := normalize_eq_self_iff.mp h
  rwa [stem_ofStem hs]

theorem ofStem_stem (h : normalize path = path) : ofStem (stem path) = path := by
  obtain ⟨s, hs, rfl⟩ := normalize_eq_self_iff.mp h
  rw [stem_ofStem hs]

theorem head?_of_normalize_eq (h : normalize path = path) : path.toList.head? = some '/' := by
  obtain ⟨s, hs, rfl⟩ := normalize_eq_self_iff.mp h
  unfold ofStem
  split
  · rfl
  · rename_i hne
    rw [String.toList_ofList]
    exact hs.start.resolve_left hne

theorem toList_join (parent name : String) :
    (join parent name).toList = stem parent ++ '/' :: name.toList := by
  unfold join stem
  split
  · simp
  · simp

/-- What a name adds to the stem of the path above it. -/
theorem child_eq_ofStem (h : normalize parent = parent) (name : String) :
    child parent name = ofStem (stem parent ++ dropFinalSlashes ('/' :: name.toList)) := by
  have hstem := isStem_stem h
  have hstart : stem parent ++ '/' :: name.toList = [] ∨
      (stem parent ++ '/' :: name.toList).head? = some '/' := by
    right
    rcases hstem.start with hs | hs
    · rw [hs]
      rfl
    · rw [List.head?_append, hs]
      rfl
  rw [child, ← String.ofList_toList (s := join parent name), toList_join,
    normalize_eq_ofStem hstart, dropFinalSlashes_append]
  split
  · rename_i hname
    rw [hname, List.append_nil, hstem.last]
  · rfl

theorem normalize_child (parent name : String) :
    normalize (child parent name) = child parent name :=
  normalize_normalize _

theorem isStem_append (hs : IsStem s) (ht : IsStem t) : IsStem (s ++ t) := by
  constructor
  · rcases hs.start with rfl | h
    · exact ht.start
    · rw [List.head?_append, h]
      exact .inr rfl
  · rw [dropFinalSlashes_append, ht.last]
    split
    · rename_i h
      rw [h, List.append_nil, hs.last]
    · rfl

theorem stem_child (h : normalize parent = parent) (name : String) :
    stem (child parent name) = stem parent ++ dropFinalSlashes ('/' :: name.toList) := by
  rw [child_eq_ofStem h]
  exact stem_ofStem (isStem_append (isStem_stem h) (isStem_dropFinalSlashes (.inr rfl)))

theorem below?_eq (ancestor path : String) :
    below? ancestor path = afterPrefix? (stem ancestor ++ ['/']) path.toList := by
  unfold below? stem
  split
  · rfl
  · rfl

/-! ## The last segment -/

theorem splitLast?_of_not_mem (h : '/' ∉ s) : splitLast? s = none := by
  have hnil : s.reverse.dropWhile (· ≠ '/') = [] := by
    refine List.dropWhile_eq_nil_iff.mpr fun c hc => decide_eq_true ?_
    rintro rfl
    exact h (List.mem_reverse.mp hc)
  rw [splitLast?, hnil]

theorem reverse_append_slash (s t : List Char) :
    (s ++ '/' :: t).reverse = t.reverse ++ '/' :: s.reverse := by
  simp

theorem ne_slash_of_mem_reverse (h : '/' ∉ t) : ∀ c ∈ t.reverse, decide (c ≠ '/') = true := by
  intro c hc
  refine decide_eq_true ?_
  rintro rfl
  exact h (List.mem_reverse.mp hc)

theorem splitLast?_append (s : List Char) (h : '/' ∉ t) :
    splitLast? (s ++ '/' :: t) = some (s, t) := by
  have hne := ne_slash_of_mem_reverse h
  have hdrop : (s ++ '/' :: t).reverse.dropWhile (· ≠ '/') = '/' :: s.reverse := by
    rw [reverse_append_slash, List.dropWhile_append_of_pos hne]
    rfl
  have htake : (s ++ '/' :: t).reverse.takeWhile (· ≠ '/') = t.reverse := by
    rw [reverse_append_slash, List.takeWhile_append_of_pos hne]
    exact List.append_nil _
  rw [splitLast?, hdrop, htake]
  simp

/-- What follows the last slash of a text. -/
def lastSegment (s : List Char) : List Char :=
  (s.reverse.takeWhile (· ≠ '/')).reverse

theorem lastName_eq (path : String) : lastName path = String.ofList (lastSegment path.toList) := rfl

theorem lastSegment_append_slash (s t : List Char) :
    lastSegment (s ++ '/' :: t) = lastSegment t := by
  have hslash : ('/' :: s.reverse).takeWhile (· ≠ '/') = [] := rfl
  unfold lastSegment
  rw [reverse_append_slash, List.takeWhile_append, hslash]
  split
  · rename_i hlen
    rw [List.append_nil, (List.takeWhile_prefix _).eq_of_length hlen]
  · rfl

theorem lastSegment_of_not_mem (h : '/' ∉ s) : lastSegment s = s := by
  unfold lastSegment
  rw [List.takeWhile_eq_self_iff.mpr (ne_slash_of_mem_reverse h), List.reverse_reverse]

theorem lastName_ofStem_append (s : List Char) (ht : IsStem t) (hne : t ≠ []) :
    lastName (ofStem (s ++ t)) = lastName (ofStem t) := by
  obtain ⟨r, rfl⟩ := List.head?_eq_some_iff.mp (ht.start.resolve_left hne)
  have hr : lastSegment ('/' :: r) = lastSegment r := lastSegment_append_slash [] r
  rw [ofStem, if_neg (by simp), ofStem, if_neg (by simp), lastName_eq, lastName_eq,
    String.toList_ofList, String.toList_ofList, lastSegment_append_slash, hr]

end Path

namespace Resource

/-! ## Properties by their paths -/

variable {s t : List Char}

/-- A path without slashes is the name of a property of the resource itself. -/
theorem property_of_not_mem {path : String} (r : Resource) (h : '/' ∉ path.toList) :
    r.property path = (r.visibleProperties.find? path).getD .absent := by
  rw [property, Path.splitLast?_of_not_mem h]

/-- The last segment of a path is the name of a property of the resource that the others lead to. -/
theorem property_of_resolve? {r x : Resource} {path : String} (hpath : path.toList = s ++ '/' :: t)
    (ht : '/' ∉ t) (hx : r.resolve? s = some x) :
    r.property path = (x.visibleProperties.find? (String.ofList t)).getD .absent := by
  rw [property, hpath, Path.splitLast?_append s ht]
  simp only [hx]

/-- Where the others lead nowhere there is no property. -/
theorem property_of_unresolved {r : Resource} {path : String} (hpath : path.toList = s ++ '/' :: t)
    (ht : '/' ∉ t) (h : r.resolve? s = none) : r.property path = .absent := by
  rw [property, hpath, Path.splitLast?_append s ht]
  simp only [h]

end Resource

end ContentFilter
