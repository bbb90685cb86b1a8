import ContentFilter.Resource.Basic

/-!
# Walking through a content tree

A walk visits a resource before the ones below it, and siblings in order. Only the children that a
selector accepts are visited; what is below a rejected one is left out with it. The walk keeps the
resources that it is still to visit, the next one first. `preorder` says in one piece what comes
out.
-/

namespace ContentFilter

namespace Resource

mutual

/-- How many resources the tree has. -/
def size : Resource → Nat
  | ⟨_, _, _, children⟩ => sizeAll children + 1

/-- How many resources the trees have together. -/
def sizeAll : List Resource → Nat
  | [] => 0
  | r :: rs => size r + sizeAll rs

end

mutual

/-- The resource, and below it in order all those that `accepts` lets through on every level. -/
def preorder (accepts : Resource → Bool) : Resource → List Resource
  | ⟨path, properties, existing, children⟩ =>
    ⟨path, properties, existing, children⟩ :: preorderAll accepts children

/-- `preorder` of each of the resources that `accepts` lets through. -/
def preorderAll (accepts : Resource → Bool) : List Resource → List Resource
  | [] => []
  | r :: rs =>
    (if accepts r then preorder accepts r else []) ++ preorderAll accepts rs

end

theorem sizeAll_append (a b : List Resource) : sizeAll (a ++ b) = sizeAll a + sizeAll b := by
  induction a with
  | nil => simp [sizeAll]
  | cons r rs ih => simp [sizeAll, ih]; omega

theorem sizeAll_filter_le (accepts : Resource → Bool) (rs : List Resource) :
    sizeAll (rs.filter accepts) ≤ sizeAll rs := by
  induction rs with
  | nil => simp
  | cons r rs ih =>
    rw [List.filter_cons]
    split <;> simp only [sizeAll] <;> omega

theorem size_eq (r : Resource) : r.size = sizeAll r.children + 1 := by
  cases r
  simp [size]

end Resource

/-- A walk through a content tree. -/
structure Traversal where
  /-- What is still to be visited, the next one first. -/
  pending : List Resource
  /-- Says which children are visited. -/
  accepts : Resource → Bool

namespace Traversal

/-- The walk that begins at a resource. -/
def start (root : Resource) (accepts : Resource → Bool) : Traversal :=
  ⟨[root], accepts⟩

/-- The next resource of the walk, and the walk after it. -/
def next? (t : Traversal) : Option (Resource × Traversal) :=
  match t.pending with
  | [] => none
  | r :: rest => some (r, { t with pending := r.children.filter t.accepts ++ rest })

/-- How many resources the walk may still come to. -/
def remaining (t : Traversal) : Nat :=
  Resource.sizeAll t.pending

theorem remaining_lt_of_next?_eq_some {t u : Traversal} {r : Resource}
    (h : t.next? = some (r, u)) : u.remaining < t.remaining := by
  unfold next? at h
  split at h
  · simp at h
  · rename_i s rest hp
    simp only [Option.some.injEq, Prod.mk.injEq] at h
    obtain ⟨rfl, rfl⟩ := h
    have hf := Resource.sizeAll_filter_le t.accepts s.children
    have hs := Resource.size_eq s
    simp only [remaining, hp, Resource.sizeAll_append, Resource.sizeAll]
    omega

/-- All resources that the walk comes to. -/
def toList (t : Traversal) : List Resource :=
  match _h : t.next? with
  | none => []
  | some (r, u) => r :: u.toList
termination_by t.remaining
decreasing_by exact remaining_lt_of_next?_eq_some ‹_›

end Traversal

end ContentFilter
