import ContentFilter.Resource.Traversal
import Mathlib.Data.List.Forall2

/-!
# What a walk comes to, and in which order

A walk keeps the resources that are still to be visited; it comes to an end, and what it comes to
is `preorder`. The reason is an invariant of any such store: what the walk still comes to is the
preorder of each stored resource, one after the other, and taking one step takes the first of these
resources away.

An address, the places of the children on the way down from the root, tells apart resources of a
tree that are equal. In the order of addresses a resource comes before those below it, and what is
below a child before what is below the next one. `Traversal.visits_in_order` says that a walk comes
to each address once that is reached through accepted children, and in this order.
-/

namespace ContentFilter

namespace Resource

variable {accepts : Resource → Bool}

/-! ## Addresses -/

/-- `r.Reaches accepts address x`: the places in `address` lead from `r` down to `x`, and every
    resource on this way is accepted, `x` among them and `r` left aside. -/
inductive Reaches (accepts : Resource → Bool) : Resource → List Nat → Resource → Prop where
  /-- A resource is reached from itself. -/
  | here (r : Resource) : Reaches accepts r [] r
  /-- What is reached from an accepted child is reached. -/
  | child {r c x : Resource} {i : Nat} {address : List Nat} (hc : r.children[i]? = some c)
      (ha : accepts c = true) (h : Reaches accepts c address x) :
      Reaches accepts r (i :: address) x

/-- What is reached from one of several resources side by side, the first of them at place `k`. -/
def ReachedFrom (accepts : Resource → Bool) (k : Nat) (rs : List Resource) (address : List Nat)
    (x : Resource) : Prop :=
  ∃ i c below, address = (k + i) :: below ∧ rs[i]? = some c ∧ accepts c = true ∧
    c.Reaches accepts below x

theorem reaches_iff {r x : Resource} {address : List Nat} :
    r.Reaches accepts address x ↔
      (address = [] ∧ x = r) ∨ ReachedFrom accepts 0 r.children address x := by
  constructor
  · intro h
    cases h with
    | here => exact .inl ⟨rfl, rfl⟩
    | @child _ c _ i below hc ha h =>
      exact .inr ⟨i, c, below, by rw [Nat.zero_add], hc, ha, h⟩
  · rintro (⟨rfl, rfl⟩ | ⟨i, c, below, rfl, hc, ha, h⟩)
    · exact .here _
    · rw [Nat.zero_add]
      exact .child hc ha h

theorem reachedFrom_cons_iff {k : Nat} {r x : Resource} {rs : List Resource}
    {address : List Nat} :
    ReachedFrom accepts k (r :: rs) address x ↔
      (∃ below, address = k :: below ∧ accepts r = true ∧ r.Reaches accepts below x) ∨
        ReachedFrom accepts (k + 1) rs address x := by
  constructor
  · rintro ⟨i, c, below, rfl, hc, ha, h⟩
    cases i with
    | zero =>
      obtain rfl : r = c := Option.some.inj hc
      exact .inl ⟨below, rfl, ha, h⟩
    | succ i => exact .inr ⟨i, c, below, by rw [Nat.add_right_comm]; rfl, hc, ha, h⟩
  · rintro (⟨below, rfl, ha, h⟩ | ⟨i, c, below, rfl, hc, ha, h⟩)
    · exact ⟨0, r, below, rfl, rfl, ha, h⟩
    · exact ⟨i + 1, c, below, by rw [Nat.add_right_comm]; rfl, hc, ha, h⟩

/-! ## The order of a tree -/

/-- `rs` are the resources that `At` puts at addresses: one for every such address, and in the
    order of the addresses. -/
def InTreeOrder (At : List Nat → Resource → Prop) (rs : List Resource) : Prop :=
  ∃ addresses : List (List Nat), addresses.Pairwise (· < ·) ∧
    (∀ a, a ∈ addresses ↔ ∃ x, At a x) ∧ List.Forall₂ At addresses rs

variable {At Bt : List Nat → Resource → Prop} {rs ts : List Resource}

theorem InTreeOrder.congr (h : InTreeOrder At rs) (hiff : ∀ a x, At a x ↔ Bt a x) :
    InTreeOrder Bt rs := by
  have heq : At = Bt := funext fun a => funext fun x => propext (hiff a x)
  exact heq ▸ h

theorem inTreeOrder_nil (h : ∀ a x, ¬ At a x) : InTreeOrder At [] :=
  ⟨[], .nil, fun a => by simp [h a], .nil⟩

theorem inTreeOrder_singleton (r : Resource) : InTreeOrder (fun a x => a = [] ∧ x = r) [r] :=
  ⟨[[]], List.pairwise_singleton _ _, fun a => by simp, .cons ⟨rfl, rfl⟩ .nil⟩

theorem InTreeOrder.append (h : InTreeOrder At rs) (h' : InTreeOrder Bt ts)
    (hlt : ∀ a x b y, At a x → Bt b y → a < b) :
    InTreeOrder (fun a x => At a x ∨ Bt a x) (rs ++ ts) := by
  obtain ⟨as, hsorted, hmem, hat⟩ := h
  obtain ⟨bs, hsorted', hmem', hat'⟩ := h'
  refine ⟨as ++ bs, List.pairwise_append.mpr ⟨hsorted, hsorted', ?_⟩, ?_, ?_⟩
  · intro a ha b hb
    obtain ⟨x, hx⟩ := (hmem a).mp ha
    obtain ⟨y, hy⟩ := (hmem' b).mp hb
    exact hlt a x b y hx hy
  · intro a
    rw [List.mem_append, hmem, hmem', ← exists_or]
  · exact List.rel_append (hat.imp fun _ _ => .inl) (hat'.imp fun _ _ => .inr)

/-- The same resources with one more step on the way to each. -/
theorem InTreeOrder.below (h : InTreeOrder At rs) (i : Nat) :
    InTreeOrder (fun a x => ∃ b, a = i :: b ∧ At b x) rs := by
  obtain ⟨as, hsorted, hmem, hat⟩ := h
  refine ⟨as.map (i :: ·), ?_, ?_, ?_⟩
  · refine List.pairwise_map.mpr (hsorted.imp fun {a b} hab => ?_)
    exact List.cons_lt_cons_iff.mpr (.inr ⟨rfl, hab⟩)
  · intro a
    constructor
    · intro ha
      obtain ⟨b, hb, rfl⟩ := List.mem_map.mp ha
      obtain ⟨x, hx⟩ := (hmem b).mp hb
      exact ⟨x, b, rfl, hx⟩
    · rintro ⟨x, b, rfl, hx⟩
      exact List.mem_map.mpr ⟨b, (hmem b).mpr ⟨x, hx⟩, rfl⟩
  · exact List.forall₂_map_left_iff.mpr (hat.imp fun b x hx => ⟨b, rfl, hx⟩)

/-- Leaving out resources leaves out their addresses. -/
theorem exists_addresses_filter {as : List (List Nat)} (h : List.Forall₂ At as rs)
    (p : Resource → Bool) (hunique : ∀ a x y, At a x → At a y → x = y) :
    ∃ bs : List (List Nat), bs.Sublist as ∧
      (∀ b, b ∈ bs ↔ b ∈ as ∧ ∃ x, At b x ∧ p x = true) ∧
      List.Forall₂ (fun a x => At a x ∧ p x = true) bs (rs.filter p) := by
  induction h with
  | nil => exact ⟨[], .slnil, fun b => by simp, .nil⟩
  | @cons a r as rs har _ ih =>
    obtain ⟨bs, hsub, hmem, hat⟩ := ih
    by_cases hp : p r = true
    · refine ⟨a :: bs, hsub.cons_cons a, fun b => ?_, ?_⟩
      · rw [List.mem_cons, List.mem_cons, hmem, or_and_right]
        refine or_congr_left ⟨fun hb => ⟨hb, r, hb ▸ har, hp⟩, fun hb => hb.1⟩
      · rw [List.filter_cons_of_pos hp]
        exact .cons ⟨har, hp⟩ hat
    · refine ⟨bs, hsub.cons a, fun b => ?_, ?_⟩
      · rw [List.mem_cons, hmem, or_and_right]
        refine ⟨.inr, fun hb => hb.resolve_left ?_⟩
        rintro ⟨rfl, x, hx, hpx⟩
        rw [hunique b x r hx har] at hpx
        exact hp hpx
      · rwa [List.filter_cons_of_neg hp]

theorem InTreeOrder.filter (h : InTreeOrder At rs) (p : Resource → Bool)
    (hunique : ∀ a x y, At a x → At a y → x = y) :
    InTreeOrder (fun a x => At a x ∧ p x = true) (rs.filter p) := by
  obtain ⟨as, hsorted, hmem, hat⟩ := h
  obtain ⟨bs, hsub, hmem', hat'⟩ := exists_addresses_filter hat p hunique
  refine ⟨bs, hsorted.sublist hsub, fun a => ?_, hat'⟩
  rw [hmem', hmem]
  exact ⟨fun ha => ha.2, fun ⟨x, hx, hpx⟩ => ⟨⟨x, hx⟩, x, hx, hpx⟩⟩

/-! ## Preorder -/

mutual

/-- Preorder is the order of the tree. -/
theorem inTreeOrder_preorder (accepts : Resource → Bool) :
    ∀ r : Resource, InTreeOrder (r.Reaches accepts) (r.preorder accepts)
  | ⟨path, properties, existing, children⟩ => by
    have hroot := inTreeOrder_singleton ⟨path, properties, existing, children⟩
    have hbelow := inTreeOrder_preorderAll accepts 0 children
    refine (hroot.append hbelow ?_).congr fun a x => reaches_iff.symm
    rintro a x b y ⟨rfl, -⟩ ⟨i, c, below, rfl, -⟩
    exact List.nil_lt_cons _ _

theorem inTreeOrder_preorderAll (accepts : Resource → Bool) :
    ∀ (k : Nat) (rs : List Resource),
      InTreeOrder (ReachedFrom accepts k rs) (preorderAll accepts rs)
  | k, [] => by
    refine inTreeOrder_nil ?_
    rintro a x ⟨i, c, below, -, hc, -⟩
    cases hc
  | k, r :: rs => by
    have hrest := inTreeOrder_preorderAll accepts (k + 1) rs
    have hfirst : InTreeOrder
        (fun a x => ∃ below, a = k :: below ∧ accepts r = true ∧ r.Reaches accepts below x)
        (if accepts r then preorder accepts r else []) := by
      by_cases ha : accepts r = true
      · rw [if_pos ha]
        refine ((inTreeOrder_preorder accepts r).below k).congr fun a x => ?_
        simp [ha]
      · rw [if_neg ha]
        exact inTreeOrder_nil fun a x ⟨_, _, h, _⟩ => ha h
    refine (hfirst.append hrest ?_).congr fun a x => reachedFrom_cons_iff.symm
    rintro a x b y ⟨below, rfl, -⟩ ⟨i, c, below', rfl, -⟩
    exact List.cons_lt_cons_iff.mpr (.inl (by omega))

end

theorem preorderAll_eq_flatMap (accepts : Resource → Bool) (rs : List Resource) :
    preorderAll accepts rs = (rs.filter accepts).flatMap (preorder accepts) := by
  induction rs with
  | nil => rfl
  | cons r rs ih =>
    rw [preorderAll, ih]
    by_cases h : accepts r = true
    · rw [if_pos h, List.filter_cons_of_pos h, List.flatMap_cons]
    · rw [if_neg h, List.filter_cons_of_neg h, List.nil_append]

/-- A resource, and after it the preorder of each of its accepted children. -/
theorem preorder_eq (accepts : Resource → Bool) (r : Resource) :
    r.preorder accepts = r :: (r.children.filter accepts).flatMap (preorder accepts) := by
  cases r
  rw [preorder, preorderAll_eq_flatMap]

theorem Reaches.unique {r x y : Resource} {address : List Nat}
    (hx : r.Reaches accepts address x) (hy : r.Reaches accepts address y) : x = y := by
  induction hx with
  | here =>
    cases hy
    rfl
  | child hc _ _ ih =>
    cases hy with
    | child hc' _ hy =>
      rw [hc] at hc'
      obtain rfl := Option.some.inj hc'
      exact ih hy

end Resource

namespace Traversal

/-! ## Steps of a walk -/

/-- What the walk still comes to. -/
def outstanding (t : Traversal) : List Resource :=
  t.pending.flatMap (Resource.preorder t.accepts)

/-- A step takes the first resource away from what is outstanding. -/
theorem outstanding_of_next?_eq_some {t u : Traversal} {r : Resource}
    (h : t.next? = some (r, u)) : t.outstanding = r :: u.outstanding := by
  unfold next? at h
  cases hp : t.pending with
  | nil =>
    rw [hp] at h
    cases h
  | cons s rest =>
    rw [hp] at h
    cases h
    rw [outstanding, outstanding, hp, List.flatMap_cons, Resource.preorder_eq, List.flatMap_append,
      List.cons_append]

theorem outstanding_of_next?_eq_none {t : Traversal} (h : t.next? = none) :
    t.outstanding = [] := by
  unfold next? at h
  cases hp : t.pending with
  | nil => rw [outstanding, hp, List.flatMap_nil]
  | cons s rest =>
    rw [hp] at h
    cases h

/-- `t.Yields rs u`: asked for the next resource once for each of `rs`, the walk `t` gives `rs` and
    goes on as `u`. -/
inductive Yields : Traversal → List Resource → Traversal → Prop where
  /-- Nothing is asked for. -/
  | done (t : Traversal) : Yields t [] t
  /-- One resource, and those after it. -/
  | step {t u v : Traversal} {r : Resource} {rs : List Resource} (h : t.next? = some (r, u))
      (hrest : Yields u rs v) : Yields t (r :: rs) v

/-- Any walk gives what is outstanding and is then at its end. -/
theorem exists_yields_outstanding (t : Traversal) :
    ∃ last, t.Yields t.outstanding last ∧ last.next? = none := by
  generalize hn : t.remaining = n
  induction n using Nat.strongRecOn generalizing t with
  | ind n ih =>
    cases h : t.next? with
    | none =>
      rw [outstanding_of_next?_eq_none h]
      exact ⟨t, .done t, h⟩
    | some p =>
      obtain ⟨r, u⟩ := p
      have hlt : u.remaining < n := hn ▸ remaining_lt_of_next?_eq_some h
      obtain ⟨last, hyields, hlast⟩ := ih u.remaining hlt u rfl
      rw [outstanding_of_next?_eq_some h]
      exact ⟨last, .step h hyields, hlast⟩

theorem Yields.toList_eq {t u : Traversal} {rs : List Resource} (h : t.Yields rs u) :
    t.toList = rs ++ u.toList := by
  induction h with
  | done => rfl
  | step h _ ih =>
    rw [toList]
    split
    · rename_i hnone
      rw [hnone] at h
      cases h
    · rename_i hsome
      rw [hsome] at h
      cases h
      rw [ih, List.cons_append]

theorem toList_of_next?_eq_none {t : Traversal} (h : t.next? = none) : t.toList = [] := by
  rw [toList]
  split
  · rfl
  · rename_i hsome
    rw [hsome] at h
    cases h

theorem toList_eq_outstanding (t : Traversal) : t.toList = t.outstanding := by
  obtain ⟨last, hyields, hlast⟩ := exists_yields_outstanding t
  rw [hyields.toList_eq, toList_of_next?_eq_none hlast, List.append_nil]

theorem outstanding_start (root : Resource) (accepts : Resource → Bool) :
    (start root accepts).outstanding = root.preorder accepts := by
  rw [outstanding, start, List.flatMap_singleton]

/-- A walk from `root` comes to the preorder of the accepted part of the tree. It gives this list
    when it is asked for one resource after the other, and after the last one it has no further one
    to give. Every address that is reached through accepted children has its place in the list, in
    the order of the tree, and no other has; the root is always there. -/
theorem visits_in_order (root : Resource) (accepts : Resource → Bool) :
    (start root accepts).toList = root.preorder accepts ∧
    (∃ last, (start root accepts).Yields (root.preorder accepts) last ∧ last.next? = none) ∧
    Resource.InTreeOrder (root.Reaches accepts) (start root accepts).toList := by
  have hlist : (start root accepts).toList = root.preorder accepts := by
    rw [toList_eq_outstanding, outstanding_start]
  refine ⟨hlist, ?_, ?_⟩
  · have h := exists_yields_outstanding (start root accepts)
    rwa [outstanding_start] at h
  · rw [hlist]
    exact Resource.inTreeOrder_preorder accepts root

end Traversal

end ContentFilter
