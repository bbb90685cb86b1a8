/-!
# Spans of numbers

Runs of consecutive code points or bytes. Lists of spans in ascending order, with gaps between them,
describe sets.
-/

namespace ContentFilter.Text

/-- The numbers from `first` to `last`, both included. -/
structure Span where
  /-- The least number. -/
  first : Nat
  /-- The greatest number. -/
  last : Nat
deriving Repr, DecidableEq

namespace Span

/-- Whether the number belongs to the span. -/
def contains (s : Span) (n : Nat) : Bool :=
  decide (s.first ≤ n) && decide (n ≤ s.last)

/-- The span of one number. -/
def single (n : Nat) : Span := ⟨n, n⟩

/-- The span between two numbers, whichever of them comes first. -/
def between (a b : Nat) : Span := ⟨min a b, max a b⟩

/-- What two spans have in common. -/
def inter? (s t : Span) : Option Span :=
  if max s.first t.first ≤ min s.last t.last then
    some ⟨max s.first t.first, min s.last t.last⟩
  else none

/-- Puts a span in front of spans that begin no earlier; spans that touch grow together. -/
def joinFront (s : Span) : List Span → List Span
  | [] => [s]
  | t :: rest =>
    if t.first ≤ s.last + 1 then joinFront ⟨s.first, max s.last t.last⟩ rest else s :: t :: rest

/-- The given spans in ascending order, those that touch grown together. -/
def inOrder (spans : List Span) : List Span :=
  (spans.mergeSort fun s t => decide (s.first ≤ t.first)).foldr joinFront []

@[simp] theorem contains_single (n m : Nat) : (single n).contains m = (m == n) := by
  rw [Bool.eq_iff_iff]
  simp only [contains, Bool.and_eq_true, decide_eq_true_eq, beq_iff_eq]
  exact ⟨fun h => Nat.le_antisymm h.2 h.1, fun h => h ▸ ⟨Nat.le_refl m, Nat.le_refl m⟩⟩

/-- A span put in front of spans that begin no earlier adds its numbers to theirs. -/
theorem any_contains_joinFront {s : Span} {spans : List Span} (n : Nat)
    (h : ∀ t ∈ spans, s.first ≤ t.first) :
    (joinFront s spans).any (·.contains n) = (s.contains n || spans.any (·.contains n)) := by
  induction spans generalizing s with
  | nil => simp [joinFront]
  | cons t rest ih =>
    have ht := h t (by simp)
    unfold joinFront
    split
    · rename_i hlast
      have hrest : ∀ u ∈ rest, (⟨s.first, max s.last t.last⟩ : Span).first ≤ u.first :=
        fun u hu => h u (by simp [hu])
      rw [ih hrest, List.any_cons, ← Bool.or_assoc]
      congr 1
      rw [Bool.eq_iff_iff]
      simp only [contains, Bool.and_eq_true, Bool.or_eq_true, decide_eq_true_eq]
      omega
    · simp

/-- Spans put in front of others begin no earlier than the first of all. -/
theorem first_le_of_mem_joinFront {s t : Span} {spans : List Span} {n : Nat} (hs : n ≤ s.first)
    (h : ∀ t ∈ spans, n ≤ t.first) (ht : t ∈ joinFront s spans) : n ≤ t.first := by
  induction spans generalizing s with
  | nil => simp_all [joinFront]
  | cons u rest ih =>
    unfold joinFront at ht
    split at ht
    · exact ih (by exact hs) (fun t ht => h t (by simp [ht])) ht
    · rcases List.mem_cons.mp ht with rfl | ht
      · exact hs
      · exact h t ht

/-- Putting spans in order changes no membership. -/
theorem any_contains_inOrder (spans : List Span) (n : Nat) :
    (inOrder spans).any (·.contains n) = spans.any (·.contains n) := by
  have key : ∀ l : List Span, l.Pairwise (fun s t => s.first ≤ t.first) →
      (∀ m, (∀ t ∈ l, m ≤ t.first) → ∀ t ∈ l.foldr joinFront [], m ≤ t.first) ∧
      (l.foldr joinFront []).any (·.contains n) = l.any (·.contains n) := by
    intro l hl
    induction l with
    | nil => simp
    | cons s l ih =>
      obtain ⟨hs, hl⟩ := List.pairwise_cons.mp hl
      obtain ⟨hfirst, hany⟩ := ih hl
      refine ⟨fun m hm t ht => ?_, ?_⟩
      · exact first_le_of_mem_joinFront (hm s (by simp))
          (hfirst m fun t ht => hm t (by simp [ht])) ht
      · rw [List.foldr_cons, any_contains_joinFront n (hfirst s.first hs), hany, List.any_cons]
  unfold inOrder
  rw [(key _ _).2]
  · exact (List.mergeSort_perm spans _).any_eq
  · have hsorted : (spans.mergeSort fun s t => decide (s.first ≤ t.first)).Pairwise
        (fun s t => decide (s.first ≤ t.first) = true) :=
      List.pairwise_mergeSort
        (fun a b c h1 h2 => by simp only [decide_eq_true_eq] at *; omega)
        (fun a b => by simp only [Bool.or_eq_true, decide_eq_true_eq]; omega) spans
    exact hsorted.imp fun h => of_decide_eq_true h

/-- What two spans have in common has the numbers of both. -/
theorem contains_of_inter?_eq_some {s t i : Span} (h : s.inter? t = some i) (n : Nat) :
    i.contains n = (s.contains n && t.contains n) := by
  unfold inter? at h
  split at h
  · obtain rfl := Option.some.inj h
    rw [Bool.eq_iff_iff]
    simp only [contains, Bool.and_eq_true, decide_eq_true_eq]
    omega
  · simp at h

/-- Two spans that share a number have something in common. -/
theorem exists_inter?_of_contains {s t : Span} {n : Nat} (hs : s.contains n = true)
    (ht : t.contains n = true) : ∃ i, s.inter? t = some i ∧ i.contains n = true := by
  simp only [contains, Bool.and_eq_true, decide_eq_true_eq] at hs ht
  have h : max s.first t.first ≤ min s.last t.last := by omega
  refine ⟨_, if_pos h, ?_⟩
  simp only [contains, Bool.and_eq_true, decide_eq_true_eq]
  omega

end Span

end ContentFilter.Text
