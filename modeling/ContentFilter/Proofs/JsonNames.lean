import ContentFilter.Json.Reader
import Mathlib.Data.List.Nodup

/-!
# The objects of a JSON value

Names of members lead from an object to the objects inside it, one level with each name; what is in
an array has no name. The objects that are reached in this way are listed in the order of the text,
each behind those that it is inside of. In a value that was read from a text no object has two
members of one name, since the reader keeps one of them.
-/

namespace ContentFilter.Json

open Text (Parsed)

/-- `j.LeadsTo names o`: from `j`, the names lead one after the other to the object with the
    members `o`. -/
inductive LeadsTo : Json → List String → List (String × Json) → Prop where
  /-- An object is led to by no names. -/
  | here (o : List (String × Json)) : LeadsTo (.object o) [] o
  /-- What a member leads to is led to by its name and the others. -/
  | inside {members o : List (String × Json)} {name : String} {j : Json} {names : List String}
      (hmem : (name, j) ∈ members) (h : LeadsTo j names o) :
      LeadsTo (.object members) (name :: names) o

mutual

/-- The objects that names lead to, in the order of the text, each with these names. -/
def objects : Json → List (List String × List (String × Json))
  | .object members => ([], members) :: objectsOfAll members
  | _ => []

/-- The objects of the members, the name of each in front. -/
def objectsOfAll : List (String × Json) → List (List String × List (String × Json))
  | [] => []
  | m :: members => objectsOfMember m ++ objectsOfAll members

/-- The objects of a member, its name in front. -/
def objectsOfMember : String × Json → List (List String × List (String × Json))
  | (name, j) => (objects j).map fun q => (name :: q.1, q.2)

end

/-- No object that names lead to has two members of one name. -/
def NamesDistinct (j : Json) : Prop :=
  ∀ names o, j.LeadsTo names o → (o.map (·.1)).Nodup

/-- Whether a JSON value is an object. -/
def isObject : Json → Bool
  | .object _ => true
  | _ => false

/-! ## Listing the objects -/

variable {j : Json} {names : List String} {members o : List (String × Json)}

theorem isObject_iff : j.isObject = true ↔ ∃ members, j = .object members := by
  cases j with
  | object members => exact ⟨fun _ => ⟨members, rfl⟩, fun _ => rfl⟩
  | _ =>
    constructor
    · nofun
    · rintro ⟨members, hmembers⟩
      cases hmembers

/-- What holds of a value if it holds of the members of the object that it may be, holds of every
    value. -/
theorem induction_members {P : Json → Prop}
    (h : ∀ j, (∀ members, j = .object members → ∀ m ∈ members, P m.2) → P j) (j : Json) : P j := by
  refine h j fun members hj m hm => ?_
  have hlt : sizeOf m.2 < sizeOf j := by
    obtain ⟨name, held⟩ := m
    have hmem := List.sizeOf_lt_of_mem hm
    rw [hj]
    simp only [Json.object.sizeOf_spec, Prod.mk.sizeOf_spec] at hmem ⊢
    omega
  exact induction_members h m.2
termination_by sizeOf j
decreasing_by exact hlt

theorem objectsOfAll_eq (members : List (String × Json)) :
    objectsOfAll members =
      members.flatMap fun m => m.2.objects.map fun q => (m.1 :: q.1, q.2) := by
  induction members with
  | nil => rfl
  | cons m members ih =>
    obtain ⟨name, j⟩ := m
    rw [objectsOfAll, ih, objectsOfMember, List.flatMap_cons]

/-- The objects of an object: itself, and then those of its members. -/
theorem objects_object (members : List (String × Json)) :
    (Json.object members).objects = ([], members) ::
      members.flatMap fun m => m.2.objects.map fun q => (m.1 :: q.1, q.2) := by
  rw [objects, objectsOfAll_eq]

theorem objects_eq_nil (h : j.isObject = false) : j.objects = [] := by
  cases j with
  | object => cases h
  | _ => rfl

/-- Members that are no objects add none. -/
theorem flatMap_objects_filter {α : Type}
    (f : String × Json → List String × List (String × Json) → α) (members : List (String × Json)) :
    ((members.filter (·.2.isObject)).flatMap fun m => m.2.objects.map (f m)) =
      members.flatMap fun m => m.2.objects.map (f m) := by
  induction members with
  | nil => rfl
  | cons m members ih =>
    rw [List.filter_cons, List.flatMap_cons]
    split
    · rw [List.flatMap_cons, ih]
    · rename_i h
      rw [ih, objects_eq_nil (Bool.eq_false_iff.mpr h), List.map_nil, List.nil_append]

theorem leadsTo_nil_iff : j.LeadsTo [] o ↔ j = .object o := by
  constructor
  · rintro ⟨⟩
    rfl
  · rintro rfl
    exact .here o

theorem leadsTo_cons_iff {name : String} :
    (Json.object members).LeadsTo (name :: names) o ↔
      ∃ m ∈ members, m.1 = name ∧ m.2.LeadsTo names o := by
  constructor
  · rintro ⟨⟩
    rename_i hmem h
    exact ⟨_, hmem, rfl, h⟩
  · rintro ⟨⟨_, j⟩, hmem, rfl, h⟩
    exact .inside hmem h

theorem LeadsTo.isObject (h : j.LeadsTo names o) : j.isObject = true := by
  cases h with
  | here => rfl
  | inside => rfl

theorem LeadsTo.concat {name : String} (h : j.LeadsTo names members)
    (hmem : (name, .object o) ∈ members) : j.LeadsTo (names ++ [name]) o := by
  induction h with
  | here => exact .inside hmem (.here o)
  | inside hm _ ih => exact .inside hm (ih hmem)

/-- The list has the objects that names lead to, and no others. -/
theorem mem_objects_iff : (names, o) ∈ j.objects ↔ j.LeadsTo names o := by
  induction names generalizing j with
  | nil =>
    cases j with
    | object members =>
      rw [objects_object, leadsTo_nil_iff]
      simp [eq_comm]
    | _ => exact ⟨nofun, nofun⟩
  | cons name names ih =>
    cases j with
    | object members =>
      rw [objects_object, leadsTo_cons_iff]
      simp [ih]
    | _ => exact ⟨nofun, nofun⟩

/-- What holds of all objects that names lead to can be checked on the list. -/
theorem forall_mem_objects_iff {P : List String → List (String × Json) → Prop} :
    (∀ q ∈ j.objects, P q.1 q.2) ↔ ∀ names o, j.LeadsTo names o → P names o :=
  ⟨fun h names o hleads => h (names, o) (mem_objects_iff.mpr hleads),
    fun h q hq => h q.1 q.2 (mem_objects_iff.mp hq)⟩

instance (j : Json) : Decidable j.NamesDistinct :=
  decidable_of_iff (∀ q ∈ j.objects, (q.2.map (·.1)).Nodup)
    (forall_mem_objects_iff (P := fun _ o => (o.map (·.1)).Nodup))

theorem namesDistinct_object_iff :
    (Json.object members).NamesDistinct ↔
      (members.map (·.1)).Nodup ∧ ∀ m ∈ members, m.2.NamesDistinct := by
  constructor
  · intro h
    exact ⟨h [] members (.here _), fun m hm names o hm' => h _ o (.inside hm hm')⟩
  · rintro ⟨hnodup, hmembers⟩ names o h
    cases h with
    | here => exact hnodup
    | inside hmem h => exact hmembers _ hmem _ _ h

/-! ## Names after reading -/

theorem map_fst_putMember (name : String) (value : Json) (members : List (String × Json)) :
    (putMember name value members).map (·.1) =
      if name ∈ members.map (·.1) then members.map (·.1) else members.map (·.1) ++ [name] := by
  induction members with
  | nil => rfl
  | cons m members ih =>
    obtain ⟨key, held⟩ := m
    rw [putMember]
    by_cases hk : key = name
    · rw [if_pos hk]
      simp [hk]
    · rw [if_neg hk, List.map_cons, ih]
      by_cases hmem : name ∈ members.map (·.1)
      · have hmem' : name ∈ ((key, held) :: members).map (·.1) := List.mem_cons_of_mem _ hmem
        rw [if_pos hmem, if_pos hmem', List.map_cons]
      · have hnot : name ∉ ((key, held) :: members).map (·.1) := by
          rw [List.map_cons, List.mem_cons, not_or]
          exact ⟨Ne.symm hk, hmem⟩
        rw [if_neg hmem, if_neg hnot, List.map_cons, List.cons_append]

theorem of_mem_putMember {name : String} {value : Json} {m : String × Json}
    (h : m ∈ putMember name value members) : m ∈ members ∨ m.2 = value := by
  induction members with
  | nil =>
    rw [putMember, List.mem_singleton] at h
    exact .inr (by rw [h])
  | cons head members ih =>
    obtain ⟨key, held⟩ := head
    rw [putMember] at h
    split at h
    · rcases List.mem_cons.mp h with rfl | h
      · exact .inr rfl
      · exact .inl (List.mem_cons_of_mem _ h)
    · rcases List.mem_cons.mp h with rfl | h
      · exact .inl List.mem_cons_self
      · exact (ih h).imp_left (List.mem_cons_of_mem _)

theorem nodup_putMember (name : String) (value : Json) (h : (members.map (·.1)).Nodup) :
    ((putMember name value members).map (·.1)).Nodup := by
  rw [map_fst_putMember]
  split
  · exact h
  · rename_i hnot
    refine List.Nodup.append h (List.nodup_singleton name) fun other hmem hother => ?_
    exact hnot (List.mem_singleton.mp hother ▸ hmem)

/-- Adding members keeps names distinct, inside of the members as well. -/
theorem namesDistinct_foldl_putMember {added : List (String × Json)}
    (h : (Json.object members).NamesDistinct) (hadded : ∀ m ∈ added, m.2.NamesDistinct) :
    (Json.object (added.foldl (fun done m => putMember m.1 m.2 done) members)).NamesDistinct := by
  induction added generalizing members with
  | nil => exact h
  | cons m added ih =>
    obtain ⟨hnodup, hmembers⟩ := namesDistinct_object_iff.mp h
    refine ih (namesDistinct_object_iff.mpr ⟨nodup_putMember m.1 m.2 hnodup, ?_⟩)
      fun m' hm' => hadded m' (List.mem_cons_of_mem _ hm')
    intro m' hm'
    rcases of_mem_putMember hm' with hold | hnew
    · exact hmembers m' hold
    · exact hnew ▸ hadded m List.mem_cons_self

theorem namesDistinct_collectMembers (h : ∀ m ∈ members, m.2.NamesDistinct) :
    (Json.object (collectMembers members)).NamesDistinct :=
  namesDistinct_foldl_putMember (namesDistinct_object_iff.mpr ⟨List.nodup_nil, nofun⟩) h

/-- A value that is no object leads to nothing. -/
theorem namesDistinct_of_not_isObject (h : j.isObject = false) : j.NamesDistinct := by
  intro names o hleads
  rw [hleads.isObject] at h
  cases h

theorem value_of_readWord {c : Char} {word s : List Char} {p : Parsed (c :: s) Json}
    (h : readWord word j s = .ok p) : p.value = j := by
  unfold readWord at h
  split at h
  · cases h
  · cases h
    rfl

/-- An object that is read has the members that are read further on in the text. -/
theorem object_of_readValue {depth : Nat} {s : List Char} {p : Parsed s Json}
    (h : readValue depth s = .ok p) :
    p.value.isObject = false ∨
      ∃ depth' r, ∃ q : Parsed r (List (String × Json)), r.length < s.length ∧
        readObject depth' r = .ok q ∧ p.value = .object (collectMembers q.value) := by
  revert h
  fun_cases readValue depth s
  case case3 hword =>
    rintro ⟨⟩
    exact .inl (congrArg isObject (value_of_readWord hword))
  case case5 hword =>
    rintro ⟨⟩
    exact .inl (congrArg isObject (value_of_readWord hword))
  case case7 hword =>
    rintro ⟨⟩
    exact .inl (congrArg isObject (value_of_readWord hword))
  case case15 r depth' q hq hs hlt _ _ _ _ _ =>
    rintro ⟨⟩
    exact .inr ⟨depth', r, q, hlt, hq, rfl⟩
  -- Strings, arrays and numbers are no objects, and the others are failures.
  all_goals
    intro h
    cases h <;> exact .inl rfl

/-- Of the members that are read, the first and the others are read further on in the text. -/
theorem members_of_readMembers {depth : Nat} {s : List Char} {p : Parsed s (List (String × Json))}
    (h : readMembers depth s = .ok p) :
    ∃ name r, ∃ q : Parsed r Json, r.length < s.length ∧ readValue depth r = .ok q ∧
      (p.value = [(name, q.value)] ∨
        ∃ r', ∃ q' : Parsed r' (List (String × Json)), r'.length < s.length ∧
          readMembers depth r' = .ok q' ∧ p.value = (name, q.value) :: q'.value) := by
  revert h
  fun_cases readMembers depth s
  case case7 key _ r' _ hlt q hq _ _ _ =>
    rintro ⟨⟩
    exact ⟨_, r', q, hlt, hq, .inl rfl⟩
  case case9 key _ r' _ hlt q hq r'' q' hq' _ hlt' _ =>
    rintro ⟨⟩
    exact ⟨_, r', q, hlt, hq, .inr ⟨r'', q', hlt', hq', rfl⟩⟩
  all_goals
    intro h
    cases h

/-- An object without members, or with those that are read. -/
theorem members_of_readObject {depth : Nat} {s : List Char} {p : Parsed s (List (String × Json))}
    (h : readObject depth s = .ok p) :
    p.value = [] ∨ ∃ q, readMembers depth s = .ok q ∧ p.value = q.value := by
  unfold readObject at h
  split at h
  · cases h
  · cases h
    exact .inl rfl
  · exact .inr ⟨p, h, rfl⟩

/-- Names are distinct in what the reader takes off a text with `n` characters. -/
theorem namesDistinct_of_read (n : Nat) :
    (∀ depth (s : List Char) (p : Parsed s Json), s.length = n → readValue depth s = .ok p →
      p.value.NamesDistinct) ∧
    (∀ depth (s : List Char) (p : Parsed s (List (String × Json))), s.length = n →
      readMembers depth s = .ok p → ∀ m ∈ p.value, m.2.NamesDistinct) := by
  induction n using Nat.strongRecOn with
  | ind n ih =>
    constructor
    · rintro depth s p rfl h
      rcases object_of_readValue h with hp | ⟨depth', r, q, hlt, hq, hp⟩
      · exact namesDistinct_of_not_isObject hp
      · rw [hp]
        refine namesDistinct_collectMembers ?_
        rcases members_of_readObject hq with hnil | ⟨q', hq', hvalue⟩
        · rw [hnil]
          exact List.forall_mem_nil _
        · rw [hvalue]
          exact (ih r.length hlt).2 depth' r q' rfl hq'
    · rintro depth s p rfl h m hm
      obtain ⟨name, r, q, hlt, hq, hp⟩ := members_of_readMembers h
      have hfirst := (ih r.length hlt).1 depth r q rfl hq
      rcases hp with hp | ⟨r', q', hlt', hq', hp⟩
      · rw [hp] at hm
        rw [List.mem_singleton.mp hm]
        exact hfirst
      · rw [hp] at hm
        rcases List.mem_cons.mp hm with rfl | hm
        · exact hfirst
        · exact (ih r'.length hlt').2 depth r' q' rfl hq' m hm

/-- In what is read from a text names are distinct. -/
theorem namesDistinct_of_ofText? {text : String} (h : ofText? text = some j) :
    j.NamesDistinct := by
  obtain ⟨p, hp, rfl, -⟩ := read_eq_ok_iff.mp (ofText?_eq_some_iff.mp h)
  exact (namesDistinct_of_read text.toList.length).1 _ _ p rfl hp

end ContentFilter.Json
