/-!
# Tables of names

A finite map whose keys are names, its entries kept in the order of their names (by code point).
Properties of a resource, the arguments of a context and the functions of a registry are such
tables. The main statements say what each operation does to `find?`.
-/

namespace ContentFilter

/-- A finite map from names. -/
structure NameTable (α : Type) where
  /-- The names with what is held under them. -/
  entries : List (String × α)
  /-- The names are strictly increasing, so none is repeated. -/
  sorted : entries.Pairwise (·.1 < ·.1)

namespace NameTable

variable {α : Type}

/-- Puts `value` under `name` into entries that are in order. -/
def insertEntry (name : String) (value : α) : List (String × α) → List (String × α)
  | [] => [(name, value)]
  | (key, held) :: rest =>
    if name < key then (name, value) :: (key, held) :: rest
    else if name = key then (name, value) :: rest
    else (key, held) :: insertEntry name value rest

/-- The value under `name`, if there is one. -/
def findEntry (name : String) : List (String × α) → Option α
  | [] => none
  | (key, held) :: rest => if name = key then some held else findEntry name rest

theorem fst_mem_insertEntry {name : String} {value : α} {entries : List (String × α)}
    {e : String × α} (h : e ∈ insertEntry name value entries) : e.1 = name ∨ e ∈ entries := by
  induction entries with
  | nil => simp_all [insertEntry]
  | cons head rest ih => grind [insertEntry]

/-- Two names are in one of the three orders. -/
theorem lt_of_not_lt_of_ne {a b : String} (h : ¬ a < b) (hne : a ≠ b) : b < a := by
  rcases Classical.em (b < a) with hb | hb
  · exact hb
  · exact absurd (String.le_antisymm (String.not_lt.mp hb) (String.not_lt.mp h)) hne

theorem pairwise_insertEntry (name : String) (value : α) {entries : List (String × α)}
    (h : entries.Pairwise (·.1 < ·.1)) :
    (insertEntry name value entries).Pairwise (·.1 < ·.1) := by
  induction entries with
  | nil => simp [insertEntry]
  | cons head rest ih =>
    obtain ⟨key, held⟩ := head
    obtain ⟨hhead, hrest⟩ := List.pairwise_cons.mp h
    unfold insertEntry
    split
    · rename_i hlt
      refine List.pairwise_cons.mpr ⟨fun e he => ?_, h⟩
      rcases List.mem_cons.mp he with rfl | he
      · exact hlt
      · exact String.lt_trans hlt (hhead e he)
    · split
      · rename_i heq
        exact List.pairwise_cons.mpr ⟨fun e he => heq ▸ hhead e he, hrest⟩
      · rename_i hnlt hne
        refine List.pairwise_cons.mpr ⟨fun e he => ?_, ih hrest⟩
        rcases fst_mem_insertEntry he with he | he
        · exact he ▸ lt_of_not_lt_of_ne hnlt hne
        · exact hhead e he

/-- The table that holds nothing. -/
def empty : NameTable α := ⟨[], .nil⟩

instance : Inhabited (NameTable α) := ⟨empty⟩

/-- What the table holds under `name`. -/
def find? (t : NameTable α) (name : String) : Option α :=
  findEntry name t.entries

/-- Whether the table holds something under `name`. -/
def contains (t : NameTable α) (name : String) : Bool :=
  (t.find? name).isSome

/-- Holds `value` under `name`, in place of what was there. -/
def insert (t : NameTable α) (name : String) (value : α) : NameTable α :=
  ⟨insertEntry name value t.entries, pairwise_insertEntry name value t.sorted⟩

/-- Holds nothing under `name` any more. -/
def erase (t : NameTable α) (name : String) : NameTable α :=
  ⟨t.entries.filter (·.1 ≠ name), t.sorted.filter _⟩

/-- The names in use, in order. -/
def names (t : NameTable α) : List String :=
  t.entries.map (·.1)

/-- How many names are in use. -/
def size (t : NameTable α) : Nat :=
  t.entries.length

/-- Inserts the pairs one after the other, so that the last value of a name stays. -/
def ofList (pairs : List (String × α)) : NameTable α :=
  pairs.foldl (fun t p => t.insert p.1 p.2) empty

/-! ## Looking up -/

theorem findEntry_insertEntry (name other : String) (value : α) (entries : List (String × α)) :
    findEntry other (insertEntry name value entries) =
      if other = name then some value else findEntry other entries := by
  induction entries with
  | nil => simp [insertEntry, findEntry]
  | cons head rest ih =>
    obtain ⟨key, held⟩ := head
    simp only [insertEntry]
    split
    · simp [findEntry]
    · split
      · rename_i h
        by_cases ho : other = name <;> simp_all [findEntry]
      · rename_i h
        simp only [findEntry, ih]
        by_cases ho : other = name <;> simp_all

@[simp] theorem find?_empty (name : String) : (empty : NameTable α).find? name = none := rfl

/-- The last write under a name is what is found there; other names are untouched. -/
theorem find?_insert (t : NameTable α) (name other : String) (value : α) :
    (t.insert name value).find? other = if other = name then some value else t.find? other :=
  findEntry_insertEntry name other value t.entries

theorem findEntry_filter (name other : String) (entries : List (String × α)) :
    findEntry other (entries.filter (·.1 ≠ name)) =
      if other = name then none else findEntry other entries := by
  induction entries with
  | nil => simp [findEntry]
  | cons head rest ih =>
    obtain ⟨key, held⟩ := head
    by_cases hk : key = name
    · subst hk
      by_cases ho : other = key <;> simp_all [findEntry]
    · by_cases ho : other = key <;> simp_all [findEntry]

/-- Nothing is found under an erased name; other names are untouched. -/
theorem find?_erase (t : NameTable α) (name other : String) :
    (t.erase name).find? other = if other = name then none else t.find? other :=
  findEntry_filter name other t.entries

/-- A name is in use exactly if something is found under it. -/
theorem mem_names_iff (t : NameTable α) (name : String) :
    name ∈ t.names ↔ t.contains name = true := by
  unfold names contains find?
  induction t.entries with
  | nil => simp [findEntry]
  | cons head rest ih =>
    obtain ⟨key, held⟩ := head
    by_cases h : name = key <;> simp_all [findEntry]

/-- The names come in strictly increasing order. -/
theorem pairwise_names (t : NameTable α) : t.names.Pairwise (· < ·) :=
  List.pairwise_map.mpr t.sorted

/-! ## Equal tables -/

theorem findEntry_eq_none_of_lt {name : String} {entries : List (String × α)}
    (h : ∀ e ∈ entries, name < e.1) : findEntry name entries = none := by
  induction entries with
  | nil => rfl
  | cons head rest ih =>
    obtain ⟨key, held⟩ := head
    have hne : name ≠ key := fun heq => String.lt_irrefl key (heq ▸ h (key, held) (by simp))
    rw [findEntry, if_neg hne]
    exact ih fun e he => h e (by simp [he])

/-- Of two entries lists in order that find the same, one does not begin with a smaller name. -/
theorem not_lt_of_findEntry_eq {key key' : String} {held held' : α}
    {rest rest' : List (String × α)} (h : ((key', held') :: rest').Pairwise (·.1 < ·.1))
    (heq : ∀ name, findEntry name ((key, held) :: rest) =
      findEntry name ((key', held') :: rest')) : ¬ key < key' := by
  intro hlt
  have hnone : findEntry key ((key', held') :: rest') = none := by
    refine findEntry_eq_none_of_lt fun e he => ?_
    rcases List.mem_cons.mp he with rfl | he
    · exact hlt
    · exact String.lt_trans hlt ((List.pairwise_cons.mp h).1 e he)
  rw [← heq key, findEntry, if_pos rfl] at hnone
  cases hnone

theorem eq_of_findEntry_eq {entries entries' : List (String × α)}
    (h : entries.Pairwise (·.1 < ·.1)) (h' : entries'.Pairwise (·.1 < ·.1))
    (heq : ∀ name, findEntry name entries = findEntry name entries') : entries = entries' := by
  induction entries generalizing entries' with
  | nil =>
    cases entries' with
    | nil => rfl
    | cons head rest => simpa [findEntry] using heq head.1
  | cons head rest ih =>
    obtain ⟨key, held⟩ := head
    cases entries' with
    | nil => simpa [findEntry] using heq key
    | cons head' rest' =>
      obtain ⟨key', held'⟩ := head'
      obtain ⟨hrest, hsorted⟩ := List.pairwise_cons.mp h
      obtain ⟨hrest', hsorted'⟩ := List.pairwise_cons.mp h'
      have hkey : key = key' := by
        rcases Classical.em (key = key') with hk | hk
        · exact hk
        · exact absurd (lt_of_not_lt_of_ne (not_lt_of_findEntry_eq h' heq) hk)
            (not_lt_of_findEntry_eq h fun name => (heq name).symm)
      subst hkey
      have hheld : held = held' := by simpa [findEntry] using heq key
      subst hheld
      rw [ih hsorted hsorted' fun name => ?_]
      by_cases hn : name = key
      · rw [hn, findEntry_eq_none_of_lt hrest, findEntry_eq_none_of_lt hrest']
      · have hname := heq name
        rwa [findEntry, findEntry, if_neg hn, if_neg hn] at hname

/-- A table is known by what is found in it. -/
theorem ext_find? {t u : NameTable α} (h : ∀ name, t.find? name = u.find? name) : t = u := by
  obtain ⟨entries, hsorted⟩ := t
  obtain ⟨entries', hsorted'⟩ := u
  obtain rfl : entries = entries' := eq_of_findEntry_eq hsorted hsorted' h
  rfl

end NameTable

end ContentFilter
