import ContentFilter.Proofs.Path
import ContentFilter.Proofs.PlainComparison
import ContentFilter.Proofs.RoundTrip

/-!
# Tests for null

A property can be missing in several ways: its path leads to no resource, or to one that does not
exist, that cannot be looked into or that has no such property, and a property can be held without a
value. All of them come to the same value, and of this value both tests for `null` have a fixed
answer. So a test for `null` and its negation always differ, on whatever resource and with whatever
path. Two missing properties are neither equal nor different.
-/

namespace ContentFilter

/-! ## What a path of a property leads to -/

namespace Resource

variable {r target : Resource} {path : List Char} {key : String} {v : Value}

/-- `r.Addresses path target key`: the path leads from `r` to the property of `target` with the
    name `key`. The name is what follows the last slash; what is before it leads to the resource,
    and without a slash that is `r` itself. -/
inductive Addresses (r : Resource) : List Char → Resource → String → Prop where
  /-- A path without slashes. -/
  | here {key : List Char} (hkey : '/' ∉ key) : Addresses r key r (String.ofList key)
  /-- A path with a last slash. -/
  | below {front key : List Char} {target : Resource} (hkey : '/' ∉ key)
      (h : r.resolve? front = some target) :
      Addresses r (front ++ '/' :: key) target (String.ofList key)

/-- Why there is no property at the end of a path. -/
inductive Lacks (r : Resource) : List Char → Prop where
  /-- What is before the last slash leads to no resource. -/
  | unresolved {front key : List Char} (hkey : '/' ∉ key) (h : r.resolve? front = none) :
      Lacks r (front ++ '/' :: key)
  /-- The resource does not exist. -/
  | notExisting {path : List Char} {target : Resource} {key : String}
      (h : r.Addresses path target key) (hexisting : target.existing = false) : Lacks r path
  /-- The resource has no table of properties. -/
  | noTable {path : List Char} {target : Resource} {key : String}
      (h : r.Addresses path target key) (hproperties : target.properties = none) : Lacks r path
  /-- The table has no property of this name. -/
  | noProperty {path : List Char} {target : Resource} {key : String} {table : NameTable Value}
      (h : r.Addresses path target key) (hproperties : target.properties = some table)
      (hfind : table.find? key = none) : Lacks r path

/-- At the end of the path there is a property, and `v` is its value. -/
def Holds (r : Resource) (path : List Char) (v : Value) : Prop :=
  ∃ target key table, r.Addresses path target key ∧ target.existing = true ∧
    target.properties = some table ∧ table.find? key = some v

theorem property_of_addresses {path : String} (h : r.Addresses path.toList target key) :
    r.property path = (target.visibleProperties.find? key).getD .absent := by
  generalize hchars : path.toList = chars at h
  cases h with
  | here hkey =>
    have hpath : String.ofList chars = path := by rw [← hchars, String.ofList_toList]
    rw [hpath]
    exact property_of_not_mem r (hchars ▸ hkey)
  | below hkey h => exact property_of_resolve? hchars hkey h

theorem exists_last_slash (h : '/' ∈ path) :
    ∃ front key, path = front ++ '/' :: key ∧ '/' ∉ key := by
  obtain ⟨back, front, hreverse, hback⟩ := List.eq_append_cons_of_mem (List.mem_reverse.mpr h)
  refine ⟨front.reverse, back.reverse, ?_, fun hmem => hback (List.mem_reverse.mp hmem)⟩
  rw [← List.reverse_reverse path, hreverse, Path.reverse_append_slash]

theorem addresses_or_unresolved (r : Resource) (path : List Char) :
    (∃ target key, r.Addresses path target key) ∨
      ∃ front key, path = front ++ '/' :: key ∧ '/' ∉ key ∧ r.resolve? front = none := by
  by_cases h : '/' ∈ path
  · obtain ⟨front, key, rfl, hkey⟩ := exists_last_slash h
    cases hfront : r.resolve? front with
    | none => exact .inr ⟨front, key, rfl, hkey, hfront⟩
    | some target => exact .inl ⟨target, _, .below hkey hfront⟩
  · exact .inl ⟨r, _, .here h⟩

/-- A path with a last slash leads to where what is before this slash leads. -/
theorem Addresses.eq_of_append {front last : List Char} (hlast : '/' ∉ last)
    (h : r.Addresses (front ++ '/' :: last) target key) :
    r.resolve? front = some target ∧ key = String.ofList last := by
  generalize hpath : front ++ '/' :: last = whole at h
  cases h with
  | here hkey => exact absurd (hpath ▸ List.mem_append_right _ List.mem_cons_self) hkey
  | below hkey hresolve =>
    have hsplit := congrArg Path.splitLast? hpath
    rw [Path.splitLast?_append _ hlast, Path.splitLast?_append _ hkey] at hsplit
    cases hsplit
    exact ⟨hresolve, rfl⟩

/-- A path leads to one property at most. -/
theorem Addresses.unique {other : Resource} {key' : String} (h : r.Addresses path target key)
    (h' : r.Addresses path other key') : target = other ∧ key = key' := by
  cases h with
  | here hkey =>
    cases h' with
    | here => exact ⟨rfl, rfl⟩
    | below => exact absurd (List.mem_append_right _ List.mem_cons_self) hkey
  | below hkey hresolve =>
    obtain ⟨hresolve', rfl⟩ := h'.eq_of_append hkey
    exact ⟨Option.some.inj (hresolve.symm.trans hresolve'), rfl⟩

theorem not_lacks_of_holds (h : r.Holds path v) : ¬ r.Lacks path := by
  obtain ⟨target, key, table, haddresses, hexisting, hproperties, hfind⟩ := h
  intro hlacks
  cases hlacks with
  | unresolved hkey hresolve => cases hresolve.symm.trans (haddresses.eq_of_append hkey).1
  | notExisting h hnot =>
    obtain ⟨rfl, rfl⟩ := haddresses.unique h
    cases hexisting.symm.trans hnot
  | noTable h hnone =>
    obtain ⟨rfl, rfl⟩ := haddresses.unique h
    cases hproperties.symm.trans hnone
  | noProperty h hsome hnone =>
    obtain ⟨rfl, rfl⟩ := haddresses.unique h
    cases hproperties.symm.trans hsome
    cases hfind.symm.trans hnone

theorem lacks_or_holds (r : Resource) (path : List Char) :
    r.Lacks path ∨ ∃ v, r.Holds path v := by
  rcases r.addresses_or_unresolved path with ⟨target, key, h⟩ | ⟨front, key, rfl, hkey, h⟩
  · cases hexisting : target.existing with
    | false => exact .inl (.notExisting h hexisting)
    | true =>
      cases hproperties : target.properties with
      | none => exact .inl (.noTable h hproperties)
      | some table =>
        cases hfind : table.find? key with
        | none => exact .inl (.noProperty h hproperties hfind)
        | some v => exact .inr ⟨v, target, key, table, h, hexisting, hproperties, hfind⟩
  · exact .inl (.unresolved hkey h)

theorem property_of_holds {path : String} (h : r.Holds path.toList v) : r.property path = v := by
  obtain ⟨target, key, table, haddresses, hexisting, hproperties, hfind⟩ := h
  rw [property_of_addresses haddresses, visibleProperties, if_pos hexisting, hproperties,
    Option.getD_some, hfind, Option.getD_some]

theorem property_of_lacks {path : String} (h : r.Lacks path.toList) :
    r.property path = .absent := by
  generalize hchars : path.toList = chars at h
  cases h with
  | unresolved hkey h => exact property_of_unresolved hchars hkey h
  | notExisting h hexisting =>
    rw [property_of_addresses (hchars ▸ h), visibleProperties, hexisting]
    rfl
  | @noTable _ target _ h hproperties =>
    rw [property_of_addresses (hchars ▸ h), visibleProperties, hproperties]
    cases target.existing <;> rfl
  | @noProperty _ target _ _ h hproperties hfind =>
    rw [property_of_addresses (hchars ▸ h), visibleProperties, hproperties]
    cases target.existing with
    | false => rfl
    | true => rw [if_pos rfl, Option.getD_some, hfind, Option.getD_none]

/-- The property is missing: there is none, or it is held without a value. -/
def IsMissing (r : Resource) (path : List Char) : Prop :=
  r.Lacks path ∨ r.Holds path .absent

theorem property_of_isMissing {path : String} (h : r.IsMissing path.toList) :
    r.property path = .absent := by
  rcases h with h | h
  · exact property_of_lacks h
  · exact property_of_holds h

/-- There are no other ways for a property to be missing. -/
theorem isMissing_iff {path : String} : r.IsMissing path.toList ↔ r.property path = .absent := by
  refine ⟨property_of_isMissing, fun h => ?_⟩
  rcases r.lacks_or_holds path.toList with hlacks | ⟨v, hholds⟩
  · exact .inl hlacks
  · obtain rfl : v = .absent := (property_of_holds hholds).symm.trans h
    exact .inr hholds

theorem holds_null_iff {path : String} :
    r.Holds path.toList .null ↔ r.property path = .null := by
  refine ⟨property_of_holds, fun h => ?_⟩
  rcases r.lacks_or_holds path.toList with hlacks | ⟨v, hholds⟩
  · cases (property_of_lacks hlacks).symm.trans h
  · obtain rfl : v = .null := (property_of_holds hholds).symm.trans h
    exact hholds

end Resource

/-! ## Comparing with null -/

namespace Value

theorem isEqual_null (v : Value) : v.isEqual .null = v.isNullish := by
  cases v <;> rfl

theorem isNotEqual_null (v : Value) : v.isNotEqual .null = !v.isNullish := by
  cases v <;> rfl

end Value

/-! ## Tests of a property in filter texts -/

namespace Expr

variable {path other symbol : String} {op : Operator}

theorem parse_nullTest (hpath : IsPath path.toList) (hsymbol : symbol ∈ op.symbols) :
    parse (testText path symbol "null") = .ok (.compare op (.property path) .null) :=
  parse_testText hpath hsymbol .null id (.null (w := "null".toList) (by decide))

theorem parse_propertiesTest (hpath : IsPath path.toList) (hother : IsPath other.toList)
    (hsymbol : symbol ∈ op.symbols) :
    parse (testText path symbol ("[" ++ other ++ "]")) =
      .ok (.compare op (.property path) (.property other)) := by
  have hnone : IsGap [] := by decide
  have hparse := parse_testText hpath hsymbol (.property hother) id (.property hnone hnone)
  have hoperand : String.ofList ('[' :: ([] ++ (other.toList ++ ([] ++ [']'])))) =
      "[" ++ other ++ "]" := by
    rw [← String.toList_inj]
    simp [String.toList_append]
  rwa [hoperand] at hparse

end Expr

namespace Context

variable (c : Context) (path other : String) (s : Subject)

theorem compile_equal_null : c.compile (.compare .equal (.property path) .null) s =
    (s.resource.property path).isNullish := by
  rw [compile_property_left, ← Value.isEqual_null]
  rfl

theorem compile_notEqual_null : c.compile (.compare .notEqual (.property path) .null) s =
    !(s.resource.property path).isNullish := by
  rw [compile_property_left, ← Value.isNotEqual_null]
  rfl

theorem compile_equal_null_iff : c.compile (.compare .equal (.property path) .null) s = true ↔
    s.resource.IsMissing path.toList ∨ s.resource.Holds path.toList .null := by
  rw [compile_equal_null, Value.isNullish_iff, Resource.isMissing_iff, Resource.holds_null_iff]

variable {path other s}

theorem compile_equal_of_isMissing (hpath : s.resource.IsMissing path.toList)
    (hother : s.resource.IsMissing other.toList) :
    c.compile (.compare .equal (.property path) (.property other)) s = false := by
  rw [compile_properties, Resource.property_of_isMissing hpath,
    Resource.property_of_isMissing hother]
  rfl

theorem compile_notEqual_of_isMissing (hpath : s.resource.IsMissing path.toList) :
    c.compile (.compare .notEqual (.property path) (.property other)) s = false := by
  rw [compile_properties, Resource.property_of_isMissing hpath]
  rfl

/-- For the path of every property, `[path] = null` and `[path] != null` are filters, and exactly
    one of them accepts a resource. The former accepts those where the property is missing, by
    whatever way, or `null`. Two properties that are missing are neither equal nor different,
    whether their paths are the same or not. -/
theorem compile_nullTests :
    (∀ path : String, Expr.IsPath path.toList →
      ∃ isNull isNotNull, Expr.parse (Expr.testText path "=" "null") = .ok isNull ∧
        Expr.parse (Expr.testText path "!=" "null") = .ok isNotNull ∧
        ∀ (c : Context) (s : Subject), c.compile isNotNull s = !c.compile isNull s ∧
          (c.compile isNull s = true ↔
            s.resource.IsMissing path.toList ∨ s.resource.Holds path.toList .null)) ∧
    ∀ path other : String, Expr.IsPath path.toList → Expr.IsPath other.toList →
      ∃ areEqual areUnequal,
        Expr.parse (Expr.testText path "=" ("[" ++ other ++ "]")) = .ok areEqual ∧
        Expr.parse (Expr.testText path "!=" ("[" ++ other ++ "]")) = .ok areUnequal ∧
        ∀ (c : Context) (s : Subject), s.resource.IsMissing path.toList →
          s.resource.IsMissing other.toList →
          c.compile areEqual s = false ∧ c.compile areUnequal s = false := by
  have hequal : "=" ∈ Operator.equal.symbols := by decide
  have hnotEqual : "!=" ∈ Operator.notEqual.symbols := by decide
  refine ⟨?_, ?_⟩
  · intro path hpath
    refine ⟨_, _, Expr.parse_nullTest hpath hequal, Expr.parse_nullTest hpath hnotEqual, ?_⟩
    intro c s
    exact ⟨by rw [compile_notEqual_null, compile_equal_null], compile_equal_null_iff c path s⟩
  · intro path other hpath hother
    refine ⟨_, _, Expr.parse_propertiesTest hpath hother hequal,
      Expr.parse_propertiesTest hpath hother hnotEqual, ?_⟩
    intro c s hmissing hmissing'
    exact ⟨compile_equal_of_isMissing c hmissing hmissing',
      compile_notEqual_of_isMissing c hmissing⟩

/-- A page without a title, and a path that would lead upwards. -/
theorem compile_nullTests_page :
    let title := "./page//title"
    let above := "../title"
    let site := (Resource.new "/site").withChild "page" id
    Expr.IsPath title.toList ∧ Expr.IsPath above.toList ∧ site.IsMissing title.toList ∧
    site.IsMissing above.toList ∧
    (∃ isNull isNotNull, Expr.parse (Expr.testText title "=" "null") = .ok isNull ∧
      Expr.parse (Expr.testText title "!=" "null") = .ok isNotNull ∧
      standard.compile isNull ⟨site, ⟨0, 0⟩⟩ = true ∧
      standard.compile isNotNull ⟨site, ⟨0, 0⟩⟩ = false) ∧
    ∃ areEqual areUnequal,
      Expr.parse (Expr.testText title "=" ("[" ++ above ++ "]")) = .ok areEqual ∧
      Expr.parse (Expr.testText title "!=" ("[" ++ above ++ "]")) = .ok areUnequal ∧
      standard.compile areEqual ⟨site, ⟨0, 0⟩⟩ = false ∧
      standard.compile areUnequal ⟨site, ⟨0, 0⟩⟩ = false := by
  intro title above site
  have htitle : Expr.IsPath title.toList := ⟨by decide, by decide, by decide⟩
  have habove : Expr.IsPath above.toList := ⟨by decide, by decide, by decide⟩
  have hnoTitle : site.IsMissing title.toList := Resource.isMissing_iff.mpr (by cbv)
  have hnoAbove : site.IsMissing above.toList := Resource.isMissing_iff.mpr (by cbv)
  obtain ⟨hnull, hproperties⟩ := compile_nullTests
  obtain ⟨isNull, isNotNull, hisNull, hisNotNull, hacceptsNull⟩ := hnull title htitle
  obtain ⟨areEqual, areUnequal, hareEqual, hareUnequal, haccepts⟩ :=
    hproperties title above htitle habove
  obtain ⟨hnot, hiff⟩ := hacceptsNull standard ⟨site, ⟨0, 0⟩⟩
  have hisTrue := hiff.mpr (.inl hnoTitle)
  refine ⟨htitle, habove, hnoTitle, hnoAbove, ⟨isNull, isNotNull, hisNull, hisNotNull, hisTrue, ?_⟩,
    areEqual, areUnequal, hareEqual, hareUnequal, haccepts standard _ hnoTitle hnoAbove⟩
  rw [hnot, hisTrue]
  rfl

/-- Without the properties that are held without a value the account of `[path] = null` would not be
    complete: such a property is there, and it is not `null`. -/
theorem not_forall_compile_nullTest_iff :
    ¬ ∀ (path : String) (isNull : Expr) (c : Context) (s : Subject), Expr.IsPath path.toList →
      Expr.parse (Expr.testText path "=" "null") = .ok isNull →
      (c.compile isNull s = true ↔
        s.resource.Lacks path.toList ∨ s.resource.Holds path.toList .null) := by
  intro h
  have hpath : Expr.IsPath "p".toList := ⟨by decide, by decide, by decide⟩
  let r := (Resource.new "/").withProperty "p" .absent
  have hholds : r.Holds "p".toList .absent :=
    ⟨r, _, _, .here (by decide), rfl, rfl, by cbv⟩
  have haccepts := (compile_equal_null_iff standard "p" ⟨r, ⟨0, 0⟩⟩).mpr (.inl (.inr hholds))
  have hequal : "=" ∈ Operator.equal.symbols := by decide
  have hparse := Expr.parse_nullTest hpath hequal
  rcases (h "p" _ standard ⟨r, ⟨0, 0⟩⟩ hpath hparse).mp haccepts with hlacks | hnull
  · exact Resource.not_lacks_of_holds hholds hlacks
  · cases (Resource.property_of_holds hholds).symm.trans (Resource.property_of_holds hnull)

end Context

end ContentFilter
