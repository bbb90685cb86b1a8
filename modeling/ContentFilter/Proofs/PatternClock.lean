import ContentFilter.Proofs.ClockTime
import Mathlib

/-!
# What date patterns read off a clock

The fields of a pattern read parts of what a clock shows, such as an hour, the half of a day or an
offset, and enter them into slots: an hour of the day goes into two of them. What one field does to
the slots is `Fields.Takes`, and what a whole format does follows by induction: the slots hold what
was read and nothing else. The main statement `readByPattern_keeps_clock` says when the instant
agrees with all of it. It does if the fields fix a time of day and the offset, if there is one, can
be applied; otherwise the time is dropped and the instant is midnight, or the offset is.
-/

namespace ContentFilter.Calendar

open Text

/-! ## Parts of what a clock shows -/

/-- What a field says about the time of day or the offset. -/
inductive ClockKind where
  | hour
  | hour12
  | halfDay
  | minute
  | second
  | nano
  | offset
deriving DecidableEq, Repr

/-- A number read for a part of the clock. The half of the day is 0 before noon and 1 after it. -/
structure ClockPart where
  kind : ClockKind
  value : Int
deriving DecidableEq, Repr

/-- The part of the clock that the field is about. -/
def Field.kind? : Field → Option ClockKind
  | .number .hour => some .hour
  | .number .hour12 => some .hour12
  | .number .minute => some .minute
  | .number .second => some .second
  | .number .nano | .fraction _ => some .nano
  | .halfDay => some .halfDay
  | .zone _ => some .offset
  | _ => none

/-- The number that the field reads off the front of a text. -/
def Field.value? : Field → List Char → Option Int
  | .number q, s => (readQuantity? q s).map Prod.fst
  | .monthName long, s => (readName? monthNames long s).map fun x => (x.1 : Int) + 1
  | .weekdayName long, s => (readName? weekdayNames long s).map fun x => (x.1 : Int) + 1
  | .fraction digits, s =>
    (readDigits? digits s).map fun x => ((x.1 * Nat.pow 10 (9 - digits) : Nat) : Int)
  | .halfDay, s =>
    if (afterWord? ['a', 'm'] s).isSome then some 0
    else if (afterWord? ['p', 'm'] s).isSome then some 1
    else none
  | .zone style, s => (readZone? style (skipBlanks s)).map Prod.fst

def FormatItem.kind? : FormatItem → Option ClockKind
  | .field f => f.kind?
  | _ => none

/-- The part of the clock that the item reads off the front of a text. -/
def FormatItem.part? : FormatItem → List Char → Option ClockPart
  | .field f, s => f.kind?.bind fun kind => (f.value? s).map (⟨kind, ·⟩)
  | _, _ => none

/-- The parts of the clock that a format reads off a text, each where its field stands. -/
def clockParts : List FormatItem → Fields → List Char → List ClockPart
  | [], _, _ => []
  | item :: items, f, s =>
    match item.read? f s with
    | none => []
    | some (g, r) => (item.part? s).toList ++ clockParts items g r

/-- A clock in universal time shows the part. The second numbered 60 is an inserted one. -/
def ClockPart.IsShown (p : ClockPart) (i : Instant) : Prop :=
  match p.kind with
  | .hour => ((i.secondOfDay / 3600 : Nat) : Int) = p.value
  | .hour12 => ((i.secondOfDay / 3600 % 12 : Nat) : Int) = p.value % 12
  | .halfDay => ((i.secondOfDay / 43200 : Nat) : Int) = p.value
  | .minute => ((i.secondOfDay / 60 % 60 : Nat) : Int) = p.value
  | .second => ((i.secondOfDay % 60 + i.nano / 1000000000 : Nat) : Int) = p.value
  | .nano => ((i.nano % 1000000000 : Nat) : Int) = p.value
  | .offset => True

/-- The parts of the clock that a format is about. -/
def clockKinds (items : List FormatItem) : List ClockKind :=
  items.filterMap FormatItem.kind?

/-- The parts fix a time of day: an hour, by itself or with the half of the day, and a minute; a
    fraction of a second only counts beside the second. -/
structure FixesClock (kinds : List ClockKind) : Prop where
  hour : .hour ∈ kinds ∨ .hour12 ∈ kinds ∧ .halfDay ∈ kinds
  minute : .minute ∈ kinds
  second : .nano ∈ kinds → .second ∈ kinds

/-! ## Slots -/

/-- Where the parts of the clock are entered. -/
inductive Slot where
  | afternoon
  | hourOfHalf
  | minute
  | second
  | nano
  | offset
deriving DecidableEq

/-- What the slot holds. -/
def Fields.held (f : Fields) : Slot → Option Int
  | .afternoon => f.afternoon.map fun b => if b then 1 else 0
  | .hourOfHalf => f.hourOfHalf.map Int.ofNat
  | .minute => f.minute.map Int.ofNat
  | .second => f.second.map Int.ofNat
  | .nano => f.nano.map Int.ofNat
  | .offset => f.offset

/-- The values that the slot may hold. -/
def Slot.Allows : Slot → Int → Prop
  | .afternoon, v => v = 0 ∨ v = 1
  | .hourOfHalf, v => 0 ≤ v ∧ v ≤ 11
  | .minute, v => 0 ≤ v ∧ v ≤ 59
  | .second, v => 0 ≤ v ∧ v ≤ 60
  | .nano, v => 0 ≤ v ∧ v ≤ 999999999
  | .offset, _ => True

/-- What a part puts into a slot. -/
def ClockPart.entry : ClockPart → Slot → Option Int
  | ⟨.hour, n⟩, .afternoon => some (if 12 ≤ n then 1 else 0)
  | ⟨.hour, n⟩, .hourOfHalf => some (if 12 ≤ n then n - 12 else n)
  | ⟨.hour12, n⟩, .hourOfHalf => some (if n = 12 then 0 else n)
  | ⟨.halfDay, n⟩, .afternoon => some n
  | ⟨.minute, n⟩, .minute => some n
  | ⟨.second, n⟩, .second => some n
  | ⟨.nano, n⟩, .nano => some n
  | ⟨.offset, n⟩, .offset => some n
  | _, _ => none

/-- The parts are entered from the fields `f` to the fields `f'`: the slots keep what they held,
    hold what the parts say and nothing else. -/
structure Fields.Takes (f : Fields) (parts : List ClockPart) (f' : Fields) : Prop where
  kept : ∀ slot v, f.held slot = some v → f'.held slot = some v
  entered : ∀ p ∈ parts, ∀ slot v, p.entry slot = some v → f'.held slot = some v
  only : ∀ slot v, f'.held slot = some v →
    f.held slot = some v ∨ ∃ p ∈ parts, p.entry slot = some v
  allowed : ∀ p ∈ parts, ∀ slot v, p.entry slot = some v → slot.Allows v

namespace Fields

variable {f f' g : Fields} {q : Quantity} {n : Int} {p : ClockPart} {parts parts' : List ClockPart}

theorem Takes.nothing (h : ∀ slot, f'.held slot = f.held slot) : f.Takes [] f' :=
  ⟨fun slot _ hv => (h slot).trans hv, nofun, fun slot _ hv => .inl ((h slot).symm.trans hv), nofun⟩

/-- What is entered first stays. -/
theorem Takes.append (h : f.Takes parts g) (h' : g.Takes parts' f') :
    f.Takes (parts ++ parts') f' := by
  refine ⟨?_, ?_, ?_, ?_⟩
  · intro slot v hv
    exact h'.kept slot v (h.kept slot v hv)
  · intro p hp slot v hv
    rcases List.mem_append.mp hp with hp | hp
    · exact h'.kept slot v (h.entered p hp slot v hv)
    · exact h'.entered p hp slot v hv
  · intro slot v hv
    rcases h'.only slot v hv with hv | ⟨p, hp, hentry⟩
    · rcases h.only slot v hv with hv | ⟨p, hp, hentry⟩
      · exact .inl hv
      · exact .inr ⟨p, List.mem_append_left parts' hp, hentry⟩
    · exact .inr ⟨p, List.mem_append_right parts hp, hentry⟩
  · intro p hp
    rcases List.mem_append.mp hp with hp | hp
    · exact h.allowed p hp
    · exact h'.allowed p hp

/-- Parts that say the same together are entered alike. -/
theorem Takes.congr (h : f.Takes parts f')
    (hentry : ∀ slot v, (∃ p ∈ parts, p.entry slot = some v) ↔
      ∃ p ∈ parts', p.entry slot = some v) : f.Takes parts' f' := by
  refine ⟨h.kept, ?_, ?_, ?_⟩
  · intro p hp slot v hv
    obtain ⟨p', hp', hv'⟩ := (hentry slot v).mpr ⟨p, hp, hv⟩
    exact h.entered p' hp' slot v hv'
  · intro slot v hv
    exact (h.only slot v hv).imp_right (hentry slot v).mp
  · intro p hp slot v hv
    obtain ⟨p', hp', hv'⟩ := (hentry slot v).mpr ⟨p, hp, hv⟩
    exact h.allowed p' hp' slot v hv'

/-- A part with a single slot is entered. -/
theorem Takes.single (slot : Slot) {v : Int}
    (hentry : ∀ other, p.entry other = if other = slot then some v else none)
    (hheld : ∀ other, f'.held other = if other = slot then some v else f.held other)
    (hold : ∀ w, f.held slot = some w → w = v) (hallow : slot.Allows v) : f.Takes [p] f' := by
  have hp : ∀ {other w}, p.entry other = some w → other = slot ∧ w = v := by
    intro other w hw
    rw [hentry, Option.ite_none_right_eq_some] at hw
    exact ⟨hw.1, (Option.some.inj hw.2).symm⟩
  refine ⟨?_, ?_, ?_, ?_⟩
  · intro other w hw
    rw [hheld]
    by_cases heq : other = slot
    · subst heq
      rw [if_pos rfl, hold w hw]
    · rw [if_neg heq, hw]
  · intro p' hp' other w hw
    obtain rfl := List.mem_singleton.mp hp'
    obtain ⟨rfl, rfl⟩ := hp hw
    rw [hheld, if_pos rfl]
  · intro other w hw
    rw [hheld] at hw
    by_cases heq : other = slot
    · rw [if_pos heq] at hw
      exact .inr ⟨p, List.mem_singleton_self p, by rw [hentry, if_pos heq, hw]⟩
    · rw [if_neg heq] at hw
      exact .inl hw
  · intro p' hp' other w hw
    obtain rfl := List.mem_singleton.mp hp'
    obtain ⟨rfl, rfl⟩ := hp hw
    exact hallow

theorem old_of_enter {α : Type} [DecidableEq α] {held held' : Option α} {value : α}
    (h : enter held value = some held') : ∀ old, held = some old → old = value := by
  rintro old rfl
  rw [enter, Option.ite_none_right_eq_some] at h
  exact h.1

/-- A number within its bounds is entered into the slot of a part. -/
theorem Takes.number (slot : Slot) {low high v : Int} {held held' : Option Nat} (hlow : 0 ≤ low)
    (h : enterWithin low high v held = some held')
    (hentry : ∀ other, p.entry other = if other = slot then some v else none)
    (hbefore : f.held slot = held.map Int.ofNat)
    (hafter : ∀ other, f'.held other = if other = slot then held'.map Int.ofNat else f.held other)
    (hallow : low ≤ v ∧ v ≤ high → slot.Allows v) : f.Takes [p] f' := by
  obtain ⟨hrange, rfl⟩ := of_enterWithin h
  have hv : Int.ofNat v.toNat = v := Int.toNat_of_nonneg (by omega)
  rw [enterWithin, if_pos hrange] at h
  refine .single slot hentry ?_ ?_ (hallow hrange)
  · intro other
    rw [hafter, Option.map_some, hv]
  · intro w hw
    rw [hbefore] at hw
    obtain ⟨old, hold, rfl⟩ := Option.map_eq_some_iff.mp hw
    rw [old_of_enter h old hold, hv]

theorem takes_setAfternoon {afternoon : Bool} (h : f.setAfternoon afternoon = some f') :
    f.Takes [⟨.halfDay, if afternoon then 1 else 0⟩] f' := by
  obtain ⟨held, hheld, h⟩ := Option.bind_eq_some_iff.mp h
  cases h
  obtain rfl := eq_of_enter hheld
  have hold : ∀ w, f.held .afternoon = some w → w = if afternoon then 1 else 0 := by
    intro w hw
    obtain ⟨old, hold, rfl⟩ := Option.map_eq_some_iff.mp hw
    rw [old_of_enter hheld old hold]
  refine .single .afternoon ?_ ?_ hold ?_
  · intro other
    cases other <;> rfl
  · intro other
    cases other <;> rfl
  · cases afternoon
    · exact .inl rfl
    · exact .inr rfl

/-- The hour of half a day is entered, 12 as 0. -/
theorem takes_hourOfHalf {held : Option Nat}
    (h : enterWithin 0 11 (if n = 12 then 0 else n) f.hourOfHalf = some held) :
    f.Takes [⟨.hour12, n⟩] { f with hourOfHalf := held } := by
  refine .number .hourOfHalf (by decide) h ?_ rfl ?_ id
  · intro other
    cases other <;> rfl
  · intro other
    cases other <;> rfl

theorem takes_setOffset (h : f.setOffset n = some f') : f.Takes [⟨.offset, n⟩] f' := by
  obtain ⟨held, hheld, h⟩ := Option.bind_eq_some_iff.mp h
  cases h
  obtain rfl := eq_of_enter hheld
  refine .single .offset ?_ ?_ (old_of_enter hheld) trivial
  · intro other
    cases other <;> rfl
  · intro other
    cases other <;> rfl

theorem takes_setWeekday {weekday : Nat} (h : f.setWeekday weekday = some f') : f.Takes [] f' := by
  obtain ⟨held, -, h⟩ := Option.bind_eq_some_iff.mp h
  cases h
  refine .nothing fun slot => ?_
  cases slot <;> rfl

/-- A number is entered as the part that its field is about; the numbers of a date leave the slots
    as they are. -/
theorem takes_set (h : f.set q n = some f') :
    f.Takes ((Field.number q).kind?.map (⟨·, n⟩)).toList f' := by
  cases q with
  | hour =>
    obtain ⟨g, hg, h⟩ := Option.bind_eq_some_iff.mp h
    obtain ⟨held, hheld, h⟩ := Option.bind_eq_some_iff.mp h
    cases h
    have hrange := (of_enterWithin hheld).1
    have hne : (if 12 ≤ n then n - 12 else n) ≠ 12 := by omega
    have hhour := takes_hourOfHalf (n := if 12 ≤ n then n - 12 else n) (by rwa [if_neg hne])
    -- An hour of the day is a half of the day and an hour in it.
    refine ((takes_setAfternoon hg).append hhour).congr ?_
    intro slot v
    cases slot <;> simp [ClockPart.entry, hne, Field.kind?]
  | hour12 =>
    simp only [Fields.set] at h
    split at h
    · cases h
    · obtain ⟨held, hheld, h⟩ := Option.bind_eq_some_iff.mp h
      cases h
      exact takes_hourOfHalf hheld
  | minute =>
    obtain ⟨held, hheld, h⟩ := Option.bind_eq_some_iff.mp h
    cases h
    refine .number .minute (by decide) hheld ?_ rfl ?_ id
    · intro other
      cases other <;> rfl
    · intro other
      cases other <;> rfl
  | second =>
    obtain ⟨held, hheld, h⟩ := Option.bind_eq_some_iff.mp h
    cases h
    refine .number .second (by decide) hheld ?_ rfl ?_ id
    · intro other
      cases other <;> rfl
    · intro other
      cases other <;> rfl
  | nano =>
    obtain ⟨held, hheld, h⟩ := Option.bind_eq_some_iff.mp h
    cases h
    refine .number .nano (by decide) hheld ?_ rfl ?_ id
    · intro other
      cases other <;> rfl
    · intro other
      cases other <;> rfl
  | weekday =>
    simp only [Fields.set, Option.ite_none_right_eq_some] at h
    exact takes_setWeekday h.2
  | _ =>
    obtain ⟨held, -, h⟩ := Option.bind_eq_some_iff.mp h
    cases h
    refine .nothing fun slot => ?_
    cases slot <;> rfl

end Fields

/-! ## Formats -/

section Reading

variable {f f' : Fields} {s r : List Char} {items : List FormatItem}

/-- A field that is read has a number, which is entered as the part it is about. -/
theorem exists_value_of_read {field : Field} (h : field.read? f s = some (f', r)) :
    ∃ n, field.value? s = some n ∧ f.Takes (field.kind?.map (⟨·, n⟩)).toList f' := by
  cases field with
  | number q =>
    obtain ⟨⟨n, t⟩, hn, h⟩ := Option.bind_eq_some_iff.mp h
    obtain ⟨g, hg, h⟩ := Option.bind_eq_some_iff.mp h
    cases h
    exact ⟨n, by rw [Field.value?, hn, Option.map_some], Fields.takes_set hg⟩
  | monthName long =>
    obtain ⟨⟨n, t⟩, hn, h⟩ := Option.bind_eq_some_iff.mp h
    obtain ⟨g, hg, h⟩ := Option.bind_eq_some_iff.mp h
    cases h
    exact ⟨_, by rw [Field.value?, hn, Option.map_some], Fields.takes_set hg⟩
  | weekdayName long =>
    obtain ⟨⟨n, t⟩, hn, h⟩ := Option.bind_eq_some_iff.mp h
    obtain ⟨g, hg, h⟩ := Option.bind_eq_some_iff.mp h
    cases h
    exact ⟨_, by rw [Field.value?, hn, Option.map_some], Fields.takes_setWeekday hg⟩
  | halfDay =>
    simp only [Field.read?] at h
    split at h
    · rename_i t ham
      obtain ⟨g, hg, h⟩ := Option.bind_eq_some_iff.mp h
      cases h
      exact ⟨0, by rw [Field.value?, ham]; rfl, Fields.takes_setAfternoon hg⟩
    · rename_i t ham hpm
      obtain ⟨g, hg, h⟩ := Option.bind_eq_some_iff.mp h
      cases h
      exact ⟨1, by rw [Field.value?, ham, hpm]; rfl, Fields.takes_setAfternoon hg⟩
    · cases h
  | fraction digits =>
    obtain ⟨⟨n, t⟩, hn, h⟩ := Option.bind_eq_some_iff.mp h
    obtain ⟨g, hg, h⟩ := Option.bind_eq_some_iff.mp h
    cases h
    exact ⟨_, by rw [Field.value?, hn, Option.map_some], Fields.takes_set hg⟩
  | zone style =>
    obtain ⟨⟨n, t⟩, hn, h⟩ := Option.bind_eq_some_iff.mp h
    obtain ⟨g, hg, h⟩ := Option.bind_eq_some_iff.mp h
    cases h
    exact ⟨n, by rw [Field.value?, hn, Option.map_some], Fields.takes_setOffset hg⟩

/-- The items of patterns. -/
inductive IsPatternItem : FormatItem → Prop where
  | literal {c : Char} : IsPatternItem (.literal c)
  | field {f : Field} : IsPatternItem (.field f)

theorem takes_item {item : FormatItem} (hitem : IsPatternItem item)
    (h : item.read? f s = some (f', r)) :
    f.Takes (item.part? s).toList f' ∧ (item.part? s).map ClockPart.kind = item.kind? := by
  cases hitem with
  | literal =>
    have hf : f' = f := by
      simp only [FormatItem.read?] at h
      split at h
      · cases h
        rfl
      · split at h
        · split at h
          · cases h
            rfl
          · cases h
        · cases h
    subst hf
    exact ⟨.nothing fun _ => rfl, rfl⟩
  | @field field =>
    obtain ⟨n, hn, htakes⟩ := exists_value_of_read h
    have hpart : (FormatItem.field field).part? s = field.kind?.map (⟨·, n⟩) := by
      rw [FormatItem.part?, hn, Option.map_eq_bind]
      rfl
    rw [hpart, Option.map_map]
    exact ⟨htakes, congrFun Option.map_id _⟩

theorem clockKinds_cons (item : FormatItem) (items : List FormatItem) :
    clockKinds (item :: items) = item.kind?.toList ++ clockKinds items := by
  rw [clockKinds, List.filterMap_cons]
  cases item.kind? <;> rfl

theorem clockParts_cons {item : FormatItem} {g : Fields} {t : List Char}
    (h : item.read? f s = some (g, t)) :
    clockParts (item :: items) f s = (item.part? s).toList ++ clockParts items g t := by
  rw [clockParts, h]

/-- What a whole format reads is entered. -/
theorem takes_readItems? (hitems : ∀ item ∈ items, IsPatternItem item)
    (h : readItems? items f s = some (f', r)) :
    f.Takes (clockParts items f s) f' ∧
      (clockParts items f s).map ClockPart.kind = clockKinds items := by
  induction items generalizing f s with
  | nil =>
    cases h
    exact ⟨.nothing fun _ => rfl, rfl⟩
  | cons item items ih =>
    rw [readItems?] at h
    split at h
    · cases h
    · rename_i g t hitem
      obtain ⟨hhead, hkind⟩ := takes_item (hitems item List.mem_cons_self) hitem
      obtain ⟨htail, hkinds⟩ := ih (fun item hmem => hitems item (List.mem_cons_of_mem _ hmem)) h
      rw [clockParts_cons hitem]
      refine ⟨hhead.append htail, ?_⟩
      rw [List.map_append, hkinds, clockKinds_cons, ← hkind, Option.toList_map]

end Reading

/-! ## Patterns -/

theorem isPatternItem_of_mem_quotedItems (s : List Char) :
    ∀ item ∈ (quotedItems s).1, IsPatternItem item := by
  fun_induction quotedItems s with
  | case1 r items rest heq ih =>
    intro item hmem
    rcases List.mem_cons.mp hmem with rfl | hmem
    · exact .literal
    · exact ih item (heq ▸ hmem)
  | case2 r _ =>
    intro item hmem
    cases hmem
  | case3 c r _ _ items rest heq ih =>
    intro item hmem
    rcases List.mem_cons.mp hmem with rfl | hmem
    · exact .literal
    · exact ih item (heq ▸ hmem)
  | case4 =>
    intro item hmem
    cases hmem

theorem isPatternItem_of_mem {s : List Char} {items : List FormatItem}
    (h : patternItems? s = some items) : ∀ item ∈ items, IsPatternItem item := by
  fun_induction patternItems? s generalizing items with
  | case1 =>
    cases h
    nofun
  | case2 r ih =>
    obtain ⟨rest, hrest, rfl⟩ := Option.map_eq_some_iff.mp h
    exact List.forall_mem_cons.mpr ⟨.literal, ih hrest⟩
  | case3 r hr ih =>
    obtain ⟨rest, hrest, rfl⟩ := Option.map_eq_some_iff.mp h
    exact List.forall_mem_append.mpr ⟨isPatternItem_of_mem_quotedItems r, ih hrest⟩
  | case4 => cases h
  | case5 c r _ _ _ field hfield ih =>
    obtain ⟨rest, hrest, rfl⟩ := Option.map_eq_some_iff.mp h
    exact List.forall_mem_cons.mpr ⟨.field, ih hrest⟩
  | case6 c r _ _ _ ih =>
    obtain ⟨rest, hrest, rfl⟩ := Option.map_eq_some_iff.mp h
    exact List.forall_mem_cons.mpr ⟨.literal, ih hrest⟩

/-! ## Times of day -/

section Clock

variable {f : Fields} {parts : List ClockPart} {slot : Slot} {second nano : Nat}

/-- The parts that fill the slot. -/
def Slot.kinds : Slot → List ClockKind
  | .afternoon => [.hour, .halfDay]
  | .hourOfHalf => [.hour, .hour12]
  | .minute => [.minute]
  | .second => [.second]
  | .nano => [.nano]
  | .offset => [.offset]

theorem exists_entry_iff {p : ClockPart} :
    (∃ v, p.entry slot = some v) ↔ p.kind ∈ slot.kinds := by
  obtain ⟨kind, n⟩ := p
  cases kind <;> cases slot <;> simp [ClockPart.entry, Slot.kinds]

/-- A slot is filled if one of the parts fills it. -/
theorem exists_held_iff (h : Fields.Takes {} parts f) :
    (∃ v, f.held slot = some v) ↔ ∃ kind ∈ slot.kinds, kind ∈ parts.map ClockPart.kind := by
  constructor
  · rintro ⟨v, hv⟩
    rcases h.only slot v hv with hempty | ⟨p, hp, hentry⟩
    · cases slot <;> cases hempty
    · exact ⟨p.kind, exists_entry_iff.mp ⟨v, hentry⟩, List.mem_map_of_mem hp⟩
  · rintro ⟨kind, hfills, hkind⟩
    obtain ⟨p, hp, rfl⟩ := List.mem_map.mp hkind
    obtain ⟨v, hentry⟩ := exists_entry_iff.mpr hfills
    exact ⟨v, h.entered p hp slot v hentry⟩

theorem allows_of_held {v : Int} (h : Fields.Takes {} parts f) (hv : f.held slot = some v) :
    slot.Allows v := by
  rcases h.only slot v hv with hempty | ⟨p, hp, hentry⟩
  · cases slot <;> cases hempty
  · exact h.allowed p hp slot v hentry

/-- A time of day needs its slots to be filled. -/
theorem exists_time?_iff : (∃ t, f.time? = some t) ↔
    ((∃ v, f.held .afternoon = some v) ∧ (∃ v, f.held .hourOfHalf = some v)) ∧
      (∃ v, f.held .minute = some v) ∧
      ((∃ v, f.held .nano = some v) → ∃ v, f.held .second = some v) := by
  obtain ⟨_, _, _, _, _, _, afternoon, hour, minute, second, nano, _⟩ := f
  cases afternoon <;> cases hour <;> cases minute <;> cases second <;> cases nano <;>
    simp [Fields.time?, Fields.held]

/-- The fields have a time of day exactly if what was read fixes one. -/
theorem fixesClock_iff (h : Fields.Takes {} parts f) :
    FixesClock (parts.map ClockPart.kind) ↔ ∃ t, f.time? = some t := by
  rw [exists_time?_iff, exists_held_iff h, exists_held_iff h, exists_held_iff h,
    exists_held_iff h, exists_held_iff h]
  generalize parts.map ClockPart.kind = kinds
  simp only [Slot.kinds, List.mem_cons, List.not_mem_nil, or_false, exists_eq_or_imp,
    exists_eq_left]
  constructor
  · rintro ⟨hhour | ⟨hhour, hhalf⟩, hminute, hsecond⟩
    · exact ⟨⟨.inl hhour, .inl hhour⟩, hminute, hsecond⟩
    · exact ⟨⟨.inr hhalf, .inr hhour⟩, hminute, hsecond⟩
  · rintro ⟨⟨hhour | hhalf, hhour' | hhour'⟩, hminute, hsecond⟩
    · exact ⟨.inl hhour, hminute, hsecond⟩
    · exact ⟨.inl hhour, hminute, hsecond⟩
    · exact ⟨.inl hhour', hminute, hsecond⟩
    · exact ⟨.inr ⟨hhour', hhalf⟩, hminute, hsecond⟩

/-- The time of day that the slots have. -/
theorem held_of_time? (h : f.time? = some (second, nano)) : ∃ half hour minute : Nat,
    f.held .afternoon = some (half : Int) ∧ f.held .hourOfHalf = some (hour : Int) ∧
      f.held .minute = some (minute : Int) ∧
      second = (half * 12 + hour) * 3600 + minute * 60 +
        (if f.second.getD 0 = 60 then 59 else f.second.getD 0) ∧
      nano = f.nano.getD 0 + (if f.second.getD 0 = 60 then 1000000000 else 0) := by
  obtain ⟨afternoon, hafternoon, h⟩ := Option.bind_eq_some_iff.mp h
  obtain ⟨hour, hhour, h⟩ := Option.bind_eq_some_iff.mp h
  obtain ⟨minute, hminute, h⟩ := Option.bind_eq_some_iff.mp h
  refine ⟨if afternoon then 1 else 0, hour, minute, ?_, ?_, ?_, ?_⟩
  · rw [Fields.held, hafternoon]
    cases afternoon <;> rfl
  · rw [Fields.held, hhour]
    rfl
  · rw [Fields.held, hminute]
    rfl
  · dsimp only at h
    split at h
    · cases h
    · rw [Option.bind_eq_bind, Option.bind_some] at h
      cases h
      have hhour : (if afternoon then hour + 12 else hour) =
          (if afternoon then 1 else 0) * 12 + hour := by
        cases afternoon
        · simp
        · simp [Nat.add_comm]
      by_cases hinserted : f.second.getD 0 = 60
      · simp [hinserted, hhour]
      · simp [hinserted, hhour]

/-- The second of the day of a date and a time of day. -/
theorem secondOfDay_ofDate (d : Date) (h : second < 86400) :
    (Instant.ofDate d second nano).secondOfDay = second := by
  show ((d.dayNumber * 86400 + second) % 86400).toNat = second
  omega

/-- A number is within the bounds of its slot, also where 0 stands for an empty one. -/
theorem getD_le_of_held (slot : Slot) {held : Option Nat} {high : Nat} (h : Fields.Takes {} parts f)
    (hheld : f.held slot = held.map Int.ofNat) (hhigh : ∀ n : Nat, slot.Allows n → n ≤ high) :
    held.getD 0 ≤ high := by
  cases held with
  | none => exact Nat.zero_le high
  | some n => exact hhigh n (allows_of_held h hheld)

/-- The parts of a time of day are got back from its second. -/
theorem second_div {half hour minute shown : Nat} (hhalf : half ≤ 1) (hhour : hour ≤ 11)
    (hminute : minute ≤ 59) (hshown : shown ≤ 59)
    (hsecond : second = (half * 12 + hour) * 3600 + minute * 60 + shown) :
    second < 86400 ∧ second / 43200 = half ∧ second / 3600 = half * 12 + hour ∧
      second / 60 % 60 = minute ∧ second % 60 = shown := by
  omega

/-- A clock that shows the time of day of the fields shows every part that was read. -/
theorem isShown_of_time? (htakes : Fields.Takes {} parts f) (h : f.time? = some (second, nano))
    (d : Date) : ∀ p ∈ parts, p.IsShown (.ofDate d second nano) := by
  obtain ⟨half, hour, minute, hhalf, hhour, hminute, hsecond, hnano⟩ := held_of_time? h
  have hhalfRange : (half : Int) = 0 ∨ (half : Int) = 1 := allows_of_held htakes hhalf
  have hhourRange : 0 ≤ (hour : Int) ∧ (hour : Int) ≤ 11 := allows_of_held htakes hhour
  have hminuteRange : 0 ≤ (minute : Int) ∧ (minute : Int) ≤ 59 := allows_of_held htakes hminute
  have hsecondRange : f.second.getD 0 ≤ 60 :=
    getD_le_of_held .second htakes rfl fun n hn => Int.ofNat_le.mp hn.2
  have hnanoRange : f.nano.getD 0 ≤ 999999999 :=
    getD_le_of_held .nano htakes rfl fun n hn => by
      have hle : (n : Int) ≤ 999999999 := hn.2
      omega
  generalize hshown : (if f.second.getD 0 = 60 then 59 else f.second.getD 0) = shown at hsecond
  have hshownRange : shown ≤ 59 := by
    split at hshown <;> omega
  obtain ⟨hday, hhalfDay, hhours, hminutes, hseconds⟩ :=
    second_div (by omega) (by omega) (by omega) hshownRange hsecond
  have hofDay : (Instant.ofDate d second nano).secondOfDay = second := secondOfDay_ofDate d hday
  rintro ⟨kind, n⟩ hp
  have hentered : ∀ slot v w, ClockPart.entry ⟨kind, n⟩ slot = some v →
      f.held slot = some w → v = w := by
    intro slot v w hentry hw
    rw [htakes.entered _ hp slot v hentry] at hw
    exact Option.some.inj hw
  cases kind with
  | hour =>
    have h1 := hentered .afternoon _ _ rfl hhalf
    have h2 := hentered .hourOfHalf _ _ rfl hhour
    show (((Instant.ofDate d second nano).secondOfDay / 3600 : Nat) : Int) = n
    rw [hofDay, hhours]
    omega
  | hour12 =>
    have h1 := hentered .hourOfHalf _ _ rfl hhour
    show (((Instant.ofDate d second nano).secondOfDay / 3600 % 12 : Nat) : Int) = n % 12
    rw [hofDay, hhours]
    omega
  | halfDay =>
    have h1 := hentered .afternoon _ _ rfl hhalf
    show (((Instant.ofDate d second nano).secondOfDay / 43200 : Nat) : Int) = n
    rw [hofDay, hhalfDay, h1]
  | minute =>
    have h1 := hentered .minute _ _ rfl hminute
    show (((Instant.ofDate d second nano).secondOfDay / 60 % 60 : Nat) : Int) = n
    rw [hofDay, hminutes, h1]
  | second =>
    have h1 : f.second.getD 0 = n := by
      obtain ⟨m, hm, rfl⟩ := Option.map_eq_some_iff.mp (htakes.entered _ hp .second _ rfl)
      rw [hm]
      rfl
    show (((Instant.ofDate d second nano).secondOfDay % 60 + nano / 1000000000 : Nat) : Int) = n
    rw [hofDay, hseconds, ← h1]
    split at hshown <;> split at hnano <;> omega
  | nano =>
    have h1 : f.nano.getD 0 = n := by
      obtain ⟨m, hm, rfl⟩ := Option.map_eq_some_iff.mp (htakes.entered _ hp .nano _ rfl)
      rw [hm]
      rfl
    show ((nano % 1000000000 : Nat) : Int) = n
    rw [← h1]
    split at hnano <;> omega
  | offset => trivial

end Clock

/-! ## Reading by a pattern -/

/-- The clock reading in universal time at the offset, if the offset can be applied to it; else the
    reading as it is. -/
def atOffset (reading : Instant) (offset : Int) : Instant :=
  if -86400 < offset ∧ offset < 86400 ∧ (reading.addSeconds (-offset)).inRange then
    reading.addSeconds (-offset)
  else reading

section Instants

variable {f : Fields} {i : Instant} {text pattern : String} {items : List FormatItem}

theorem local?_eq {d : Date} (hd : f.date? = some d) :
    f.local? = f.time?.map fun t => .ofDate d t.1 t.2 := by
  rw [Fields.local?, hd]
  cases f.time? <;> rfl

theorem local?_eq_none (hd : f.date? = none) : f.local? = none := by
  rw [Fields.local?, hd]
  rfl

theorem zoned?_eq : f.zoned? = f.offset.bind fun o => f.local?.bind (ZonedTime.ofLocal? · o) := rfl

/-- What is read by a pattern is the start of a day without a time of day, the local reading with
    one, and the reading at its offset with an offset that can be applied. -/
theorem exists_date_of_readByPattern? (hitems : patternItems? pattern.toList = some items)
    (h : readByPattern? text pattern = some i) :
    ∃ f d, readItems? items {} text.toList = some (f, []) ∧
      (f.time? = none → i = .ofDate d 0 0) ∧
      ∀ second nano, f.time? = some (second, nano) →
        (f.offset = none → i = .ofDate d second nano) ∧
        ∀ o, f.offset = some o → i = atOffset (.ofDate d second nano) o := by
  rw [readByPattern?, hitems, Option.bind_eq_bind, Option.bind_some] at h
  obtain ⟨f, hf, h⟩ := Option.bind_eq_some_iff.mp h
  have hread : readItems? items {} text.toList = some (f, []) := by
    rw [readFields?] at hf
    split at hf
    · rename_i g hg
      cases hf
      exact hg
    · cases hf
  rw [zoned?_eq] at h
  cases hd : f.date? with
  | none =>
    rw [local?_eq_none hd, hd] at h
    cases hoffset : f.offset with
    | none =>
      rw [hoffset] at h
      cases h
    | some o =>
      rw [hoffset] at h
      cases h
  | some d =>
    rw [local?_eq hd, hd] at h
    refine ⟨f, d, hread, ?_, ?_⟩
    · intro htime
      rw [htime] at h
      cases hoffset : f.offset with
      | none =>
        rw [hoffset] at h
        exact (Option.some.inj h).symm
      | some o =>
        rw [hoffset] at h
        exact (Option.some.inj h).symm
    · intro second nano htime
      rw [htime] at h
      refine ⟨?_, ?_⟩
      · intro hoffset
        rw [hoffset] at h
        exact (Option.some.inj h).symm
      · intro o hoffset
        rw [hoffset, Option.bind_some, Option.map_some, Option.bind_some] at h
        simp only [ZonedTime.ofLocal?] at h
        rw [atOffset]
        by_cases happlies : -86400 < o ∧ o < 86400 ∧
            ((Instant.ofDate d second nano).addSeconds (-o)).inRange = true
        · rw [if_pos happlies] at h ⊢
          exact (Option.some.inj h).symm
        · rw [if_neg happlies] at h ⊢
          exact (Option.some.inj h).symm

/-- The slot of the offset holds the offset that was read. -/
theorem offset_eq_some_iff {parts : List ClockPart} (h : Fields.Takes {} parts f) {o : Int} :
    f.offset = some o ↔ ⟨.offset, o⟩ ∈ parts := by
  constructor
  · intro hoffset
    rcases h.only .offset o hoffset with hempty | ⟨⟨kind, n⟩, hp, hentry⟩
    · cases hempty
    · cases kind <;> cases hentry
      exact hp
  · intro hp
    exact h.entered _ hp .offset o rfl

/-- When an instant that is read by a pattern agrees with the clock that was read. If the fields of
    the pattern fix a time of day, there is a reading that shows every part of it, and the instant
    is the reading, in universal time or at the offset that was read, if that can be applied. If
    they do not, the instant is midnight, whatever was read. -/
theorem readByPattern_keeps_clock (hitems : patternItems? pattern.toList = some items)
    (h : readByPattern? text pattern = some i) :
    (FixesClock (clockKinds items) → ∃ reading : Instant,
      (∀ p ∈ clockParts items {} text.toList, p.IsShown reading) ∧
      ((∀ o, ⟨.offset, o⟩ ∉ clockParts items {} text.toList) → i = reading) ∧
      ∀ o, ⟨.offset, o⟩ ∈ clockParts items {} text.toList → i = atOffset reading o) ∧
    (¬ FixesClock (clockKinds items) → i.secondOfDay = 0 ∧ i.nano = 0) := by
  obtain ⟨f, d, hread, hday, htimed⟩ := exists_date_of_readByPattern? hitems h
  obtain ⟨htakes, hkinds⟩ := takes_readItems? (isPatternItem_of_mem hitems) hread
  rw [← hkinds, fixesClock_iff htakes]
  constructor
  · rintro ⟨⟨second, nano⟩, htime⟩
    obtain ⟨hlocal, hzoned⟩ := htimed second nano htime
    refine ⟨.ofDate d second nano, isShown_of_time? htakes htime d, ?_, ?_⟩
    · intro hnone
      refine hlocal (Option.eq_none_iff_forall_ne_some.mpr fun o ho => ?_)
      exact hnone o ((offset_eq_some_iff htakes).mp ho)
    · intro o ho
      exact hzoned o ((offset_eq_some_iff htakes).mpr ho)
  · intro hnot
    rw [not_exists] at hnot
    rw [hday (Option.eq_none_iff_forall_ne_some.mpr hnot)]
    exact ⟨secondOfDay_ofDate d (by decide), rfl⟩

end Instants

/-- A local time with an offset. -/
theorem readByPattern_keeps_clock_offset :
    let items : List FormatItem := [.field (.number .year), .literal '-', .field (.number .month),
      .literal '-', .field (.number .day), .literal ' ', .field (.number .hour), .literal ':',
      .field (.number .minute), .literal ' ', .field (.zone .basic)]
    patternItems? "yyyy-MM-dd HH:mm Z".toList = some items ∧
      readByPattern? "2013-08-08 04:32 +0200" "yyyy-MM-dd HH:mm Z" = some ⟨1375929120, 0⟩ ∧
      FixesClock (clockKinds items) ∧
      ∃ reading, (⟨.hour, 4⟩ : ClockPart).IsShown reading ∧
        (⟨.minute, 32⟩ : ClockPart).IsShown reading ∧ ⟨1375929120, 0⟩ = atOffset reading 7200 := by
  intro items
  have hitems : patternItems? "yyyy-MM-dd HH:mm Z".toList = some items := by cbv
  have hread : readByPattern? "2013-08-08 04:32 +0200" "yyyy-MM-dd HH:mm Z" =
      some ⟨1375929120, 0⟩ := by cbv
  have hclock : FixesClock (clockKinds items) := ⟨.inl (by decide), by decide, by decide⟩
  have hparts : clockParts items {} "2013-08-08 04:32 +0200".toList =
      [⟨.hour, 4⟩, ⟨.minute, 32⟩, ⟨.offset, 7200⟩] := by cbv
  obtain ⟨reading, hshown, -, hoffset⟩ := (readByPattern_keeps_clock hitems hread).1 hclock
  rw [hparts] at hshown hoffset
  exact ⟨hitems, hread, hclock, reading, hshown _ (by simp), hshown _ (by simp),
    hoffset _ (by simp)⟩

/-- The instant agrees with all that was read: a clock at the offset that was read, in universal
    time if there is none, shows the parts. -/
def AgreesWith (parts : List ClockPart) (i : Instant) : Prop :=
  ∃ offset : Int, (∀ o, ⟨.offset, o⟩ ∈ parts → o = offset) ∧
    ((∀ o, ⟨.offset, o⟩ ∉ parts) → offset = 0) ∧ ∀ p ∈ parts, p.IsShown (i.addSeconds offset)

/-- An hour of half a day without the half is dropped with its minute. -/
theorem readByPattern_drops_clock :
    let items : List FormatItem := [.field (.number .year), .literal '-', .field (.number .month),
      .literal '-', .field (.number .day), .literal ' ', .field (.number .hour12), .literal ':',
      .field (.number .minute)]
    patternItems? "yyyy-MM-dd hh:mm".toList = some items ∧
      readByPattern? "2013-08-08 04:32" "yyyy-MM-dd hh:mm" = some ⟨1375920000, 0⟩ ∧
      ¬ AgreesWith (clockParts items {} "2013-08-08 04:32".toList) ⟨1375920000, 0⟩ := by
  intro items
  have hitems : patternItems? "yyyy-MM-dd hh:mm".toList = some items := by cbv
  have hread : readByPattern? "2013-08-08 04:32" "yyyy-MM-dd hh:mm" =
      some ⟨1375920000, 0⟩ := by cbv
  have hparts : clockParts items {} "2013-08-08 04:32".toList = [⟨.hour12, 4⟩, ⟨.minute, 32⟩] := by
    cbv
  refine ⟨hitems, hread, ?_⟩
  rw [hparts]
  rintro ⟨offset, -, hnone, hshown⟩
  obtain rfl := hnone (by simp)
  have hminute : ((Instant.secondOfDay ⟨1375920000, 0⟩ / 60 % 60 : Nat) : Int) = 32 :=
    hshown ⟨.minute, 32⟩ (by simp)
  exact absurd hminute (by decide)

end ContentFilter.Calendar
