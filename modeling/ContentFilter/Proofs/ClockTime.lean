import ContentFilter.Calendar.Iso
import ContentFilter.Calendar.Pattern

/-!
# Instants that a clock shows

A clock shows an inserted second only at the end of a minute, as the one numbered 60. An instant can
hold one elsewhere, and there its text is that of the second after. No instant that is read has one
elsewhere, by whatever format: an inserted second is read from the number 60 in the place of the
second, a fraction stays below a second, and offsets are whole minutes. Each item of a format keeps
these ranges, so a run over all items does.
-/

namespace ContentFilter

/-- The nanoseconds lie within the second or, at the end of a minute, within an inserted one. -/
def Instant.IsClockTime (i : Instant) : Prop :=
  i.nano < 1000000000 ∨ (i.nano < 2000000000 ∧ i.second % 60 = 59)

namespace Calendar

open Text

/-! ## Fields in their ranges -/

/-- The nanoseconds lie within a second, and the offset is in whole minutes. -/
structure Fields.InRange (f : Fields) : Prop where
  nano_lt : ∀ n, f.nano = some n → n < 1000000000
  offset_minutes : ∀ n, f.offset = some n → n % 60 = 0

namespace Fields

variable {f f' : Fields} {q : Quantity} {n : Int}

theorem inRange_empty : InRange {} :=
  ⟨nofun, nofun⟩

theorem eq_of_enter {α : Type} [DecidableEq α] {held held' : Option α} {value : α}
    (h : enter held value = some held') : held' = some value := by
  unfold enter at h
  split at h
  · rw [Option.ite_none_right_eq_some] at h
    exact (Option.some.inj h.2).symm
  · exact (Option.some.inj h).symm

theorem of_enterWithin {low high : Int} {held held' : Option Nat}
    (h : enterWithin low high n held = some held') :
    (low ≤ n ∧ n ≤ high) ∧ held' = some n.toNat := by
  rw [enterWithin, Option.ite_none_right_eq_some] at h
  exact ⟨h.1, eq_of_enter h.2⟩

theorem InRange.setAfternoon {afternoon : Bool} (hf : f.InRange)
    (h : f.setAfternoon afternoon = some f') : f'.InRange := by
  obtain ⟨held, -, h⟩ := Option.bind_eq_some_iff.mp h
  cases h
  exact ⟨hf.nano_lt, hf.offset_minutes⟩

theorem InRange.setWeekday {weekday : Nat} (hf : f.InRange)
    (h : f.setWeekday weekday = some f') : f'.InRange := by
  obtain ⟨held, -, h⟩ := Option.bind_eq_some_iff.mp h
  cases h
  exact ⟨hf.nano_lt, hf.offset_minutes⟩

theorem InRange.setOffset {offset : Int} (hf : f.InRange) (hoffset : offset % 60 = 0)
    (h : f.setOffset offset = some f') : f'.InRange := by
  obtain ⟨held, hheld, h⟩ := Option.bind_eq_some_iff.mp h
  cases h
  obtain rfl := eq_of_enter hheld
  refine ⟨hf.nano_lt, fun n hn => ?_⟩
  rwa [← Option.some.inj hn]

/-- Nanoseconds are entered only if they lie within a second; the other numbers leave nanoseconds
    and offset as they are. -/
theorem InRange.set (hf : f.InRange) (h : f.set q n = some f') : f'.InRange := by
  cases q with
  | nano =>
    obtain ⟨held, hheld, h⟩ := Option.bind_eq_some_iff.mp h
    cases h
    obtain ⟨hrange, rfl⟩ := of_enterWithin hheld
    refine ⟨fun m hm => ?_, hf.offset_minutes⟩
    cases hm
    omega
  | weekday =>
    simp only [Fields.set, Option.ite_none_right_eq_some] at h
    exact hf.setWeekday h.2
  | hour =>
    obtain ⟨g, hg, h⟩ := Option.bind_eq_some_iff.mp h
    obtain ⟨held, -, h⟩ := Option.bind_eq_some_iff.mp h
    cases h
    have hg := hf.setAfternoon hg
    exact ⟨hg.nano_lt, hg.offset_minutes⟩
  | hour12 =>
    simp only [Fields.set] at h
    split at h
    · cases h
    · obtain ⟨held, -, h⟩ := Option.bind_eq_some_iff.mp h
      cases h
      exact ⟨hf.nano_lt, hf.offset_minutes⟩
  | _ =>
    obtain ⟨held, -, h⟩ := Option.bind_eq_some_iff.mp h
    cases h
    exact ⟨hf.nano_lt, hf.offset_minutes⟩

end Fields

/-! ## Formats -/

section Reading

variable {f f' : Fields} {s r : List Char}

/-- An offset is read in whole minutes. -/
theorem offset_of_readZone? {style : ZoneStyle} {offset : Int}
    (h : readZone? style s = some (offset, r)) : offset % 60 = 0 := by
  simp only [readZone?, Option.bind_eq_bind] at h
  split at h
  case h_4 =>
    rw [Option.ite_none_right_eq_some] at h
    cases h.2
    rfl
  case h_5 => cases h
  all_goals
    obtain ⟨⟨hours, t⟩, -, h⟩ := Option.bind_eq_some_iff.mp h
    obtain ⟨t', -, h⟩ := Option.bind_eq_some_iff.mp h
    obtain ⟨⟨minutes, t''⟩, -, h⟩ := Option.bind_eq_some_iff.mp h
    cases h
    simp only [reduceIte, Bool.false_eq_true]
    omega

theorem inRange_of_field {field : Field} (hf : f.InRange) (h : field.read? f s = some (f', r)) :
    f'.InRange := by
  cases field with
  | number q =>
    obtain ⟨⟨n, t⟩, -, h⟩ := Option.bind_eq_some_iff.mp h
    obtain ⟨g, hg, h⟩ := Option.bind_eq_some_iff.mp h
    cases h
    exact hf.set hg
  | monthName long =>
    obtain ⟨⟨n, t⟩, -, h⟩ := Option.bind_eq_some_iff.mp h
    obtain ⟨g, hg, h⟩ := Option.bind_eq_some_iff.mp h
    cases h
    exact hf.set hg
  | weekdayName long =>
    obtain ⟨⟨n, t⟩, -, h⟩ := Option.bind_eq_some_iff.mp h
    obtain ⟨g, hg, h⟩ := Option.bind_eq_some_iff.mp h
    cases h
    exact hf.setWeekday hg
  | halfDay =>
    simp only [Field.read?] at h
    split at h
    · obtain ⟨g, hg, h⟩ := Option.bind_eq_some_iff.mp h
      cases h
      exact hf.setAfternoon hg
    · obtain ⟨g, hg, h⟩ := Option.bind_eq_some_iff.mp h
      cases h
      exact hf.setAfternoon hg
    · cases h
  | fraction digits =>
    obtain ⟨⟨n, t⟩, -, h⟩ := Option.bind_eq_some_iff.mp h
    obtain ⟨g, hg, h⟩ := Option.bind_eq_some_iff.mp h
    cases h
    exact hf.set hg
  | zone style =>
    obtain ⟨⟨offset, t⟩, hoffset, h⟩ := Option.bind_eq_some_iff.mp h
    obtain ⟨g, hg, h⟩ := Option.bind_eq_some_iff.mp h
    cases h
    exact hf.setOffset (offset_of_readZone? hoffset) hg

theorem inRange_of_item {item : FormatItem} (hf : f.InRange)
    (h : item.read? f s = some (f', r)) : f'.InRange := by
  cases item with
  | literal c =>
    simp only [FormatItem.read?] at h
    split at h
    · cases h
      exact hf
    · split at h
      · split at h
        · cases h
          exact hf
        · cases h
      · cases h
  | oneOf cs =>
    simp only [FormatItem.read?] at h
    split at h
    · split at h
      · cases h
        exact hf
      · cases h
    · cases h
  | field field => exact inRange_of_field hf h
  | digits q width =>
    obtain ⟨⟨n, t⟩, -, h⟩ := Option.bind_eq_some_iff.mp h
    obtain ⟨g, hg, h⟩ := Option.bind_eq_some_iff.mp h
    cases h
    exact hf.set hg
  | optionalFraction =>
    simp only [FormatItem.read?] at h
    split at h
    · obtain ⟨⟨n, t⟩, -, h⟩ := Option.bind_eq_some_iff.mp h
      obtain ⟨g, hg, h⟩ := Option.bind_eq_some_iff.mp h
      cases h
      exact hf.set hg
    · cases h
      exact hf
  | strictZone =>
    obtain ⟨⟨offset, t⟩, hoffset, h⟩ := Option.bind_eq_some_iff.mp h
    obtain ⟨g, hg, h⟩ := Option.bind_eq_some_iff.mp h
    cases h
    exact hf.setOffset (offset_of_readZone? hoffset) hg

theorem inRange_of_readItems? {items : List FormatItem} (hf : f.InRange)
    (h : readItems? items f s = some (f', r)) : f'.InRange := by
  induction items generalizing f s with
  | nil =>
    cases h
    exact hf
  | cons item items ih =>
    rw [readItems?] at h
    split at h
    · cases h
    · rename_i g t hitem
      exact ih (inRange_of_item hf hitem) h

theorem inRange_of_readFields? {format : List FormatItem} (h : readFields? format s = some f) :
    f.InRange := by
  unfold readFields? at h
  split at h
  · rename_i g hitems
    cases h
    exact inRange_of_readItems? Fields.inRange_empty hitems
  · cases h

end Reading

/-! ## Instants that are read -/

section Instants

variable {f : Fields} {s : List Char} {i : Instant} {z : ZonedTime}

theorem isClockTime_addSeconds {n : Int} (hi : i.IsClockTime) (hn : n % 60 = 0) :
    (i.addSeconds n).IsClockTime := by
  rcases hi with hi | ⟨hnano, hsecond⟩
  · exact .inl hi
  · refine .inr ⟨hnano, ?_⟩
    show (i.second + n) % 60 = 59
    omega

theorem isClockTime_ofDate (d : Date) : (Instant.ofDate d 0 0).IsClockTime :=
  .inl (show 0 < 1000000000 by decide)

/-- The second numbered 60 becomes an inserted one. -/
theorem Fields.InRange.of_time? {second nano : Nat} (hf : f.InRange)
    (h : f.time? = some (second, nano)) :
    nano < 1000000000 ∨ (nano < 2000000000 ∧ second % 60 = 59) := by
  have hnano : f.nano.getD 0 < 1000000000 := by
    cases hheld : f.nano with
    | none => decide
    | some held => exact hf.nano_lt held hheld
  obtain ⟨afternoon, -, h⟩ := Option.bind_eq_some_iff.mp h
  obtain ⟨hour, -, h⟩ := Option.bind_eq_some_iff.mp h
  obtain ⟨minute, -, h⟩ := Option.bind_eq_some_iff.mp h
  dsimp only at h
  split at h
  · -- Nanoseconds without a second are no time.
    cases h
  · rw [Option.bind_eq_bind, Option.bind_some] at h
    cases h
    by_cases hinserted : f.second.getD 0 = 60
    · simp only [hinserted, reduceIte]
      omega
    · simp only [hinserted, reduceIte]
      exact .inl hnano

theorem Fields.InRange.of_local? (hf : f.InRange) (h : f.local? = some i) : i.IsClockTime := by
  obtain ⟨d, -, h⟩ := Option.bind_eq_some_iff.mp h
  obtain ⟨⟨second, nano⟩, htime, h⟩ := Option.bind_eq_some_iff.mp h
  cases h
  rcases hf.of_time? htime with hnano | ⟨hnano, hsecond⟩
  · exact .inl hnano
  · refine .inr ⟨hnano, ?_⟩
    show (d.dayNumber * 86400 + (second : Int)) % 60 = 59
    omega

theorem Fields.InRange.of_zoned? (hf : f.InRange) (h : f.zoned? = some z) :
    z.instant.IsClockTime := by
  obtain ⟨offset, hoffset, h⟩ := Option.bind_eq_some_iff.mp h
  obtain ⟨reading, hreading, h⟩ := Option.bind_eq_some_iff.mp h
  rw [ZonedTime.ofLocal?, Option.ite_none_right_eq_some] at h
  cases h.2
  have := hf.offset_minutes offset hoffset
  exact isClockTime_addSeconds (hf.of_local? hreading) (by omega)

theorem isClockTime_of_readRfc3339? (h : readRfc3339? s = some z) : z.instant.IsClockTime := by
  obtain ⟨f, hf, h⟩ := Option.bind_eq_some_iff.mp h
  exact (inRange_of_readFields? hf).of_zoned? h

theorem isClockTime_of_readOffsetTime? (h : readOffsetTime? s = some i) : i.IsClockTime := by
  unfold readOffsetTime? at h
  split at h
  · rename_i z hz
    cases h
    exact isClockTime_of_readRfc3339? hz
  · obtain ⟨z, hz, rfl⟩ := Option.map_eq_some_iff.mp h
    obtain ⟨f, hf, hz⟩ := Option.bind_eq_some_iff.mp hz
    exact (inRange_of_readFields? hf).of_zoned? hz

theorem isClockTime_of_readLocalTime? (h : readLocalTime? s = some i) : i.IsClockTime := by
  unfold readLocalTime? at h
  split at h
  · rename_i j hj
    cases h
    obtain ⟨f, hf, hj⟩ := Option.bind_eq_some_iff.mp hj
    exact (inRange_of_readFields? hf).of_local? hj
  · obtain ⟨f, hf, h⟩ := Option.bind_eq_some_iff.mp h
    exact (inRange_of_readFields? hf).of_local? h

theorem isClockTime_of_readDate? (h : readDate? s = some i) : i.IsClockTime := by
  obtain ⟨d, -, rfl⟩ := Option.map_eq_some_iff.mp h
  exact isClockTime_ofDate d

theorem isClockTime_of_readInstant? (h : readInstant? s = some i) : i.IsClockTime := by
  simp only [readInstant?] at h
  split at h
  · rename_i j hj
    cases h
    exact isClockTime_of_readOffsetTime? hj
  · split at h
    · rename_i j hj
      cases h
      exact isClockTime_of_readLocalTime? hj
    · exact isClockTime_of_readDate? h

theorem isClockTime_of_readStored? (h : readStored? s = some z) : z.instant.IsClockTime := by
  unfold readStored? at h
  split at h
  · rename_i z' hz
    cases h
    exact isClockTime_of_readRfc3339? hz
  · split at h
    · obtain ⟨f, hf, h⟩ := Option.bind_eq_some_iff.mp h
      exact (inRange_of_readFields? hf).of_zoned? h
    · cases h

theorem isClockTime_of_readByPattern? {text pattern : String}
    (h : readByPattern? text pattern = some i) : i.IsClockTime := by
  obtain ⟨items, -, h⟩ := Option.bind_eq_some_iff.mp h
  obtain ⟨f, hf, h⟩ := Option.bind_eq_some_iff.mp h
  have hrange := inRange_of_readFields? hf
  split at h
  · rename_i z hz
    cases h
    exact hrange.of_zoned? hz
  · split at h
    · rename_i j hj
      cases h
      exact hrange.of_local? hj
    · obtain ⟨d, -, rfl⟩ := Option.map_eq_some_iff.mp h
      exact isClockTime_ofDate d

end Instants

/-- The points in time that texts are read as: by the three ways together or by one of them, in a
    content tree, or by a pattern. -/
inductive IsRead : Instant → Prop where
  /-- In whichever way fits first. -/
  | instant {s : List Char} {i : Instant} (h : readInstant? s = some i) : IsRead i
  /-- As a date-time with an offset. -/
  | offsetTime {s : List Char} {i : Instant} (h : readOffsetTime? s = some i) : IsRead i
  /-- As a local date-time. -/
  | localTime {s : List Char} {i : Instant} (h : readLocalTime? s = some i) : IsRead i
  /-- As a date. -/
  | date {s : List Char} {i : Instant} (h : readDate? s = some i) : IsRead i
  /-- As a time that a content tree holds. -/
  | stored {s : List Char} {z : ZonedTime} (h : readStored? s = some z) : IsRead z.instant
  /-- By a pattern. -/
  | byPattern {text pattern : String} {i : Instant} (h : readByPattern? text pattern = some i) :
    IsRead i

/-- Every point in time that is read is one that a clock shows. -/
theorem IsRead.isClockTime {i : Instant} (h : IsRead i) : i.IsClockTime := by
  cases h with
  | instant h => exact isClockTime_of_readInstant? h
  | offsetTime h => exact isClockTime_of_readOffsetTime? h
  | localTime h => exact isClockTime_of_readLocalTime? h
  | date h => exact isClockTime_of_readDate? h
  | stored h => exact isClockTime_of_readStored? h
  | byPattern h => exact isClockTime_of_readByPattern? h

end Calendar

end ContentFilter
