import ContentFilter.Calendar.Instant
import Mathlib.Algebra.Order.Ring.Int

/-!
# Dates and their day numbers

A day number lies in exactly one year, and within it in one month. The year is found by a guess from
the mean length of a year that is wrong by one at most, the month by walking through the lengths of
the months. So the date of a day number exists and has this day number.
-/

namespace ContentFilter.Date

/-! ## Years -/

/-- A year begins where the one before it ends. -/
theorem daysBeforeYear_succ (year : Int) :
    daysBeforeYear (year + 1) = daysBeforeYear year + daysInYear year := by
  have hsub : year + 1 - 1 = year := by omega
  simp only [daysBeforeYear, leapYearsBefore, hsub, daysInYear, isLeapYear]
  by_cases h4 : year % 4 = 0
  · by_cases h100 : year % 100 = 0
    · by_cases h400 : year % 400 = 0
      · simp [h4, h400]
        omega
      · simp [h100, h400]
        omega
    · simp [h4, h100]
      omega
  · simp [h4]
    omega

/-- The guess by the mean length of a year. -/
theorem guess_near (n : Int) :
    daysBeforeYear (n * 400 / 146097 + 1970 - 1) ≤ n ∧
      n < daysBeforeYear (n * 400 / 146097 + 1970 + 2) := by
  simp only [daysBeforeYear, leapYearsBefore]
  omega

theorem yearOfDayNumber_spec (n : Int) : daysBeforeYear (yearOfDayNumber n) ≤ n ∧
    n < daysBeforeYear (yearOfDayNumber n + 1) := by
  obtain ⟨hlow, hhigh⟩ := guess_near n
  simp only [yearOfDayNumber]
  split
  · rename_i h
    exact ⟨hlow, by simpa using h⟩
  · split
    · rename_i h
      exact ⟨h, by simpa [add_assoc] using hhigh⟩
    · rename_i h h'
      exact ⟨not_lt.mp h, not_le.mp h'⟩

/-! ## Months -/

theorem sum_monthLengths (year : Int) : (monthLengths year).sum = daysInYear year := by
  rw [monthLengths, daysInYear]
  cases isLeapYear year <;> rfl

theorem daysBeforeMonth_eq (year : Int) (month : Nat) :
    daysBeforeMonth year month = ((monthLengths year).take (month - 1)).sum := by
  rw [daysBeforeMonth, List.sum_eq_foldl]

/-- Within the sum of the lengths the walk ends in one of the months, on one of its days. -/
theorem exists_walkMonths_eq {lengths : List Nat} (month : Nat) {days : Nat}
    (h : days < lengths.sum) :
    ∃ k length day, lengths[k]? = some length ∧ 1 ≤ day ∧ day ≤ length ∧
      (lengths.take k).sum + day = days + 1 ∧ walkMonths lengths month days = (month + k, day) := by
  induction lengths generalizing month days with
  | nil => cases h
  | cons length rest ih =>
    rw [walkMonths]
    by_cases hlt : days < length
    · exact ⟨0, length, days + 1, rfl, by omega, hlt, by simp, by rw [if_pos hlt]; rfl⟩
    · rw [List.sum_cons] at h
      obtain ⟨k, length', day, hget, hpos, hle, hsum, heq⟩ :=
        ih (month + 1) (show days - length < rest.sum by omega)
      refine ⟨k + 1, length', day, hget, hpos, hle, ?_, ?_⟩
      · rw [List.take_succ_cons, List.sum_cons]
        omega
      · rw [if_neg hlt, heq, Nat.add_assoc, Nat.add_comm 1 k]

/-- A day of a year is a day of one of its months. -/
theorem ofOrdinal_spec (year : Int) {days : Nat} (h : days < daysInYear year) :
    (ofOrdinal year (days + 1)).year = year ∧
    1 ≤ (ofOrdinal year (days + 1)).day ∧
    (ofOrdinal year (days + 1)).day ≤ daysInMonth year (ofOrdinal year (days + 1)).month ∧
    (ofOrdinal year (days + 1)).ordinal = days + 1 := by
  rw [← sum_monthLengths] at h
  obtain ⟨k, length, day, hget, hpos, hle, hsum, heq⟩ := exists_walkMonths_eq 1 h
  have hdate : ofOrdinal year (days + 1) = ⟨year, 1 + k, day⟩ := by
    rw [ofOrdinal, Nat.add_sub_cancel, heq]
  rw [hdate]
  refine ⟨rfl, hpos, ?_, ?_⟩
  · have hne : 1 + k ≠ 0 := by omega
    rw [daysInMonth, if_neg hne, Nat.add_sub_cancel_left, hget]
    exact hle
  · rw [ordinal, daysBeforeMonth_eq, Nat.add_sub_cancel_left]
    exact hsum

/-! ## Days -/

theorem ofDayNumber_spec (n : Int) :
    (ofDayNumber n).year = yearOfDayNumber n ∧ 1 ≤ (ofDayNumber n).day ∧
    (ofDayNumber n).day ≤ daysInMonth (ofDayNumber n).year (ofDayNumber n).month ∧
    (ofDayNumber n).dayNumber = n := by
  obtain ⟨hlow, hhigh⟩ := yearOfDayNumber_spec n
  rw [daysBeforeYear_succ] at hhigh
  have hdays : (n - daysBeforeYear (yearOfDayNumber n)).toNat < daysInYear (yearOfDayNumber n) := by
    omega
  obtain ⟨hyear, hpos, hle, hordinal⟩ := ofOrdinal_spec _ hdays
  refine ⟨hyear, hpos, ?_, ?_⟩
  · rw [ofDayNumber, hyear]
    exact hle
  · rw [ofDayNumber, dayNumber, hyear, hordinal]
    omega

/-- The date of a day number has this day number. -/
theorem dayNumber_ofDayNumber (n : Int) : (ofDayNumber n).dayNumber = n :=
  (ofDayNumber_spec n).2.2.2

theorem isValid_iff (d : Date) : d.isValid = true ↔
    firstYear ≤ d.year ∧ d.year ≤ lastYear ∧ 1 ≤ d.day ∧ d.day ≤ daysInMonth d.year d.month := by
  simp only [isValid, Bool.and_eq_true, decide_eq_true_iff, and_assoc]

/-- The date of a day number exists if its year is in the calendar. -/
theorem isValid_ofDayNumber {n : Int} (hfirst : firstYear ≤ (ofDayNumber n).year)
    (hlast : (ofDayNumber n).year ≤ lastYear) : (ofDayNumber n).isValid = true := by
  obtain ⟨-, hpos, hle, -⟩ := ofDayNumber_spec n
  exact (isValid_iff _).mpr ⟨hfirst, hlast, hpos, hle⟩

/-- Months other than the twelve have no days. -/
theorem month_of_daysInMonth {year : Int} {month : Nat} (h : 1 ≤ daysInMonth year month) :
    1 ≤ month ∧ month ≤ 12 := by
  rw [daysInMonth] at h
  split at h
  · cases h
  · refine ⟨by omega, ?_⟩
    by_contra hgt
    have hlength : (monthLengths year).length ≤ month - 1 := by
      show 12 ≤ month - 1
      omega
    rw [List.getElem?_eq_none hlength] at h
    cases h

theorem daysInMonth_le (year : Int) (month : Nat) : daysInMonth year month ≤ 31 := by
  have hlengths : ∀ length ∈ monthLengths year, length ≤ 31 := by
    rw [monthLengths]
    cases isLeapYear year <;> decide
  rw [daysInMonth]
  split
  · exact Nat.zero_le _
  · cases h : (monthLengths year)[month - 1]? with
    | none => exact Nat.zero_le _
    | some length => exact hlengths length (List.mem_of_getElem? h)

theorem daysBeforeMonth_le (year : Int) (month : Nat) :
    daysBeforeMonth year month ≤ daysInYear year := by
  have hsum := congrArg List.sum (List.take_append_drop (month - 1) (monthLengths year))
  rw [List.sum_append] at hsum
  rw [daysBeforeMonth_eq, ← sum_monthLengths, ← hsum]
  exact Nat.le_add_right _ _

/-- A month begins where the one before it ends. -/
theorem daysBeforeMonth_succ (year : Int) {month : Nat} (h : 1 ≤ month) :
    daysBeforeMonth year (month + 1) = daysBeforeMonth year month + daysInMonth year month := by
  obtain ⟨k, rfl⟩ := Nat.exists_eq_add_of_le' h
  rw [daysBeforeMonth_eq, daysBeforeMonth_eq, daysInMonth, if_neg (Nat.succ_ne_zero k),
    Nat.add_sub_cancel, Nat.add_sub_cancel, List.take_add_one, List.sum_append]
  cases (monthLengths year)[k]? <;> rfl

/-! ## The day after -/

/-- The day after: the next one of the month, or the first one of the next month or year. -/
def next (d : Date) : Date :=
  if d.day < daysInMonth d.year d.month then { d with day := d.day + 1 }
  else if d.month < 12 then ⟨d.year, d.month + 1, 1⟩
  else ⟨d.year + 1, 1, 1⟩

/-- Day numbers count the days. -/
theorem dayNumber_next {d : Date} (hday : 1 ≤ d.day) (hlast : d.day ≤ daysInMonth d.year d.month) :
    d.next.dayNumber = d.dayNumber + 1 := by
  obtain ⟨hmonth, htwelve⟩ := month_of_daysInMonth (hday.trans hlast)
  rw [next]
  by_cases hsame : d.day < daysInMonth d.year d.month
  · rw [if_pos hsame]
    simp only [dayNumber, ordinal]
    omega
  · have hlastDay : d.day = daysInMonth d.year d.month := by omega
    have hnext := daysBeforeMonth_succ d.year hmonth
    rw [if_neg hsame]
    by_cases hyear : d.month < 12
    · rw [if_pos hyear]
      simp only [dayNumber, ordinal]
      omega
    · have htwelve : d.month = 12 := by omega
      have hwhole : daysBeforeMonth d.year (12 + 1) = daysInYear d.year := by
        rw [daysBeforeMonth_eq, ← sum_monthLengths]
        rfl
      have hfirst : daysBeforeMonth (d.year + 1) 1 = 0 := rfl
      have hsucc := daysBeforeYear_succ d.year
      rw [htwelve] at hnext hlastDay
      rw [if_neg hyear]
      simp only [dayNumber, ordinal, htwelve]
      omega

/-- Month and day of a day number are numbers that a calendar shows. -/
theorem ofDayNumber_bounds (n : Int) :
    (1 ≤ (ofDayNumber n).month ∧ (ofDayNumber n).month ≤ 12) ∧
      1 ≤ (ofDayNumber n).day ∧ (ofDayNumber n).day ≤ 31 := by
  obtain ⟨-, hpos, hle, -⟩ := ofDayNumber_spec n
  exact ⟨month_of_daysInMonth (hpos.trans hle), hpos, hle.trans (daysInMonth_le _ _)⟩

end ContentFilter.Date
