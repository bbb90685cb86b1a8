import ContentFilter.Proofs.Lexeme
import Mathlib.Data.List.Forall2

/-!
# Shapes of numbers and dates

The shapes that numbers and dates are documented with, as predicates on texts. What the readers
take off a text has its shape, and a text of the shape is taken as a whole if the rest does not go
on with it.
-/

namespace ContentFilter.Expr

open Text

/-! ## Shapes -/

/-- One or more digits. -/
structure IsDigits (s : List Char) : Prop where
  ne_nil : s ≠ []
  isDigit : ∀ c ∈ s, c.isDigit = true

/-- An optional sign. -/
inductive IsSign : List Char → Prop where
  | none : IsSign []
  | plus : IsSign ['+']
  | minus : IsSign ['-']

/-- An optional fraction. -/
inductive IsFraction : List Char → Prop where
  | none : IsFraction []
  | point {digits : List Char} (h : IsDigits digits) : IsFraction ('.' :: digits)

/-- An optional exponent. -/
inductive IsExponent : List Char → Prop where
  | none : IsExponent []
  | power {c : Char} {sign digits : List Char} (hc : c = 'e' ∨ c = 'E') (hsign : IsSign sign)
      (h : IsDigits digits) : IsExponent (c :: (sign ++ digits))

/-- A number: `-1.5e3`. -/
inductive IsNumber : List Char → Prop where
  | mk {sign digits fraction exponent : List Char} (hsign : IsSign sign) (h : IsDigits digits)
      (hfraction : IsFraction fraction) (hexponent : IsExponent exponent) :
      IsNumber (sign ++ (digits ++ fraction ++ exponent))

/-- The text has the shape, in which `9` stands for any digit and every other character for
    itself. -/
def Fits (shape s : List Char) : Prop :=
  List.Forall₂ (fun y c => if y = '9' then c.isDigit = true else c = y) shape s

/-- A date: `2020-01-01`. -/
def IsDate (s : List Char) : Prop :=
  Fits "9999-99-99".toList s

/-- Optional seconds with an optional fraction: `:30.250`. -/
inductive IsSeconds : List Char → Prop where
  | none : IsSeconds []
  | some {s fraction : List Char} (h : Fits ":99".toList s) (hfraction : IsFraction fraction) :
      IsSeconds (s ++ fraction)

/-- A time of day: `T10:15` or `T10:15:30.250`. -/
inductive IsTime : List Char → Prop where
  | mk {minutes seconds : List Char} (h : Fits "T99:99".toList minutes)
      (hseconds : IsSeconds seconds) : IsTime (minutes ++ seconds)

/-- A date with a time of day. -/
inductive IsLocalTime : List Char → Prop where
  | mk {date time : List Char} (hdate : IsDate date) (htime : IsTime time) :
      IsLocalTime (date ++ time)

/-- An offset: `Z` or `+02:00`. -/
inductive IsZone : List Char → Prop where
  | utc : IsZone ['Z']
  | ahead {s : List Char} (h : Fits "+99:99".toList s) : IsZone s
  | behind {s : List Char} (h : Fits "-99:99".toList s) : IsZone s

/-- A date with a time of day and an offset. -/
inductive IsOffsetTime : List Char → Prop where
  | mk {time zone : List Char} (htime : IsLocalTime time) (hzone : IsZone zone) :
      IsOffsetTime (time ++ zone)

/-! ## What is read has its shape -/

theorem isDigits_takeWhile {s : List Char} (h : startsWith Char.isDigit s = true) :
    IsDigits (s.takeWhile Char.isDigit) := by
  cases s with
  | nil => cases h
  | cons c s =>
    refine ⟨?_, fun d hd => List.mem_takeWhile_imp hd⟩
    rw [startsWith_cons] at h
    rw [List.takeWhile_cons_of_pos h]
    exact List.cons_ne_nil _ _

theorem isFraction_takeFraction (s : List Char) : IsFraction (takeFraction s).1 := by
  unfold takeFraction
  split
  · split
    · rename_i r h
      exact .point (isDigits_takeWhile h)
    · exact .none
  · exact .none

theorem isSign_takeSign (s : List Char) : IsSign (takeSign s).1 := by
  unfold takeSign
  split
  · exact .plus
  · exact .minus
  · exact .none

theorem isExponent_takeExponent (s : List Char) : IsExponent (takeExponent s).1 := by
  unfold takeExponent
  split
  · split
    · rename_i c r h
      exact .power h.1 (isSign_takeSign r) (isDigits_takeWhile h.2)
    · exact .none
  · exact .none

/-- A digit or a sign before a digit begins a number. -/
theorem isNumber_takeNumberTail {c : Char} {r : List Char}
    (h : c.isDigit = true ∨ ((c = '-' ∨ c = '+') ∧ startsWith Char.isDigit r = true)) :
    IsNumber (c :: (takeNumberTail r).1) := by
  have hfraction := isFraction_takeFraction (r.dropWhile Char.isDigit)
  have hexponent := isExponent_takeExponent (takeFraction (r.dropWhile Char.isDigit)).2
  rcases h with hc | ⟨hc, hr⟩
  · have hdigits : IsDigits (c :: r.takeWhile Char.isDigit) := by
      refine ⟨List.cons_ne_nil _ _, ?_⟩
      intro d hd
      rcases List.mem_cons.mp hd with rfl | hd
      · exact hc
      · exact List.mem_takeWhile_imp hd
    exact .mk .none hdigits hfraction hexponent
  · have hsign : IsSign [c] := by
      rcases hc with rfl | rfl
      · exact .minus
      · exact .plus
    exact .mk hsign (isDigits_takeWhile hr) hfraction hexponent

theorem fits_take {shape s : List Char} (h : hasShape shape s = true) :
    Fits shape (s.take shape.length) := by
  induction shape generalizing s with
  | nil => exact .nil
  | cons y shape ih =>
    cases s with
    | nil => cases h
    | cons c s =>
      rw [hasShape, Bool.and_eq_true] at h
      refine .cons ?_ (ih h.2)
      split
      · rename_i hy
        simpa only [if_pos hy] using h.1
      · rename_i hy
        simpa only [if_neg hy, beq_iff_eq] using h.1

theorem isSeconds_takeSeconds (s : List Char) : IsSeconds (takeSeconds s).1 := by
  unfold takeSeconds
  split
  · rename_i h
    exact .some (fits_take h) (isFraction_takeFraction _)
  · exact .none

theorem isZone_takeZone {s : List Char} (h : (takeZone s).1 ≠ []) : IsZone (takeZone s).1 := by
  unfold takeZone at h ⊢
  split
  · rename_i hz
    cases s with
    | nil => cases hz
    | cons c s =>
      have hc : c = 'Z' := by simpa using hz
      rw [hc]
      exact .utc
  · rename_i hz
    rw [if_neg hz] at h
    split
    · rename_i hshape
      rcases Bool.or_eq_true _ _ ▸ hshape with hshape | hshape
      · exact .ahead (fits_take hshape)
      · exact .behind (fits_take hshape)
    · rename_i hshape
      rw [if_neg hshape] at h
      exact absurd rfl h

/-! ## What has the shape is read -/

section Lexemes

variable {x : List Char}

theorem startsWith_of_isDigits {ds : List Char} (h : IsDigits ds) (x : List Char) :
    startsWith Char.isDigit (ds ++ x) = true := by
  cases ds with
  | nil => exact absurd rfl h.ne_nil
  | cons c ds => exact h.isDigit c (by simp)

theorem takeFraction_of_isFraction {f : List Char} (h : IsFraction f)
    (hdigit : startsWith Char.isDigit x = false) (hpoint : ∀ r, x ≠ '.' :: r) :
    takeFraction (f ++ x) = (f, x) := by
  cases h with
  | none =>
    rw [List.nil_append, takeFraction]
    exact hpoint
  | @point digits h =>
    have hstart := startsWith_of_isDigits h x
    rw [List.cons_append, takeFraction, if_pos hstart, takeWhile_run h.isDigit hdigit,
      dropWhile_run h.isDigit hdigit]

theorem IsExponent.stops {e : List Char} (h : IsExponent e) :
    startsWith Char.isDigit e = false ∧ ∀ r, e ≠ '.' :: r := by
  cases h with
  | none => exact ⟨rfl, by rintro r ⟨⟩⟩
  | power hc hsign h =>
    rcases hc with rfl | rfl
    · exact ⟨rfl, by rintro r ⟨⟩⟩
    · exact ⟨rfl, by rintro r ⟨⟩⟩

theorem takeSign_of_isSign {sign : List Char} (h : IsSign sign)
    (hx : startsWith Char.isDigit x = true) : takeSign (sign ++ x) = (sign, x) := by
  cases h with
  | none =>
    have hne : ∀ d : Char, d.isDigit = false → ∀ r, x ≠ d :: r := by
      rintro d hd r rfl
      rw [startsWith_cons, hd] at hx
      cases hx
    rw [List.nil_append, takeSign]
    · exact hne '+' rfl
    · exact hne '-' rfl
  | plus => rfl
  | minus => rfl

theorem takeExponent_of_isExponent {e : List Char} (h : IsExponent e) :
    takeExponent e = (e, []) := by
  cases h with
  | none => rfl
  | @power c sign digits hc hsign h =>
    have hstart := startsWith_of_isDigits h []
    rw [List.append_nil] at hstart
    have htake := List.takeWhile_eq_self_iff.mpr h.isDigit
    have hdrop := List.dropWhile_eq_nil_iff.mpr h.isDigit
    rw [takeExponent, takeSign_of_isSign hsign hstart, if_pos ⟨hc, hstart⟩]
    simp only [htake, hdrop, List.cons_append]

theorem takeNumberTail_of_digits {ds f e : List Char} (hds : ∀ c ∈ ds, c.isDigit = true)
    (hf : IsFraction f) (he : IsExponent e) :
    takeNumberTail (ds ++ f ++ e) = (ds ++ f ++ e, []) := by
  obtain ⟨hdigit, hpoint⟩ := he.stops
  have hstop : startsWith Char.isDigit (f ++ e) = false := by
    cases hf with
    | none => exact hdigit
    | point h => rfl
  rw [List.append_assoc]
  simp only [takeNumberTail, takeWhile_run hds hstop, dropWhile_run hds hstop,
    takeFraction_of_isFraction hf hdigit hpoint, takeExponent_of_isExponent he, List.append_assoc]

/-- After its digits a date goes on with a hyphen. -/
theorem dropWhile_of_hasShape {n : Nat} {shape s : List Char}
    (h : hasShape (List.replicate n '9' ++ '-' :: shape) s = true) :
    ∃ r, s.dropWhile Char.isDigit = '-' :: r := by
  induction n generalizing s with
  | zero =>
    cases s with
    | nil => cases h
    | cons c s =>
      rw [List.replicate_zero, List.nil_append, hasShape, if_neg (by decide), Bool.and_eq_true,
        beq_iff_eq] at h
      rw [h.1]
      exact ⟨s, rfl⟩
  | succ n ih =>
    cases s with
    | nil => cases h
    | cons c s =>
      rw [List.replicate_succ, List.cons_append, hasShape, if_pos rfl, Bool.and_eq_true] at h
      rw [List.dropWhile_cons_of_pos h.1]
      exact ih h.2

theorem hasShape_dateShape_of_isNumber {s : List Char} (h : IsNumber s) :
    hasShape dateShape s = false := by
  by_contra hshape
  rw [Bool.not_eq_false] at hshape
  have hdate : dateShape = List.replicate 4 '9' ++ '-' :: "99-99".toList := rfl
  rw [hdate] at hshape
  obtain ⟨r, hr⟩ := dropWhile_of_hasShape hshape
  cases h with
  | @mk sign digits fraction exponent hsign h hfraction hexponent =>
    cases hsign with
    | none =>
      have hstop : startsWith Char.isDigit (fraction ++ exponent) = false := by
        cases hfraction with
        | none => exact hexponent.stops.1
        | point h => rfl
      rw [List.nil_append, List.append_assoc, dropWhile_run h.isDigit hstop] at hr
      cases hfraction with
      | none =>
        cases hexponent with
        | none => cases hr
        | power hc =>
          rcases hc with rfl | rfl
          · cases hr
          · cases hr
      | point h => cases hr
    | plus => cases hshape
    | minus => cases hshape

/-- A number begins with a digit or a sign before a digit, and all of it is taken. -/
theorem IsNumber.exists_cons {s : List Char} (h : IsNumber s) :
    ∃ c l, s = c :: l ∧ takeNumberTail l = (l, []) ∧
      (c.isDigit = true ∨ ((c = '-' ∨ c = '+') ∧ startsWith Char.isDigit l = true)) := by
  cases h with
  | @mk sign digits fraction exponent hsign h hfraction hexponent =>
    have hsigned : ∀ c : Char, c = '-' ∨ c = '+' →
        ∃ c' l, [c] ++ (digits ++ fraction ++ exponent) = c' :: l ∧ takeNumberTail l = (l, []) ∧
          (c'.isDigit = true ∨ ((c' = '-' ∨ c' = '+') ∧ startsWith Char.isDigit l = true)) := by
      intro c hc
      refine ⟨c, _, rfl, takeNumberTail_of_digits h.isDigit hfraction hexponent, .inr ⟨hc, ?_⟩⟩
      rw [List.append_assoc]
      exact startsWith_of_isDigits h _
    cases hsign with
    | none =>
      rcases digits with - | ⟨c, digits⟩
      · exact absurd rfl h.ne_nil
      have hds : ∀ d ∈ digits, d.isDigit = true := fun d hd => h.isDigit d (by simp [hd])
      exact ⟨c, _, rfl, takeNumberTail_of_digits hds hfraction hexponent,
        .inl (h.isDigit c (by simp))⟩
    | plus => exact hsigned '+' (.inr rfl)
    | minus => exact hsigned '-' (.inl rfl)

theorem Fits.length {shape s : List Char} (h : Fits shape s) : s.length = shape.length :=
  (List.Forall₂.length_eq h).symm

theorem hasShape_of_fits {shape s : List Char} (h : Fits shape s) (x : List Char) :
    hasShape shape (s ++ x) = true := by
  induction h with
  | nil => rfl
  | @cons y c shape s hc hs ih =>
    rw [List.cons_append, hasShape, ih, Bool.and_true]
    by_cases hy : y = '9'
    · rw [if_pos hy] at hc ⊢
      exact hc
    · rw [if_neg hy] at hc ⊢
      exact beq_iff_eq.mpr hc

theorem hasShape_eq_false {y : Char} {shape : List Char} (hy : y ≠ '9') (hx : ∀ r, x ≠ y :: r) :
    hasShape (y :: shape) x = false := by
  cases x with
  | nil => rfl
  | cons c x =>
    have hc : (c == y) = false := beq_eq_false_iff_ne.mpr fun h => hx x (by rw [h])
    rw [hasShape, if_neg hy, hc, Bool.false_and]

/-! Dates have the shape by which the reader knows them, and so begin with a digit. -/

theorem startsWith_of_dateShape {s : List Char} (h : hasShape dateShape s = true) :
    startsWith Char.isDigit s = true := by
  cases s with
  | nil => cases h
  | cons c s =>
    have hand : (c.isDigit && hasShape "999-99-99".toList s) = true := h
    exact (Bool.and_eq_true_iff.mp hand).1

theorem hasShape_of_isDate {s : List Char} (h : IsDate s) (x : List Char) :
    hasShape dateShape (s ++ x) = true :=
  hasShape_of_fits h x

theorem hasShape_of_isLocalTime {s : List Char} (h : IsLocalTime s) (x : List Char) :
    hasShape dateShape (s ++ x) = true := by
  cases h with
  | mk hdate htime =>
    rw [List.append_assoc]
    exact hasShape_of_isDate hdate _

theorem hasShape_of_isOffsetTime {s : List Char} (h : IsOffsetTime s) (x : List Char) :
    hasShape dateShape (s ++ x) = true := by
  cases h with
  | mk htime hzone =>
    rw [List.append_assoc]
    exact hasShape_of_isLocalTime htime _

/-- A text that no time of day goes on with. -/
structure EndsTime (x : List Char) : Prop where
  digit : startsWith Char.isDigit x = false
  point : ∀ r, x ≠ '.' :: r
  colon : ∀ r, x ≠ ':' :: r

theorem takeSeconds_of_isSeconds {s : List Char} (h : IsSeconds s) (hx : EndsTime x) :
    takeSeconds (s ++ x) = (s, x) := by
  cases h with
  | none =>
    rw [List.nil_append, takeSeconds, if_neg]
    rw [Bool.not_eq_true]
    exact hasShape_eq_false (by decide) hx.colon
  | @some s f h hf =>
    have hlen : s.length = 3 := h.length
    rw [List.append_assoc, takeSeconds, if_pos (hasShape_of_fits h _)]
    simp only [← hlen, List.take_left, List.drop_left,
      takeFraction_of_isFraction hf hx.digit hx.point]

theorem startsWith_of_hasShape {y : Char} {shape : List Char} (hy : y ≠ '9')
    (h : hasShape (y :: shape) x = true) : ∃ r, x = y :: r := by
  by_contra hx
  rw [hasShape_eq_false hy fun r hr => hx ⟨r, hr⟩] at h
  cases h

theorem takeZone_of_isZone {s : List Char} (h : IsZone s) (x : List Char) :
    takeZone (s ++ x) = (s, x) := by
  have hoffset : s.length = 6 → startsWith (· == 'Z') (s ++ x) = false →
      (hasShape "+99:99".toList (s ++ x) || hasShape "-99:99".toList (s ++ x)) = true →
      takeZone (s ++ x) = (s, x) := by
    intro hlen hz hshape
    rw [takeZone, if_neg (by rw [hz]; exact Bool.false_ne_true), if_pos hshape]
    simp only [← hlen, List.take_left, List.drop_left]
  cases h with
  | utc => rfl
  | ahead h =>
    have hshape := hasShape_of_fits h x
    obtain ⟨r, hr⟩ := startsWith_of_hasShape (by decide) hshape
    refine hoffset h.length ?_ ?_
    · rw [hr]
      rfl
    · rw [hshape, Bool.true_or]
  | behind h =>
    have hshape := hasShape_of_fits h x
    obtain ⟨r, hr⟩ := startsWith_of_hasShape (by decide) hshape
    refine hoffset h.length ?_ ?_
    · rw [hr]
      rfl
    · rw [hshape, Bool.or_true]

/-- A zone ends a time of day. -/
theorem IsZone.endsTime {s : List Char} (h : IsZone s) (x : List Char) : EndsTime (s ++ x) := by
  have hsign : ∀ y : Char, y = '+' ∨ y = '-' → ∀ r, EndsTime (y :: r) := by
    rintro y (rfl | rfl) r
    · exact ⟨rfl, by rintro r ⟨⟩, by rintro r ⟨⟩⟩
    · exact ⟨rfl, by rintro r ⟨⟩, by rintro r ⟨⟩⟩
  cases h with
  | utc => exact ⟨rfl, by rintro r ⟨⟩, by rintro r ⟨⟩⟩
  | ahead h =>
    obtain ⟨r, hr⟩ := startsWith_of_hasShape (by decide) (hasShape_of_fits h x)
    rw [hr]
    exact hsign _ (.inl rfl) r
  | behind h =>
    obtain ⟨r, hr⟩ := startsWith_of_hasShape (by decide) (hasShape_of_fits h x)
    rw [hr]
    exact hsign _ (.inr rfl) r

theorem IsZone.ne_nil {s : List Char} (h : IsZone s) : s ≠ [] := by
  cases h with
  | utc => exact List.cons_ne_nil _ _
  | ahead h | behind h =>
    rintro rfl
    cases h.length

theorem takeZone_of_stop (hx : startsWith isLiteralChar x = false) : takeZone x = ([], x) := by
  have htake := takeZone_append_of_stop hx []
  exact htake

theorem EndsTime.of_stop (hx : startsWith isLiteralChar x = false) : EndsTime x :=
  ⟨startsWith_isDigit_of_stop hx, ne_cons_of_stop hx rfl, ne_cons_of_stop hx rfl⟩

theorem takeDate_of_isDate {s : List Char} (h : IsDate s)
    (hx : startsWith isLiteralChar x = false) :
    takeDate (s ++ x) = (.date (String.ofList s), x) := by
  have hlen : s.length = 10 := h.length
  have htime : hasShape "T99:99".toList x = false :=
    hasShape_eq_false (by decide) (ne_cons_of_stop hx rfl)
  simp only [takeDate, ← hlen, List.take_left, List.drop_left, htime, Bool.false_eq_true, if_false]

/-- A date and a time of day are taken up to the zone. -/
theorem takeDate_append_zone {s : List Char} (h : IsLocalTime s) (hx : EndsTime x) :
    takeDate (s ++ x) =
      if (takeZone x).1 = [] then (.localTime (String.ofList s), x)
      else (.offsetTime (String.ofList (s ++ (takeZone x).1)), (takeZone x).2) := by
  cases h with
  | @mk date time hdate htime =>
    cases htime with
    | @mk minutes seconds hminutes hseconds =>
      have hdatelen : date.length = 10 := hdate.length
      have hminuteslen : minutes.length = 6 := hminutes.length
      have hshape := hasShape_of_fits hminutes (seconds ++ x)
      rw [List.append_assoc, List.append_assoc]
      simp only [takeDate, ← hdatelen, ← hminuteslen, List.take_left, List.drop_left, hshape,
        if_true, takeSeconds_of_isSeconds hseconds hx, List.append_assoc]

theorem takeDate_of_isLocalTime {s : List Char} (h : IsLocalTime s)
    (hx : startsWith isLiteralChar x = false) :
    takeDate (s ++ x) = (.localTime (String.ofList s), x) := by
  rw [takeDate_append_zone h (.of_stop hx), takeZone_of_stop hx, if_pos rfl]

theorem takeDate_of_isOffsetTime {s : List Char} (h : IsOffsetTime s) (x : List Char) :
    takeDate (s ++ x) = (.offsetTime (String.ofList s), x) := by
  cases h with
  | mk htime hzone =>
    rw [List.append_assoc, takeDate_append_zone htime (hzone.endsTime x), takeZone_of_isZone hzone,
      if_neg hzone.ne_nil]

end Lexemes

end ContentFilter.Expr
