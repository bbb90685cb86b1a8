import ContentFilter.Calendar.Iso
import ContentFilter.Calendar.Text
import ContentFilter.Proofs.DecimalPrinting

/-!
# What the items of a format take

A number in as many digits as its field has is taken by the strict item of the field and by the
lenient one alike, whatever follows. So a format is followed through a text piece by piece, without
looking at what is entered: `Enters` says which part of a text some items take and what they enter
then. Whether the numbers are entered at all is a question about the fields alone.
-/

namespace ContentFilter

open Text ContentFilter.Expr

/-! ## Padded numbers -/

section Padding

variable {width n : ℕ} {c : Char} {s t ds : List Char}

theorem isDigit_of_mem_paddedDigits (hc : c ∈ paddedDigits width n) : c.isDigit = true := by
  rcases List.mem_append.mp hc with hc | hc
  · exact Numeral.isDigit_of_mem_zeros hc
  · exact isDigit_of_mem_digitsOf hc

theorem paddedDigits_ne_nil (width n : ℕ) : paddedDigits width n ≠ [] :=
  List.append_ne_nil_of_right_ne_nil _ (digitsOf_ne_nil n)

theorem isDigits_paddedDigits (width n : ℕ) : IsDigits (paddedDigits width n) :=
  ⟨paddedDigits_ne_nil width n, fun _ => isDigit_of_mem_paddedDigits⟩

theorem length_paddedDigits (hwidth : 0 < width) (h : n < 10 ^ width) :
    (paddedDigits width n).length = width := by
  have hle : (digitsOf n).length ≤ width :=
    (Nat.length_toDigits_le_iff (by decide) hwidth).mpr h
  rw [paddedDigits, padZeros, List.length_append, List.length_replicate]
  exact Nat.sub_add_cancel hle

theorem valueOf_paddedDigits (width n : ℕ) : valueOf (paddedDigits width n) = n := by
  rw [paddedDigits, padZeros, Numeral.valueOf_zeros_append, valueOf_digitsOf]

theorem valueOf_singleton (c : Char) : valueOf [c] = c.toNat - '0'.toNat := by
  simp [valueOf, Nat.ofDigitChars]

theorem toNat_of_isDigit (h : c.isDigit = true) : 48 ≤ c.toNat ∧ c.toNat ≤ 57 := by
  rw [Char.isDigit, Bool.and_eq_true, decide_eq_true_iff, decide_eq_true_iff] at h
  exact ⟨UInt32.le_iff_toNat_le.mp h.1, UInt32.le_iff_toNat_le.mp h.2⟩

theorem valueOf_cons (c : Char) (ds : List Char) :
    valueOf (c :: ds) = 10 ^ ds.length * (c.toNat - 48) + valueOf ds := by
  rw [← List.singleton_append, valueOf_append, valueOf_singleton, Nat.pow_eq]
  rfl

theorem valueOf_lt (h : ∀ c ∈ ds, c.isDigit = true) : valueOf ds < 10 ^ ds.length := by
  induction ds with
  | nil => decide
  | cons c ds ih =>
    obtain ⟨hc, hds⟩ := List.forall_mem_cons.mp h
    obtain ⟨-, hnine⟩ := toNat_of_isDigit hc
    have hle : 10 ^ ds.length * (c.toNat - 48) ≤ 10 ^ ds.length * 9 :=
      Nat.mul_le_mul_left _ (by omega)
    have := ih hds
    rw [valueOf_cons, List.length_cons, Nat.pow_succ]
    omega

/-- Digits of one length denote one number if they are the same. -/
theorem eq_of_valueOf_eq (hs : ∀ c ∈ s, c.isDigit = true) (ht : ∀ c ∈ t, c.isDigit = true)
    (hlength : s.length = t.length) (h : valueOf s = valueOf t) : s = t := by
  induction s generalizing t with
  | nil => exact (List.eq_nil_of_length_eq_zero hlength.symm).symm
  | cons c s ih =>
    cases t with
    | nil => cases hlength
    | cons d t =>
      obtain ⟨hc, hs⟩ := List.forall_mem_cons.mp hs
      obtain ⟨hd, ht⟩ := List.forall_mem_cons.mp ht
      have hlength : s.length = t.length := Nat.succ.inj hlength
      have hslt := valueOf_lt hs
      have htlt := valueOf_lt ht
      rw [valueOf_cons, valueOf_cons, ← hlength] at h
      rw [← hlength] at htlt
      -- the rest is less than a unit of the first digit, so division gives the first digit alone
      have hfirst : c.toNat - 48 = d.toNat - 48 := by
        have hdiv := congrArg (· / 10 ^ s.length) h
        simp only [Nat.mul_add_div (Nat.pow_pos (by decide : 0 < 10)), Nat.div_eq_of_lt hslt,
          Nat.div_eq_of_lt htlt, Nat.add_zero] at hdiv
        exact hdiv
      rw [hfirst] at h
      have hchar : c = d := by
        obtain ⟨hczero, -⟩ := toNat_of_isDigit hc
        obtain ⟨hdzero, -⟩ := toNat_of_isDigit hd
        exact Char.ext (UInt32.toNat_inj.mp (show c.toNat = d.toNat by omega))
      rw [hchar, ih hs ht hlength (Nat.add_left_cancel h)]

/-- Digits are the padded number that they denote. -/
theorem paddedDigits_valueOf (h : IsDigits ds) : paddedDigits ds.length (valueOf ds) = ds := by
  have hlength := length_paddedDigits (List.length_pos_iff.mpr h.ne_nil) (valueOf_lt h.isDigit)
  exact eq_of_valueOf_eq (fun _ => isDigit_of_mem_paddedDigits) h.isDigit hlength
    (valueOf_paddedDigits _ _)

theorem isBlank_of_isDigit (hc : c.isDigit = true) : isBlank c = false :=
  isBlank_of_isWordChar (isWordChar_of_isDigit hc)

theorem skipBlanks_paddedDigits (width n : ℕ) (r : List Char) :
    skipBlanks (paddedDigits width n ++ r) = paddedDigits width n ++ r := by
  cases h : paddedDigits width n with
  | nil => exact absurd h (paddedDigits_ne_nil width n)
  | cons c ds =>
    have hdigit : c.isDigit = true := isDigit_of_mem_paddedDigits (h ▸ List.mem_cons_self)
    exact skipBlanks_cons_of_not_blank (isBlank_of_isDigit hdigit) _

end Padding

namespace Calendar

section Items

variable {f f' : Fields} {item : FormatItem} {items items' : List FormatItem} {q : Quantity}
  {width n : ℕ} {ds s t r : List Char} {enter step : Fields → Option Fields}

/-! ## Entering a field that is free -/

theorem bind_enterWithin (low high n : ℕ) (hold : Option ℕ → Fields) :
    ((Fields.enterWithin low high n none).bind fun held => some (hold held)) =
      if low ≤ n ∧ n ≤ high then some (hold (some n)) else none := by
  rw [Fields.enterWithin]
  by_cases h : low ≤ n ∧ n ≤ high
  · rw [if_pos h, if_pos (by omega)]
    rfl
  · rw [if_neg h, if_neg (by omega)]
    rfl

theorem set_month (hf : f.month = none) : f.set .month n =
    if 1 ≤ n ∧ n ≤ 12 then some { f with month := some n } else none := by
  rw [Fields.set, hf]
  exact bind_enterWithin 1 12 n fun held => { f with month := held }

theorem set_day (hf : f.day = none) : f.set .day n =
    if 1 ≤ n ∧ n ≤ 31 then some { f with day := some n } else none := by
  rw [Fields.set, hf]
  exact bind_enterWithin 1 31 n fun held => { f with day := held }

/-- An hour tells the half of the day as well. -/
theorem set_hour (hafternoon : f.afternoon = none) (hhour : f.hourOfHalf = none) :
    f.set .hour n = if n ≤ 23 then
      some { f with afternoon := some (decide (12 ≤ n)), hourOfHalf := some (n % 12) }
    else none := by
  have hafter : decide (12 ≤ (n : Int)) = decide (12 ≤ n) := by
    rw [decide_eq_decide]
    omega
  have hhalf : (if 12 ≤ (n : Int) then (n : Int) - 12 else n) =
      ((if 12 ≤ n then n - 12 else n : ℕ) : Int) := by
    by_cases h : 12 ≤ n
    · rw [if_pos h, if_pos (by omega)]
      omega
    · rw [if_neg h, if_neg (by omega)]
  have hset := bind_enterWithin 0 11 (if 12 ≤ n then n - 12 else n) fun held =>
    { f with afternoon := some (decide (12 ≤ n)), hourOfHalf := held }
  simp only [Fields.set, Fields.setAfternoon, hafternoon, hhour, enter, hafter, hhalf,
    Option.bind_eq_bind, Option.bind_some]
  refine hset.trans ?_
  by_cases h : n ≤ 23
  · have hmod : (if 12 ≤ n then n - 12 else n) = n % 12 := by
      split <;> omega
    rw [hmod, if_pos h, if_pos (by omega)]
  · have hge : ¬ (if 12 ≤ n then n - 12 else n) ≤ 11 := by
      split <;> omega
    rw [if_neg h, if_neg (by omega)]

theorem set_minute (hf : f.minute = none) : f.set .minute n =
    if n ≤ 59 then some { f with minute := some n } else none := by
  have hset := bind_enterWithin 0 59 n fun held => { f with minute := held }
  simp only [Nat.zero_le, true_and] at hset
  rw [Fields.set, hf]
  exact hset

theorem set_second (hf : f.second = none) : f.set .second n =
    if n ≤ 60 then some { f with second := some n } else none := by
  have hset := bind_enterWithin 0 60 n fun held => { f with second := held }
  simp only [Nat.zero_le, true_and] at hset
  rw [Fields.set, hf]
  exact hset

theorem set_nano (hf : f.nano = none) (h : n < 1000000000) :
    f.set .nano n = some { f with nano := some n } := by
  have hset := bind_enterWithin 0 999999999 n fun held => { f with nano := held }
  rw [if_pos (by omega)] at hset
  rw [Fields.set, hf]
  exact hset

/-! ## Reading a number -/

theorem readNumber?_digits (hds : IsDigits ds) (hle : ds.length ≤ width)
    (hr : startsWith Char.isDigit r = false) :
    readNumber? width (ds ++ r) = some (valueOf ds, r) := by
  have hstop : startsWith Char.isDigit (r.take (width - ds.length)) = false := by
    cases r with
    | nil => rw [List.take_nil]; rfl
    | cons c r =>
      cases width - ds.length with
      | zero => rfl
      | succ k => exact hr
  have hdigits : ((ds ++ r).take width).takeWhile Char.isDigit = ds := by
    rw [List.take_append, List.take_of_length_le hle]
    exact takeWhile_run hds.isDigit hstop
  simp only [readNumber?, hdigits, if_neg hds.ne_nil, List.drop_left]

/-- As many digits as the number may have are taken whatever follows. -/
theorem readNumber?_paddedDigits (hwidth : 0 < width) (h : n < 10 ^ width) (r : List Char) :
    readNumber? width (paddedDigits width n ++ r) = some (n, r) := by
  have hlength := length_paddedDigits hwidth h
  have hdigits : ((paddedDigits width n ++ r).take width).takeWhile Char.isDigit =
      paddedDigits width n := by
    rw [List.take_left' hlength]
    exact List.takeWhile_eq_self_iff.mpr fun _ => isDigit_of_mem_paddedDigits
  simp only [readNumber?, hdigits, if_neg (paddedDigits_ne_nil width n), hlength,
    List.drop_left' hlength, valueOf_paddedDigits]

theorem readDigits?_paddedDigits (hwidth : 0 < width) (h : n < 10 ^ width) (r : List Char) :
    readDigits? width (paddedDigits width n ++ r) = some (n, r) := by
  have hlength := length_paddedDigits hwidth h
  have hall : (paddedDigits width n).all Char.isDigit = true :=
    List.all_eq_true.mpr fun _ => isDigit_of_mem_paddedDigits
  simp only [readDigits?, List.take_left' hlength, List.drop_left' hlength, hlength, hall,
    valueOf_paddedDigits, and_self, if_true]

theorem width_pos (q : Quantity) : 0 < q.width := by
  cases q <;> decide

theorem readQuantity?_paddedDigits (h : n < 10 ^ q.width) (r : List Char) :
    readQuantity? q (paddedDigits q.width n ++ r) = some ((n : Int), r) := by
  have hread := readNumber?_paddedDigits (width_pos q) h r
  have hsign : ∀ {c : Char} {t : List Char}, paddedDigits q.width n ++ r = c :: t →
      c.isDigit = true := by
    intro c t heq
    have hstart := startsWith_of_isDigits (isDigits_paddedDigits q.width n) r
    rw [heq] at hstart
    exact hstart
  simp only [readQuantity?, skipBlanks_paddedDigits]
  split
  · rename_i heq
    cases hsign heq
  · rename_i heq
    cases hsign heq
  · rw [hread]
    rfl

/-- A fraction in nanoseconds, the digits after the ninth cut off. -/
theorem valueOf_take_nine (hds : ∀ c ∈ ds, c.isDigit = true) :
    valueOf (ds.take 9) * 10 ^ (9 - (ds.take 9).length) = valueOf ds * 10 ^ 9 / 10 ^ ds.length := by
  by_cases hlength : ds.length ≤ 9
  · have hpow : 10 ^ 9 = 10 ^ (9 - ds.length) * 10 ^ ds.length := by
      rw [← Nat.pow_add, Nat.sub_add_cancel hlength]
    rw [List.take_of_length_le hlength, hpow, ← Nat.mul_assoc,
      Nat.mul_div_cancel _ (Nat.pow_pos (by decide))]
  · have htake : (ds.take 9).length = 9 := List.length_take_of_le (by omega)
    have hcut : valueOf (ds.drop 9) < 10 ^ (ds.drop 9).length :=
      valueOf_lt fun c hc => hds c (List.mem_of_mem_drop hc)
    have hpow : 10 ^ ds.length = 10 ^ (ds.drop 9).length * 10 ^ 9 := by
      rw [← Nat.pow_add, List.length_drop, Nat.sub_add_cancel (by omega)]
    have hvalue : valueOf ds =
        10 ^ (ds.drop 9).length * valueOf (ds.take 9) + valueOf (ds.drop 9) := by
      rw [← Nat.pow_eq, ← valueOf_append, List.take_append_drop]
    rw [htake, hpow, Nat.mul_div_mul_right _ _ (by decide), hvalue,
      Nat.mul_add_div (Nat.pow_pos (by decide)), Nat.div_eq_of_lt hcut]
    simp

theorem readFraction?_digits (hds : IsDigits ds) (hr : startsWith Char.isDigit r = false) :
    readFraction? (ds ++ r) = some (valueOf ds * 10 ^ 9 / 10 ^ ds.length, r) := by
  have hdigits : (ds ++ r).takeWhile Char.isDigit = ds := takeWhile_run hds.isDigit hr
  simp only [readFraction?, hdigits, if_neg hds.ne_nil, List.drop_left, Nat.pow_eq,
    valueOf_take_nine hds.isDigit]

theorem read?_optionalFraction (h : readFraction? s = some (n, r)) :
    FormatItem.optionalFraction.read? f ('.' :: s) =
      (f.set .nano n).map fun f => (f, r) := by
  simp only [FormatItem.read?, h, Option.bind_eq_bind, Option.bind_some]
  cases f.set .nano n <;> rfl

/-! ## Following a format -/

/-- The items take `s` up to `r`, and they enter what they read as `enter` does. -/
def Enters (items : List FormatItem) (s r : List Char) (enter : Fields → Option Fields) : Prop :=
  ∀ f, readItems? items f s = (enter f).map fun f => (f, r)

/-- The item reads a number in as many digits as the quantity has, strictly or leniently. -/
inductive IsNumberItem (q : Quantity) : FormatItem → Prop where
  /-- Exactly so many digits. -/
  | strict : IsNumberItem q (.digits q q.width)
  /-- So many digits at most. -/
  | lenient : IsNumberItem q (.field (.number q))

theorem readItems?_append (items items' : List FormatItem) (f : Fields) (s : List Char) :
    readItems? (items ++ items') f s =
      (readItems? items f s).bind fun p => readItems? items' p.1 p.2 := by
  induction items generalizing f s with
  | nil => rfl
  | cons item items ih =>
    rw [List.cons_append, readItems?, readItems?]
    cases item.read? f s with
    | none => rfl
    | some p => exact ih p.1 p.2

theorem enters_nil (s : List Char) : Enters [] s s some :=
  fun _ => rfl

theorem Enters.congr {enter' : Fields → Option Fields} (h : Enters items s r enter)
    (heq : ∀ f, enter f = enter' f) : Enters items s r enter' :=
  fun f => heq f ▸ h f

theorem Enters.append (h : Enters items s t step) (h' : Enters items' t r enter) :
    Enters (items ++ items') s r fun f => (step f).bind enter := by
  intro f
  show _ = ((step f).bind enter).map _
  rw [readItems?_append, h f]
  cases step f with
  | none => rfl
  | some f => exact h' f

theorem Enters.cons (hitem : ∀ f, item.read? f s = (step f).map fun f => (f, t))
    (h : Enters items t r enter) :
    Enters (item :: items) s r fun f => (step f).bind enter := by
  intro f
  show _ = ((step f).bind enter).map _
  rw [readItems?, hitem f]
  cases step f with
  | none => rfl
  | some f => exact h f

/-- An item that enters nothing. -/
theorem Enters.skip (hitem : ∀ f, item.read? f s = some (f, t)) (h : Enters items t r enter) :
    Enters (item :: items) s r enter := by
  have hcons : Enters (item :: items) s r fun f => (some f).bind enter := .cons hitem h
  exact hcons

theorem Enters.literal {c : Char} (hc : isBlank c = false) (h : Enters items t r enter) :
    Enters (.literal c :: items) (c :: t) r enter :=
  .skip (fun f => by simp [FormatItem.read?, hc]) h

/-- A blank in the format need not be in the text. -/
theorem Enters.blank (hs : startsWith isBlank s = false) (h : Enters items s r enter) :
    Enters (.literal ' ' :: items) s r enter := by
  have hskip : skipBlanks s = s := by
    cases s with
    | nil => rfl
    | cons c s => exact skipBlanks_cons_of_not_blank hs s
  refine .skip (fun f => ?_) h
  have hblank : isBlank ' ' = true := by rfl
  simp only [FormatItem.read?, hblank, if_true, hskip]

theorem Enters.number (hitem : IsNumberItem q item) (hn : n < 10 ^ q.width)
    (h : Enters items t r enter) : Enters (item :: items) (paddedDigits q.width n ++ t) r
      fun f => (f.set q n).bind enter := by
  refine .cons (fun f => ?_) h
  cases hitem with
  | strict =>
    simp only [FormatItem.read?, readDigits?_paddedDigits (width_pos q) hn, Option.bind_eq_bind,
      Option.bind_some]
    cases f.set q n <;> rfl
  | lenient =>
    simp only [FormatItem.read?, Field.read?, readQuantity?_paddedDigits hn, Option.bind_eq_bind,
      Option.bind_some]
    cases f.set q n <;> rfl

theorem Enters.readFields?_eq (h : Enters items s [] enter) : readFields? items s = enter {} := by
  rw [readFields?, h {}]
  cases enter {} <;> rfl

/-- A text that goes on behind the format is not read. -/
theorem Enters.readFields?_eq_none {c : Char} (h : Enters items s (c :: r) enter) :
    readFields? items s = none := by
  rw [readFields?, h {}]
  cases enter {} <;> rfl

/-- A text is not read if it goes on in a way in which the format does not. -/
theorem Enters.readFields?_append (h : Enters items s t enter)
    (h' : ∀ f, readItems? items' f t = none) : readFields? (items ++ items') s = none := by
  rw [readFields?, readItems?_append, h {}]
  cases enter {} with
  | none => rfl
  | some f =>
    rw [Option.map_some, Option.bind_some, h' f]

end Items

end Calendar

end ContentFilter
