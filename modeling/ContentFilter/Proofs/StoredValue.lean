import ContentFilter.Json.Number
import ContentFilter.Proofs.ShortestDecimal
import ContentFilter.Value.OfJson
import Mathlib.Data.List.Forall2

/-!
# What a content tree holds

A property of a content tree holds the value that its JSON value stands for. An integer is not
changed by that, whichever of the two kinds of numbers holds it, and a number of binary floating
point becomes a decimal that is rounded to it again; a string is a text unless it is written as a
time; an array is the list of what its items stand for, however deep they are nested.
-/

namespace ContentFilter

/-! ## Numbers that are read -/

namespace Json

open Binary64

/-- Scaling keeps to numbers that fit. -/
theorem fits_of_scaled? {x y : Binary64} {exponent : ℤ} (hx : x.Fits)
    (h : scaled? x exponent = some y) : y.Fits := by
  induction x, exponent using scaled?.induct with
  | case1 x exponent hsmall hsign s m e hmul =>
    rw [scaled?, if_pos hsmall, if_pos hsign, hmul] at h
    cases h
    exact hmul ▸ fits_mul _ _
  | case2 x exponent hsmall hsign hmul =>
    rw [scaled?, if_pos hsmall, if_pos hsign] at h
    split at h
    · rename_i s m e hfinite
      exact absurd hfinite (hmul s m e)
    · cases h
  | case3 x exponent hsmall hsign =>
    rw [scaled?, if_pos hsmall, if_neg hsign] at h
    cases h
    exact fits_div _ _
  | case4 x exponent hlarge hzero =>
    rw [scaled?, if_neg hlarge, if_pos hzero] at h
    cases h
    exact hx
  | case5 x exponent hlarge hzero hsign =>
    rw [scaled?, if_neg hlarge, if_neg hzero, if_pos hsign] at h
    cases h
  | case6 x exponent hlarge hzero hsign ih =>
    rw [scaled?, if_neg hlarge, if_neg hzero, if_neg hsign] at h
    exact ih (fits_div _ _) h

theorem fits_of_float? {negative : Bool} {lead trail : List Char} {exponent : ℤ} {x : Binary64}
    (h : float? negative lead trail exponent = some x) : x.Fits := by
  simp only [float?] at h
  split at h
  · exact fits_of_scaled? (fits_ofDigits _ _ _) h
  · split at h
    · cases h
    · cases h
      exact fits_ofDigits _ _ _

/-- A number that a lexeme is read as fits the format. -/
theorem fits_of_numberOf? {negative : Bool} {lead : List Char} {trail : Option (List Char)}
    {exponent : Option ℤ} {x : Binary64}
    (h : numberOf? negative lead trail exponent = some (.float x)) : x.Fits := by
  have hfloat : (float? negative lead (trail.getD []) (exponent.getD 0)).map JsonNumber.float =
      some (.float x) := by
    cases negative with
    | true | false =>
      simp only [numberOf?, Bool.false_eq_true, reduceIte] at h
      split at h
      · cases h
      · exact h
  obtain ⟨y, hy, hxy⟩ := Option.map_eq_some_iff.mp hfloat
  cases hxy
  exact fits_of_float? hy

end Json

namespace Value

variable {j : Json} {v : Value}

/-- The value is what a content tree holds for the JSON value. -/
inductive StoredFor : Json → Value → Prop where
  /-- No value is the value `null`. -/
  | null : StoredFor .null .null
  /-- A truth value. -/
  | boolean (b : Bool) : StoredFor (.bool b) (.boolean b)
  /-- An integer of 64 bits with a sign. -/
  | integer (n : Int64) : StoredFor (.number (.integer n.toInt)) (.integer n)
  /-- Any other integer is a decimal without places. -/
  | wide {n : Int} (h : ∀ m : Int64, m.toInt ≠ n) :
    StoredFor (.number (.integer n)) (.decimal ⟨n, 0⟩)
  /-- A number of binary floating point is what it is written as. -/
  | float {x : Binary64} {d : Decimal} (h : Decimal.ofBinary64? .json x = some d) :
    StoredFor (.number (.float x)) (.decimal d)
  /-- An infinity and an undefined number are not written. -/
  | undefined {x : Binary64} (h : Decimal.ofBinary64? .json x = none) :
    StoredFor (.number (.float x)) .absent
  /-- A string that is written as a time keeps the offset it is written with. -/
  | calendar {s : String} {z : ZonedTime} (h : Calendar.readStored? s.toList = some z) :
    StoredFor (.text s) (.calendar z)
  /-- Any other string. -/
  | text {s : String} (h : Calendar.readStored? s.toList = none) : StoredFor (.text s) (.text s)
  /-- An array, item by item. -/
  | list {items : List Json} {values : List Value} (h : List.Forall₂ StoredFor items values) :
    StoredFor (.array items) (.list values)
  /-- An object is no value. -/
  | object (members : List (String × Json)) : StoredFor (.object members) .absent

/-! ## Every JSON value stands for one value -/

theorem storedFor_number (n : JsonNumber) : StoredFor (.number n) (ofJsonNumber n) := by
  cases n with
  | integer n =>
    rw [ofJsonNumber]
    by_cases hfits : fitsInt64 n = true
    · rw [if_pos hfits]
      have hn := toInt_ofInt_of_fitsInt64 hfits
      have hstored := StoredFor.integer (.ofInt n)
      rwa [hn] at hstored
    · rw [if_neg hfits]
      refine .wide fun m hm => hfits ?_
      rw [← hm]
      exact fitsInt64_toInt m
  | float x =>
    rw [ofJsonNumber]
    cases hx : Decimal.ofBinary64? .json x with
    | some d => exact .float hx
    | none => exact .undefined hx

theorem storedFor_text (s : String) : StoredFor (.text s) (ofStoredText s) := by
  rw [ofStoredText]
  cases hs : Calendar.readStored? s.toList with
  | some z => exact .calendar hs
  | none => exact .text hs

mutual

theorem storedFor_ofStored : ∀ j : Json, StoredFor j (ofStored j)
  | .null => .null
  | .bool b => .boolean b
  | .number n => storedFor_number n
  | .text s => storedFor_text s
  | .array items => .list (forall₂_storedFor items)
  | .object members => .object members

theorem forall₂_storedFor : ∀ items : List Json,
    List.Forall₂ StoredFor items (ofJsonAllWith ofStoredText items)
  | [] => .nil
  | item :: items => .cons (storedFor_ofStored item) (forall₂_storedFor items)

end

theorem eq_of_storedFor_number {n : JsonNumber} (h : StoredFor (.number n) v) :
    v = ofJsonNumber n := by
  cases h with
  | integer n => rw [ofJsonNumber, if_pos (fitsInt64_toInt n), Int64.ofInt_toInt]
  | wide hwide =>
    rw [ofJsonNumber, if_neg fun hfits => hwide _ (toInt_ofInt_of_fitsInt64 hfits)]
    rfl
  | float hx => rw [ofJsonNumber, hx]
  | undefined hx => rw [ofJsonNumber, hx]

theorem eq_of_storedFor_text {s : String} (h : StoredFor (.text s) v) : v = ofStoredText s := by
  cases h with
  | calendar hs => rw [ofStoredText, hs]
  | text hs => rw [ofStoredText, hs]

mutual

theorem eq_of_storedFor : ∀ {j : Json} {v : Value}, StoredFor j v → v = ofStored j
  | .null, _, h => by
    cases h
    rfl
  | .bool _, _, h => by
    cases h
    rfl
  | .number _, _, h => eq_of_storedFor_number h
  | .text _, _, h => eq_of_storedFor_text h
  | .array items, _, h => by
    cases h with
    | list hitems => exact congrArg list (eq_of_forall₂_storedFor hitems)
  | .object _, _, h => by
    cases h
    rfl

theorem eq_of_forall₂_storedFor : ∀ {items : List Json} {values : List Value},
    List.Forall₂ StoredFor items values → values = ofJsonAllWith ofStoredText items
  | [], _, h => by
    cases h
    rfl
  | _ :: _, _, h => by
    cases h with
    | cons hitem hitems =>
      rw [eq_of_storedFor hitem, eq_of_forall₂_storedFor hitems]
      rfl

end

/-- A content tree holds one value for each JSON value, and `ofStored` gives it. -/
theorem storedFor_iff : StoredFor j v ↔ v = ofStored j := by
  constructor
  · exact eq_of_storedFor
  · rintro rfl
    exact storedFor_ofStored j

/-! ## Numbers that are held -/

/-- An integer is held as a number with its value. -/
theorem exists_toRat_of_storedFor_integer {n : ℤ} (h : StoredFor (.number (.integer n)) v) :
    ∃ d, v.toDecimal? = some d ∧ d.toRat = n := by
  cases h with
  | integer m => exact ⟨_, rfl, Decimal.toRat_ofInt _⟩
  | wide => exact ⟨_, rfl, Decimal.toRat_ofInt n⟩

open Binary64 in
/-- A finite number of binary floating point is held as a decimal that is rounded to it. -/
theorem exists_roundsTo_of_storedFor_float {negative : Bool} {m : ℕ} {e : ℤ}
    (hfits : Fits (.finite negative m e))
    (h : StoredFor (.number (.float (.finite negative m e))) v) :
    ∃ d x, v = .decimal d ∧ RoundsTo x m e ∧ d.toRat = if negative then -x else x := by
  obtain ⟨d, x, hd, hx, hvalue⟩ :=
    Decimal.exists_ofBinary64?_finite .json negative (hfits _ _ _ rfl) e
  refine ⟨d, x, ?_, hx, hvalue⟩
  rw [eq_of_storedFor_number h, ofJsonNumber, hd]

end Value

end ContentFilter
