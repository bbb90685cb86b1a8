import ContentFilter.Expr.Cursor
import ContentFilter.Proofs.Lexeme
import Mathlib

/-!
# Positions between characters

A position is a boundary of a text if it lies between two characters, and the text can be sliced
exactly there. Boundaries are told by what follows them: an end of the text stands at one position
only, its `place`.
-/

namespace ContentFilter.Expr.Cursor

open Text

/-! ## Sizes -/

@[simp] theorem byteSize_nil : byteSize [] = 0 := rfl

@[simp] theorem byteSize_cons (c : Char) (s : List Char) :
    byteSize (c :: s) = c.utf8Size + byteSize s := rfl

@[simp] theorem byteSize_append (s t : List Char) :
    byteSize (s ++ t) = byteSize s + byteSize t := by
  induction s with
  | nil => simp
  | cons c s ih => rw [List.cons_append, byteSize_cons, byteSize_cons, ih, Nat.add_assoc]

theorem byteSize_toList (text : String) : byteSize text.toList = text.utf8ByteSize := by
  have hofList : ∀ s : List Char, (String.ofList s).utf8ByteSize = byteSize s := by
    intro s
    induction s with
    | nil => rfl
    | cons c s ih =>
      rw [String.ofList_cons, String.utf8ByteSize_append, ih, String.utf8ByteSize_singleton,
        byteSize_cons]
  rw [← hofList, String.ofList_toList]

theorem utf8Size_of_lt {c : Char} (h : c.toNat < 128) : c.utf8Size = 1 := by
  rw [Char.utf8Size_eq_one_iff, UInt32.le_iff_toNat_le]
  exact Nat.le_of_lt_succ h

/-- ASCII characters have one byte each. -/
theorem byteSize_of_ascii {s : List Char} (h : ∀ c ∈ s, c.toNat < 128) : byteSize s = s.length := by
  induction s with
  | nil => rfl
  | cons c s ih =>
    obtain ⟨hc, hs⟩ := List.forall_mem_cons.mp h
    rw [byteSize_cons, utf8Size_of_lt hc, ih hs, List.length_cons, Nat.add_comm]

theorem byteSize_pos {s : List Char} (hs : s ≠ []) : 0 < byteSize s := by
  cases s with
  | nil => exact absurd rfl hs
  | cons c s =>
    have := Char.utf8Size_pos c
    rw [byteSize_cons]
    omega

/-! ## Slices -/

theorem splitBytes?_zero (s : List Char) : splitBytes? 0 s = some ([], s) := by
  cases s <;> rfl

theorem splitBytes?_cons {n : Nat} (hn : 0 < n) (c : Char) (s : List Char) :
    splitBytes? n (c :: s) =
      if c.utf8Size ≤ n then
        (splitBytes? (n - c.utf8Size) s).map fun (front, rest) => (c :: front, rest)
      else none := by
  obtain ⟨m, rfl⟩ : ∃ m, n = m + 1 := ⟨n - 1, by omega⟩
  rfl

theorem splitBytes?_append (front rest : List Char) :
    splitBytes? (byteSize front) (front ++ rest) = some (front, rest) := by
  induction front with
  | nil => exact splitBytes?_zero rest
  | cons c front ih =>
    have hc := Char.utf8Size_pos c
    rw [List.cons_append, byteSize_cons, splitBytes?_cons (by omega), if_pos (by omega),
      Nat.add_sub_cancel_left, ih]
    rfl

/-- The text is split where the bytes of some first characters end, and nowhere else. -/
theorem splitBytes?_eq_some_iff {n : Nat} {s front rest : List Char} :
    splitBytes? n s = some (front, rest) ↔ s = front ++ rest ∧ n = byteSize front := by
  constructor
  · intro h
    induction s generalizing n front rest with
    | nil =>
      cases n with
      | zero =>
        cases h
        exact ⟨rfl, rfl⟩
      | succ n => cases h
    | cons c s ih =>
      cases n with
      | zero =>
        cases h
        exact ⟨rfl, rfl⟩
      | succ n =>
        rw [splitBytes?_cons (Nat.succ_pos n), Option.ite_none_right_eq_some] at h
        obtain ⟨hc, h⟩ := h
        obtain ⟨⟨front', rest'⟩, hsplit, heq⟩ := Option.map_eq_some_iff.mp h
        cases heq
        obtain ⟨rfl, hn⟩ := ih hsplit
        refine ⟨rfl, ?_⟩
        rw [byteSize_cons, ← hn]
        omega
  · rintro ⟨rfl, rfl⟩
    exact splitBytes?_append front rest

/-! ## Boundaries and places -/

/-- The position lies between two characters of the text or at one of its ends. -/
def IsBoundary (text : String) (i : Nat) : Prop :=
  String.Pos.Raw.IsValid text ⟨i⟩

theorem isBoundary_iff {text : String} {i : Nat} : IsBoundary text i ↔
    ∃ front rest, text.toList = front ++ rest ∧ i = byteSize front := by
  rw [IsBoundary, String.Pos.Raw.isValid_iff_exists_append]
  constructor
  · rintro ⟨front, rest, rfl, hi⟩
    refine ⟨front.toList, rest.toList, String.toList_append, ?_⟩
    rw [byteSize_toList]
    exact congrArg String.Pos.Raw.byteIdx hi
  · rintro ⟨front, rest, htext, rfl⟩
    refine ⟨String.ofList front, String.ofList rest, ?_, ?_⟩
    · rw [← String.ofList_append, ← htext, String.ofList_toList]
    · rw [String.Pos.Raw.ext_iff, String.byteIdx_rawEndPos, ← byteSize_toList, String.toList_ofList]

/-- The text can be sliced exactly at its boundaries. -/
theorem isBoundary_iff_splitBytes? {text : String} {i : Nat} :
    IsBoundary text i ↔ splitBytes? i text.toList ≠ none := by
  rw [isBoundary_iff, Option.ne_none_iff_exists']
  constructor
  · rintro ⟨front, rest, htext, hi⟩
    exact ⟨(front, rest), splitBytes?_eq_some_iff.mpr ⟨htext, hi⟩⟩
  · rintro ⟨⟨front, rest⟩, h⟩
    exact ⟨front, rest, splitBytes?_eq_some_iff.mp h⟩

/-- The position from which on an end of the text follows. -/
def place (text : String) (s : List Char) : Nat :=
  text.utf8ByteSize - byteSize s

section Places

variable {text : String} {s t w : List Char}

theorem place_eq {front : List Char} (h : text.toList = front ++ s) :
    place text s = byteSize front := by
  rw [place, ← byteSize_toList, h, byteSize_append, Nat.add_sub_cancel]

theorem isBoundary_place (hs : s <:+ text.toList) : IsBoundary text (place text s) := by
  obtain ⟨front, h⟩ := hs
  exact isBoundary_iff.mpr ⟨front, s, h.symm, place_eq h.symm⟩

theorem exists_place_eq {i : Nat} (h : IsBoundary text i) :
    ∃ s, s <:+ text.toList ∧ i = place text s := by
  obtain ⟨front, rest, htext, rfl⟩ := isBoundary_iff.mp h
  exact ⟨rest, ⟨front, htext.symm⟩, (place_eq htext).symm⟩

theorem place_toList (text : String) : place text text.toList = 0 :=
  place_eq (List.nil_append _).symm

theorem place_le (text : String) (s : List Char) : place text s ≤ text.utf8ByteSize :=
  Nat.sub_le _ _

theorem place_nil (text : String) : place text [] = text.utf8ByteSize := rfl

/-- Behind some characters the position is larger by their size. -/
theorem place_append (h : w ++ s <:+ text.toList) :
    place text s = place text (w ++ s) + byteSize w := by
  obtain ⟨front, hfront⟩ := h
  have hbehind : text.toList = (front ++ w) ++ s := by rw [← hfront, List.append_assoc]
  rw [place_eq hfront.symm, place_eq hbehind, byteSize_append]

theorem place_lt (ht : t <:+ text.toList) (hs : s <:+ t) (hlt : s.length < t.length) :
    place text t < place text s := by
  obtain ⟨w, rfl⟩ := hs
  have hw : w ≠ [] := by
    rintro rfl
    simp at hlt
  have := byteSize_pos hw
  rw [place_append ht]
  omega

theorem splitBytes?_place (hs : s <:+ text.toList) :
    ∃ front, text.toList = front ++ s ∧
      splitBytes? (place text s) text.toList = some (front, s) := by
  obtain ⟨front, h⟩ := hs
  refine ⟨front, h.symm, ?_⟩
  rw [place_eq h.symm, ← h]
  exact splitBytes?_append front s

theorem slice?_place (h : w ++ s <:+ text.toList) :
    slice? text (place text (w ++ s)) (place text s) = some w := by
  obtain ⟨front, htext, hsplit⟩ := splitBytes?_place h
  have hle : place text (w ++ s) ≤ place text s := by
    rw [place_append h]
    omega
  rw [slice?, if_pos hle, hsplit, place_append h, Nat.add_sub_cancel_left]
  exact congrArg (Option.map Prod.fst) (splitBytes?_append w s)

end Places

/-! ## Bytes -/

theorem bytes_toUTF8 (text : String) : text.toUTF8.data.toList = bytesOf text.toList := by
  rw [String.toUTF8_eq_toByteArray, ← String.utf8Encode_toList, List.utf8Encode,
    List.toList_data_toByteArray]
  rfl

theorem bytesOf_cons (c : Char) (s : List Char) :
    bytesOf (c :: s) = String.utf8EncodeChar c ++ bytesOf s :=
  List.flatMap_cons

theorem length_bytesOf (s : List Char) : (bytesOf s).length = byteSize s := by
  induction s with
  | nil => rfl
  | cons c s ih =>
    rw [bytesOf_cons, List.length_append, String.length_utf8EncodeChar, ih, byteSize_cons]

theorem bytesOf_append (s t : List Char) : bytesOf (s ++ t) = bytesOf s ++ bytesOf t :=
  List.flatMap_append

/-- An ASCII character is one byte; another one begins with a byte that is no ASCII character. -/
theorem exists_bytesOf_cons (c : Char) (s : List Char) : ∃ b bs,
    bytesOf (c :: s) = b :: bs ∧ (c.toNat < 128 → b.toNat = c.toNat ∧ bs = bytesOf s) ∧
      (128 ≤ c.toNat → 128 ≤ b.toNat) := by
  have hv : c.val.toNat = c.toNat := rfl
  rw [bytesOf_cons, String.utf8EncodeChar]
  simp only [hv]
  split
  · refine ⟨_, _, rfl, fun h => ⟨?_, rfl⟩, fun h => ?_⟩
    · rw [UInt8.toNat_ofNat']
      omega
    · omega
  · split
    · refine ⟨_, _, rfl, fun h => ?_, fun h => ?_⟩
      · omega
      · rw [UInt8.toNat_ofNat']
        omega
    · split
      · refine ⟨_, _, rfl, fun h => ?_, fun h => ?_⟩
        · omega
        · rw [UInt8.toNat_ofNat']
          omega
      · refine ⟨_, _, rfl, fun h => ?_, fun h => ?_⟩
        · omega
        · rw [UInt8.toNat_ofNat']
          omega

theorem byteFits_eq {x c : Char} {bx b : UInt8} (hx : bx.toNat = x.toNat)
    (hc : b.toNat = c.toNat) : byteFits bx b = if x = '9' then c.isDigit else c == x := by
  have hnine : bx = 57 ↔ x = '9' := by
    rw [← UInt8.toNat_inj, hx, ← Char.toNat_inj]
    rfl
  by_cases h : x = '9'
  · rw [byteFits, if_pos (hnine.mpr h), if_pos h, Bool.eq_iff_iff, isDigit_iff]
    simp [UInt8.le_iff_toNat_le, hc]
  · rw [byteFits, if_neg (fun heq => h (hnine.mp heq)), if_neg h, Bool.eq_iff_iff, beq_iff_eq,
      beq_iff_eq, ← UInt8.toNat_inj, ← Char.toNat_inj, hx, hc]

theorem byteFits_of_le {x : Char} {bx b : UInt8} (hx : bx.toNat = x.toNat) (hascii : x.toNat < 128)
    (hb : 128 ≤ b.toNat) : byteFits bx b = false := by
  have hne : b ≠ bx := by
    rintro rfl
    omega
  have hnine : ¬ b ≤ 57 := by
    rw [UInt8.le_iff_toNat_le]
    exact Nat.not_le.mpr (Nat.lt_of_lt_of_le (by decide) hb)
  rw [byteFits]
  split
  · simp [hnine]
  · exact beq_false_of_ne hne

/-- Testing a shape byte by byte is testing it character by character. -/
theorem haveShape_bytesOf {shape : List Char} (hshape : ∀ x ∈ shape, x.toNat < 128)
    (front s : List Char) :
    haveShape (bytesOf (front ++ s)) (byteSize front) (bytesOf shape) = hasShape shape s := by
  induction shape generalizing front s with
  | nil => cases s <;> rfl
  | cons x shape ih =>
    obtain ⟨hx, hrest⟩ := List.forall_mem_cons.mp hshape
    obtain ⟨bx, bs, hbytes, hascii, -⟩ := exists_bytesOf_cons x shape
    obtain ⟨hbx, rfl⟩ := hascii hx
    rw [hbytes, haveShape]
    cases s with
    | nil =>
      have hnone : (bytesOf (front ++ []))[byteSize front]? = none := by
        rw [List.append_nil, List.getElem?_eq_none_iff, length_bytesOf]
      rw [hnone]
      rfl
    | cons c s =>
      obtain ⟨b, bs, hb, hsmall, hlarge⟩ := exists_bytesOf_cons c s
      have hsome : (bytesOf (front ++ c :: s))[byteSize front]? = some b := by
        rw [bytesOf_append, ← length_bytesOf, List.getElem?_append_right (Nat.le_refl _), hb,
          Nat.sub_self]
        rfl
      rw [hsome, hasShape]
      by_cases hc : c.toNat < 128
      · have hsize : byteSize (front ++ [c]) = byteSize front + 1 := by
          rw [byteSize_append, byteSize_of_ascii (s := [c]) (List.forall_mem_singleton.mpr hc)]
          rfl
        have hnext := ih hrest (front ++ [c]) s
        rw [List.append_assoc, hsize] at hnext
        exact congrArg₂ _ (byteFits_eq hbx (hsmall hc).1) hnext
      · have hfits := byteFits_of_le hbx hx (hlarge (Nat.le_of_not_lt hc))
        have hne : c ≠ x := by
          rintro rfl
          exact hc hx
        have hdigit : c.isDigit = false := by
          rw [Bool.eq_false_iff, ne_eq, isDigit_iff]
          omega
        simp [hfits, hdigit, hne]

end ContentFilter.Expr.Cursor
