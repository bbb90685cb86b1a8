import ContentFilter.Calendar.Pattern
import ContentFilter.Proofs.Lexeme
import Mathlib

/-!
# The format text of a date pattern

A pattern is written part by part: runs of a letter, texts between apostrophes in which every
apostrophe is doubled, and characters that stand for themselves. Its format text is made part by
part as well. The main statement `patternCode?_partsText` says so of every sequence of parts that
are kept apart, and that the format text reads back as the fields of the runs and the characters
of the other parts, so that no text is taken for a field.
-/

namespace ContentFilter.Calendar

open Text ContentFilter.Expr

/-! ## Parts of a pattern -/

/-- A part that a pattern is written with. -/
inductive PatternPart where
  /-- A letter, so many times. -/
  | run (letter : Char) (count : Nat) (hletter : letter.isAlpha = true) (hcount : 0 < count)
  /-- A text between apostrophes that does not consist of apostrophes alone. -/
  | quoted (text : List Char) (htext : ∃ c ∈ text, c ≠ '\'')
  /-- A character that stands for itself. -/
  | single (c : Char) (hletter : c.isAlpha = false) (hquote : c ≠ '\'')

/-- The text with every apostrophe doubled. -/
def doubleQuotes (text : List Char) : List Char :=
  text.flatMap fun c => if c = '\'' then ['\'', '\''] else [c]

/-- How the part is written. -/
def PatternPart.text : PatternPart → List Char
  | .run letter count _ _ => List.replicate count letter
  | .quoted text _ => '\'' :: (doubleQuotes text ++ ['\''])
  | .single c _ _ => [c]

/-- Two neighbours that cannot be taken for one part: they are not runs of the same letter and not
    both between apostrophes. -/
def PatternPart.Apart : PatternPart → PatternPart → Prop
  | .run letter _ _ _, .run letter' _ _ _ => letter ≠ letter'
  | .quoted _ _, .quoted _ _ => False
  | _, _ => True

/-- The parts one after the other. -/
def partsText (parts : List PatternPart) : String :=
  String.ofList (parts.flatMap PatternPart.text)

/-! ## What the parts stand for -/

/-- The letters that have a field. -/
def fieldLetters : List Char :=
  ['y', 'M', 'd', 'D', 'E', 'u', 'a', 'H', 'k', 'h', 'K', 'm', 's', 'S', 'Z', 'X']

/-- The code of the field that a run of a letter stands for. -/
def runCode? (letter : Char) (count : Nat) : Option String :=
  match letter with
  | 'y' => some (if count = 2 then "%y" else "%Y")
  | 'M' => some (if count ≤ 2 then "%m" else if count = 3 then "%b" else "%B")
  | 'd' => some "%d"
  | 'D' => some "%j"
  | 'E' => some (if count ≤ 3 then "%a" else "%A")
  | 'u' => some "%u"
  | 'a' => some "%p"
  | 'H' | 'k' => some "%H"
  | 'h' | 'K' => some "%I"
  | 'm' => some "%M"
  | 's' => some "%S"
  | 'S' =>
    some (if count = 3 then "%3f" else if count = 6 then "%6f" else if count = 9 then "%9f"
      else "%f")
  | 'Z' => some "%z"
  | 'X' => some (if count = 1 then "%#z" else if count = 2 then "%z" else "%:z")
  | _ => none

/-- The text with every percent sign doubled. -/
def doublePercents (text : List Char) : String :=
  String.ofList (text.flatMap fun c => if c = '%' then ['%', '%'] else [c])

/-- The format text of a part; a run of a letter without a field has none. -/
def PatternPart.code? : PatternPart → Option String
  | .run letter count _ _ => runCode? letter count
  | .quoted text _ => some (doublePercents text)
  | .single c _ _ => some (doublePercents [c])

/-- The items of a part: a field for a run, and the characters themselves for the other parts. -/
def PatternPart.items? : PatternPart → Option (List FormatItem)
  | .run letter count _ _ => (patternField? letter count).map ([.field ·])
  | .quoted text _ => some (text.map .literal)
  | .single c _ _ => some [.literal c]

/-! ## Fields and their codes -/

theorem runCode?_eq_none_iff {letter : Char} {count : Nat} :
    runCode? letter count = none ↔ letter ∉ fieldLetters := by
  unfold runCode?
  split <;> simp_all [fieldLetters]

theorem code_fraction : (Field.fraction 3).code = "%3f" ∧ (Field.fraction 6).code = "%6f" ∧
    (Field.fraction 9).code = "%9f" := by
  decide

theorem map_code_patternField? (letter : Char) (count : Nat) :
    (patternField? letter count).map Field.code = runCode? letter count := by
  obtain ⟨h3, h6, h9⟩ := code_fraction
  unfold patternField? runCode?
  split <;> grind only [Field.code, Option.map_some, Option.map_none]

/-- The item that a percent sign and one more character stand for. -/
def codeItem? : Char → Option FormatItem
  | '%' => some (.literal '%')
  | 'Y' => some (.field (.number .year))
  | 'y' => some (.field (.number .yearOfCentury))
  | 'm' => some (.field (.number .month))
  | 'b' => some (.field (.monthName false))
  | 'B' => some (.field (.monthName true))
  | 'd' => some (.field (.number .day))
  | 'j' => some (.field (.number .ordinal))
  | 'a' => some (.field (.weekdayName false))
  | 'A' => some (.field (.weekdayName true))
  | 'u' => some (.field (.number .weekday))
  | 'p' => some (.field .halfDay)
  | 'H' => some (.field (.number .hour))
  | 'I' => some (.field (.number .hour12))
  | 'M' => some (.field (.number .minute))
  | 'S' => some (.field (.number .second))
  | 'f' => some (.field (.number .nano))
  | 'z' => some (.field (.zone .basic))
  | _ => none

/-- The items of a format text. Only a percent sign begins a code, and it always does. -/
def formatItems? : List Char → Option (List FormatItem)
  | '%' :: '3' :: 'f' :: r => (formatItems? r).map (.field (.fraction 3) :: ·)
  | '%' :: '6' :: 'f' :: r => (formatItems? r).map (.field (.fraction 6) :: ·)
  | '%' :: '9' :: 'f' :: r => (formatItems? r).map (.field (.fraction 9) :: ·)
  | '%' :: ':' :: 'z' :: r => (formatItems? r).map (.field (.zone .colon) :: ·)
  | '%' :: '#' :: 'z' :: r => (formatItems? r).map (.field (.zone .permissive) :: ·)
  | '%' :: c :: r => (codeItem? c).bind fun item => (formatItems? r).map (item :: ·)
  | ['%'] => none
  | c :: r => (formatItems? r).map (.literal c :: ·)
  | [] => some []

/-- The fields that patterns have. -/
def patternFields : List Field :=
  [.number .year, .number .yearOfCentury, .number .month, .monthName false, .monthName true,
    .number .day, .number .ordinal, .weekdayName false, .weekdayName true, .number .weekday,
    .halfDay, .number .hour, .number .hour12, .number .minute, .number .second, .number .nano,
    .fraction 3, .fraction 6, .fraction 9, .zone .basic, .zone .colon, .zone .permissive]

theorem mem_patternFields {letter : Char} {count : Nat} {f : Field}
    (h : patternField? letter count = some f) : f ∈ patternFields := by
  unfold patternField? at h
  split at h <;> cases h <;> (repeat' split) <;> simp_all [patternFields]

/-- The code of a field is read as the field. -/
theorem formatItems?_code {f : Field} (hf : f ∈ patternFields) (s : List Char) :
    formatItems? (f.code.toList ++ s) = (formatItems? s).map (.field f :: ·) := by
  simp only [patternFields, List.mem_cons, List.not_mem_nil, or_false] at hf
  rcases hf with rfl | rfl | rfl | rfl | rfl | rfl | rfl | rfl | rfl | rfl | rfl | rfl | rfl |
    rfl | rfl | rfl | rfl | rfl | rfl | rfl | rfl | rfl
  all_goals rfl

theorem formatItems?_literal (c : Char) (s : List Char) :
    formatItems? ((FormatItem.literal c).code.toList ++ s) =
      (formatItems? s).map (.literal c :: ·) := by
  by_cases hc : c = '%'
  · subst hc
    rfl
  · simp [FormatItem.code, hc, formatItems?]

/-- The format text of the item is read as the item, whatever follows it. -/
def FormatItem.ReadsBack (item : FormatItem) : Prop :=
  ∀ s, formatItems? (item.code.toList ++ s) = (formatItems? s).map (item :: ·)

theorem formatItems?_join {items : List FormatItem} (h : ∀ item ∈ items, item.ReadsBack) :
    formatItems? (String.join (items.map FormatItem.code)).toList = some items := by
  induction items with
  | nil => rfl
  | cons item items ih =>
    have hrest := ih fun other hmem => h other (List.mem_cons_of_mem item hmem)
    rw [List.map_cons, String.join_cons, String.toList_append, h item List.mem_cons_self, hrest]
    rfl

/-! ## Reading a pattern part by part -/

section Reading

variable {s : List Char}

theorem doubleQuotes_cons_of_ne {c : Char} (hc : c ≠ '\'') (text : List Char) :
    doubleQuotes (c :: text) = c :: doubleQuotes text := by
  simp [doubleQuotes, hc]

theorem doubleQuotes_quote (text : List Char) :
    doubleQuotes ('\'' :: text) = '\'' :: '\'' :: doubleQuotes text := rfl

theorem ne_cons_of_startsWith_beq {c : Char} (hs : startsWith (· == c) s = false) (r : List Char) :
    s ≠ c :: r := by
  rintro rfl
  simp at hs

theorem quotedItems_cons_of_ne {c : Char} (hc : c ≠ '\'') (s : List Char) :
    quotedItems (c :: s) = (.literal c :: (quotedItems s).1, (quotedItems s).2) := by
  rw [quotedItems]
  · intro r h
    exact absurd h hc
  · exact hc

theorem quotedItems_quote (hs : startsWith (· == '\'') s = false) :
    quotedItems ('\'' :: s) = ([], s) := by
  rw [quotedItems]
  exact ne_cons_of_startsWith_beq hs

/-- A text between apostrophes is read up to the one that closes it. -/
theorem quotedItems_doubleQuotes (hs : startsWith (· == '\'') s = false) (text : List Char) :
    quotedItems (doubleQuotes text ++ '\'' :: s) = (text.map .literal, s) := by
  induction text with
  | nil => exact quotedItems_quote hs
  | cons c text ih =>
    by_cases hc : c = '\''
    · subst hc
      rw [doubleQuotes_quote, List.cons_append, List.cons_append, quotedItems, ih]
      rfl
    · rw [doubleQuotes_cons_of_ne hc, List.cons_append, quotedItems_cons_of_ne hc, ih]
      rfl

theorem patternItems?_pair (s : List Char) :
    patternItems? ('\'' :: '\'' :: s) = (patternItems? s).map (.literal '\'' :: ·) := by
  rw [patternItems?]

theorem patternItems?_open (hs : startsWith (· == '\'') s = false) :
    patternItems? ('\'' :: s) =
      (patternItems? (quotedItems s).2).map ((quotedItems s).1 ++ ·) := by
  rw [patternItems?]
  exact ne_cons_of_startsWith_beq hs

/-- Apostrophes at the front of a quoted text are read before the text is open, the others in it. -/
theorem patternItems?_quoted (hs : startsWith (· == '\'') s = false) {text : List Char}
    (htext : ∃ c ∈ text, c ≠ '\'') :
    patternItems? ('\'' :: (doubleQuotes text ++ '\'' :: s)) =
      (patternItems? s).map (text.map .literal ++ ·) := by
  induction text with
  | nil =>
    obtain ⟨c, hc, -⟩ := htext
    cases hc
  | cons c text ih =>
    by_cases hc : c = '\''
    · subst hc
      have hrest : ∃ d ∈ text, d ≠ '\'' := by
        obtain ⟨d, hd, hne⟩ := htext
        exact ⟨d, (List.mem_cons.mp hd).resolve_left hne, hne⟩
      rw [doubleQuotes_quote, List.cons_append, List.cons_append, patternItems?_pair, ih hrest,
        Option.map_map]
      rfl
    · have hopen : startsWith (· == '\'') (doubleQuotes (c :: text) ++ '\'' :: s) = false := by
        rw [doubleQuotes_cons_of_ne hc, List.cons_append, startsWith_cons]
        exact beq_false_of_ne hc
      rw [patternItems?_open hopen, quotedItems_doubleQuotes hs]

theorem patternItems?_cons_of_ne {c : Char} (hc : c ≠ '\'') (s : List Char) :
    patternItems? (c :: s) =
      if c.isAlpha then
        (patternField? c ((s.takeWhile (· == c)).length + 1)).bind fun f =>
          (patternItems? (s.dropWhile (· == c))).map (.field f :: ·)
      else (patternItems? s).map (.literal c :: ·) := by
  rw [patternItems?]
  · cases patternField? c ((s.takeWhile (· == c)).length + 1) <;> rfl
  · intro r h
    exact absurd h hc
  · exact hc

theorem patternItems?_single {c : Char} (hletter : c.isAlpha = false) (hquote : c ≠ '\'')
    (s : List Char) : patternItems? (c :: s) = (patternItems? s).map (.literal c :: ·) := by
  rw [patternItems?_cons_of_ne hquote, hletter]
  rfl

theorem patternItems?_run {letter : Char} {count : Nat} (hletter : letter.isAlpha = true)
    (hcount : 0 < count) (hs : startsWith (· == letter) s = false) :
    patternItems? (List.replicate count letter ++ s) =
      (patternField? letter count).bind fun f => (patternItems? s).map (.field f :: ·) := by
  obtain ⟨n, rfl⟩ : ∃ n, count = n + 1 := ⟨count - 1, by omega⟩
  have hquote : letter ≠ '\'' := by
    rintro rfl
    cases hletter
  have hrun : ∀ c ∈ List.replicate n letter, (c == letter) = true := by
    intro c hc
    exact beq_iff_eq.mpr (List.eq_of_mem_replicate hc)
  rw [List.replicate_succ, List.cons_append, patternItems?_cons_of_ne hquote, if_pos hletter,
    takeWhile_run hrun hs, dropWhile_run hrun hs, List.length_replicate]

end Reading

/-! ## Parts and what follows them -/

namespace PatternPart

/-- The first character of the part. -/
def first : PatternPart → Char
  | .run letter _ _ _ => letter
  | .quoted _ _ => '\''
  | .single c _ _ => c

/-- A character with which the part would go on. -/
def next? : PatternPart → Option Char
  | .run letter _ _ _ => some letter
  | .quoted _ _ => some '\''
  | .single _ _ _ => none

theorem startsWith_text (p : PatternPart) (f : Char → Bool) (s : List Char) :
    startsWith f (p.text ++ s) = f p.first := by
  cases p with
  | run letter count hletter hcount =>
    obtain ⟨n, rfl⟩ : ∃ n, count = n + 1 := ⟨count - 1, by omega⟩
    rfl
  | quoted text htext => rfl
  | single c hletter hquote => rfl

theorem next?_ne_of_apart {p q : PatternPart} (h : p.Apart q) : p.next? ≠ some q.first := by
  have hquote : ∀ c : Char, c.isAlpha = true → c ≠ '\'' := by
    rintro c hc rfl
    cases hc
  cases p with
  | run letter count hletter hcount =>
    refine fun heq => ?_
    cases q with
    | run letter' count' hletter' hcount' => exact h (Option.some.inj heq)
    | quoted text htext => exact hquote letter hletter (Option.some.inj heq)
    | single c hc hquote =>
      obtain rfl : letter = c := Option.some.inj heq
      rw [hc] at hletter
      cases hletter
  | quoted text htext =>
    refine fun heq => ?_
    cases q with
    | run letter count hletter hcount => exact hquote letter hletter (Option.some.inj heq).symm
    | quoted text' htext' => exact h
    | single c hc hne => exact hne (Option.some.inj heq).symm
  | single c hc hne => nofun

/-- A part is read as its items if what follows it does not go on with it. -/
theorem patternItems?_text (p : PatternPart) {s : List Char}
    (hs : ∀ c ∈ p.next?, startsWith (· == c) s = false) :
    patternItems? (p.text ++ s) =
      p.items?.bind fun items => (patternItems? s).map (items ++ ·) := by
  cases p with
  | run letter count hletter hcount =>
    rw [text, items?, patternItems?_run hletter hcount (hs letter rfl)]
    cases patternField? letter count <;> rfl
  | quoted text htext =>
    rw [PatternPart.text, items?, Option.bind_some, List.cons_append, List.append_assoc]
    exact patternItems?_quoted (hs '\'' rfl) htext
  | single c hletter hquote => exact patternItems?_single hletter hquote s

/-- The format text of a part is that of its items. -/
theorem code?_eq (p : PatternPart) :
    p.code? = p.items?.map fun items => String.join (items.map FormatItem.code) := by
  have hliteral : ∀ text : List Char,
      String.join ((text.map FormatItem.literal).map FormatItem.code) = doublePercents text := by
    intro text
    rw [← String.toList_inj, String.toList_join, doublePercents, String.toList_ofList,
      List.map_map, List.flatMap_map]
    refine List.flatMap_congr fun c hc => ?_
    by_cases hc : c = '%'
    · simp [FormatItem.code, hc]
    · simp [FormatItem.code, hc]
  cases p with
  | run letter count hletter hcount =>
    rw [code?, items?, ← map_code_patternField?, Option.map_map]
    cases patternField? letter count with
    | none => rfl
    | some f => simp [FormatItem.code]
  | quoted text htext => rw [code?, items?, Option.map_some, hliteral]
  | single c hletter hquote => rw [code?, items?, Option.map_some, ← hliteral [c]]; rfl

theorem readsBack_of_mem {p : PatternPart} {items : List FormatItem} (h : p.items? = some items) :
    ∀ item ∈ items, item.ReadsBack := by
  cases p with
  | run letter count hletter hcount =>
    obtain ⟨f, hf, rfl⟩ := Option.map_eq_some_iff.mp h
    exact List.forall_mem_singleton.mpr (formatItems?_code (mem_patternFields hf))
  | quoted text htext =>
    cases h
    exact List.forall_mem_map.mpr fun c hc => formatItems?_literal c
  | single c hletter hquote =>
    cases h
    exact List.forall_mem_singleton.mpr (formatItems?_literal c)

end PatternPart

/-! ## Patterns as a whole -/

section Patterns

variable {parts : List PatternPart}

theorem startsWith_flatMap_text {p : PatternPart} (h : (p :: parts).IsChain PatternPart.Apart) :
    ∀ c ∈ p.next?, startsWith (· == c) (parts.flatMap PatternPart.text) = false := by
  intro c hc
  cases parts with
  | nil => rfl
  | cons q parts =>
    have hne := PatternPart.next?_ne_of_apart (List.isChain_cons_cons.mp h).1
    rw [List.flatMap_cons, PatternPart.startsWith_text]
    refine beq_false_of_ne fun heq => hne ?_
    rw [heq]
    exact hc

/-- A pattern is read part by part. -/
theorem patternItems?_flatMap_text (h : parts.IsChain PatternPart.Apart) :
    patternItems? (parts.flatMap PatternPart.text) =
      (parts.mapM PatternPart.items?).map List.flatten := by
  induction parts with
  | nil => rw [List.flatMap_nil, patternItems?]; rfl
  | cons p parts ih =>
    have htail : parts.IsChain PatternPart.Apart := h.tail
    rw [List.flatMap_cons, p.patternItems?_text (startsWith_flatMap_text h), ih htail,
      List.mapM_cons]
    cases p.items? with
    | none => rfl
    | some items =>
      cases parts.mapM PatternPart.items? <;> rfl

theorem readsBack_of_mem_flatten {itemLists : List (List FormatItem)}
    (h : parts.mapM PatternPart.items? = some itemLists) :
    ∀ item ∈ itemLists.flatten, item.ReadsBack := by
  induction parts generalizing itemLists with
  | nil =>
    cases h
    nofun
  | cons p parts ih =>
    rw [List.mapM_cons] at h
    obtain ⟨items, hitems, h⟩ := Option.bind_eq_some_iff.mp h
    obtain ⟨rest, hrest, h⟩ := Option.bind_eq_some_iff.mp h
    cases h
    exact List.forall_mem_append.mpr ⟨PatternPart.readsBack_of_mem hitems, ih hrest⟩

theorem mapM_code? (parts : List PatternPart) :
    parts.mapM PatternPart.code? = (parts.mapM PatternPart.items?).map
      (List.map fun items => String.join (items.map FormatItem.code)) := by
  induction parts with
  | nil => rfl
  | cons p parts ih =>
    rw [List.mapM_cons, List.mapM_cons, p.code?_eq, ih]
    cases p.items? with
    | none => rfl
    | some items => cases parts.mapM PatternPart.items? <;> rfl

/-- The format text of the parts is the one of their items. -/
theorem map_join_mapM_code? (parts : List PatternPart) :
    (parts.mapM PatternPart.code?).map String.join =
      (parts.mapM PatternPart.items?).map fun itemLists =>
        String.join (itemLists.flatten.map FormatItem.code) := by
  have hjoin : ∀ itemLists : List (List FormatItem),
      String.join (itemLists.map fun items => String.join (items.map FormatItem.code)) =
        String.join (itemLists.flatten.map FormatItem.code) := by
    intro itemLists
    induction itemLists with
    | nil => rfl
    | cons items itemLists ih => simp [ih]
  rw [mapM_code?, Option.map_map]
  exact Option.map_congr fun itemLists _ => hjoin itemLists

theorem patternCode?_eq (h : parts.IsChain PatternPart.Apart) :
    patternCode? (partsText parts) = (parts.mapM PatternPart.code?).map String.join := by
  rw [patternCode?, partsText, String.toList_ofList, patternItems?_flatMap_text h, Option.map_map,
    map_join_mapM_code?]
  rfl

theorem code?_eq_none_iff {p : PatternPart} : p.code? = none ↔
    ∃ letter count hletter hcount,
      p = .run letter count hletter hcount ∧ letter ∉ fieldLetters := by
  cases p with
  | run letter count hletter hcount =>
    rw [PatternPart.code?, runCode?_eq_none_iff]
    constructor
    · intro h
      exact ⟨letter, count, hletter, hcount, rfl, h⟩
    · rintro ⟨letter', count', hletter', hcount', heq, h⟩
      cases heq
      exact h
  | quoted text htext => simp [PatternPart.code?]
  | single c hletter hquote => simp [PatternPart.code?]

theorem mapM_code?_eq_none_iff : parts.mapM PatternPart.code? = none ↔
    ∃ p ∈ parts, p.code? = none := by
  induction parts with
  | nil => simp
  | cons p parts ih =>
    rw [List.mapM_cons, List.exists_mem_cons_iff, ← ih]
    cases p.code? with
    | none => simp
    | some code => cases parts.mapM PatternPart.code? <;> simp

end Patterns

/-- A pattern that is written part by part has a format text exactly if every run is one of a letter
    that has a field. The format text is then made of the codes of the fields and of the other parts
    with every percent sign doubled, and both texts are read as the items of the parts: a field for
    every run and nothing but literal characters for the others. -/
theorem patternCode?_partsText {parts : List PatternPart} (h : parts.IsChain PatternPart.Apart) :
    (patternCode? (partsText parts) = none ↔ ∃ letter count hletter hcount,
      .run letter count hletter hcount ∈ parts ∧ letter ∉ fieldLetters) ∧
    patternCode? (partsText parts) = (parts.mapM PatternPart.code?).map String.join ∧
    ∀ code, patternCode? (partsText parts) = some code →
      ∃ itemLists, parts.mapM PatternPart.items? = some itemLists ∧
        patternItems? (partsText parts).toList = some itemLists.flatten ∧
        formatItems? code.toList = some itemLists.flatten := by
  have hcode := patternCode?_eq h
  refine ⟨?_, hcode, ?_⟩
  · rw [hcode, Option.map_eq_none_iff, mapM_code?_eq_none_iff]
    constructor
    · rintro ⟨p, hp, hnone⟩
      obtain ⟨letter, count, hletter, hcount, rfl, hnot⟩ := code?_eq_none_iff.mp hnone
      exact ⟨letter, count, hletter, hcount, hp, hnot⟩
    · rintro ⟨letter, count, hletter, hcount, hp, hnot⟩
      exact ⟨_, hp, code?_eq_none_iff.mpr ⟨letter, count, hletter, hcount, rfl, hnot⟩⟩
  · intro code hsome
    rw [hcode, map_join_mapM_code?] at hsome
    obtain ⟨itemLists, hitems, rfl⟩ := Option.map_eq_some_iff.mp hsome
    refine ⟨itemLists, hitems, ?_, formatItems?_join (readsBack_of_mem_flatten hitems)⟩
    rw [partsText, String.toList_ofList, patternItems?_flatMap_text h, hitems]
    rfl

/-- A quoted text that begins and ends with apostrophes and holds letters and a percent sign. -/
theorem patternCode?_partsText_quoted :
    let parts : List PatternPart := [.run 'h' 2 (by decide) (by decide),
      .quoted "'h' 100%d'".toList ⟨'h', by decide, by decide⟩, .single ' ' (by decide) (by decide),
      .run 'a' 1 (by decide) (by decide)]
    parts.IsChain PatternPart.Apart ∧ partsText parts = "hh'''h'' 100%d''' a" ∧
      patternCode? "hh'''h'' 100%d''' a" = some "%I'h' 100%%d' %p" := by
  intro parts
  have hchain : parts.IsChain PatternPart.Apart := by
    simp [parts, PatternPart.Apart]
  have htext : partsText parts = "hh'''h'' 100%d''' a" := by decide
  refine ⟨hchain, htext, ?_⟩
  rw [← htext, (patternCode?_partsText hchain).2.1]
  rfl

end ContentFilter.Calendar
