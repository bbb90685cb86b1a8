import ContentFilter.Text.BinaryProperty
import ContentFilter.Text.CaseOrbit
import ContentFilter.Text.Category

/-!
# Character sets

The sets of characters that one step of a regular expression may consume. A set is a list of spans
of code points in ascending order, with gaps between them, so that a set can be written in one way
only. Surrogates are no characters: after the last code point before them comes the first one behind
them. Spans that end and begin there are kept apart nevertheless, and the complement of such a set
has the two characters at this seam.
-/

namespace ContentFilter.Regex

open Text

/-- A set of characters. -/
structure CharSet where
  /-- Its spans of code points. -/
  spans : List Span
deriving Repr, DecidableEq

namespace CharSet

/-- Whether the character belongs to the set. -/
def contains (s : CharSet) (c : Char) : Bool :=
  s.spans.any (·.contains c.toNat)

/-- No character. -/
def nothing : CharSet := ⟨[]⟩

/-- The last code point. -/
def lastCode : Nat := 0x10ffff

/-- All characters. -/
def everything : CharSet := ⟨[⟨0, lastCode⟩]⟩

/-- The characters from `first` to `last`, both included. -/
def between (first last : Char) : CharSet := ⟨[⟨first.toNat, last.toNat⟩]⟩

/-- The set of one character. -/
def only (c : Char) : CharSet := between c c

/-- The set with the given spans, in any order. -/
def ofSpans (spans : List Span) : CharSet := ⟨Span.inOrder spans⟩

/-- The set with the given ranges of characters. -/
def ofRanges (ranges : List (Char × Char)) : CharSet :=
  ofSpans (ranges.map fun r => ⟨r.1.toNat, r.2.toNat⟩)

/-- The characters of any of the tables. -/
def ofTables (tables : List RunTable) : CharSet :=
  ofSpans (tables.flatMap RunTable.spans)

/-! ## Operations -/

/-- The characters of either set. -/
def union (s t : CharSet) : CharSet :=
  ofSpans (s.spans ++ t.spans)

/-- The characters of any of the sets. -/
def unionAll (sets : List CharSet) : CharSet :=
  ofSpans (sets.flatMap spans)

/-- The characters of both sets. -/
def inter (s t : CharSet) : CharSet :=
  ⟨s.spans.flatMap fun a => t.spans.filterMap a.inter?⟩

/-- The code point after the given one, surrogates left out. -/
def following (n : Nat) : Nat := if n = 0xd7ff then 0xe000 else n + 1

/-- The code point before the given one, surrogates left out. -/
def preceding (n : Nat) : Nat := if n = 0xe000 then 0xd7ff else n - 1

/-- What lies between the spans of a list, and behind the last of them. -/
def gapsAfter (s : Span) : List Span → List Span
  | [] => if s.last < lastCode then [⟨following s.last, lastCode⟩] else []
  | t :: rest => .between (following s.last) (preceding t.first) :: gapsAfter t rest

/-- All other characters. -/
def compl : CharSet → CharSet
  | ⟨[]⟩ => everything
  | ⟨s :: rest⟩ => ⟨(if 0 < s.first then [⟨0, preceding s.first⟩] else []) ++ gapsAfter s rest⟩

/-- What is left of a span without the spans of a list. -/
def without (s : Span) : List Span → List Span
  | [] => [s]
  | t :: rest =>
    if t.last < s.first then without s rest
    else if s.last < t.first then [s]
    else
      (if s.first < t.first then [⟨s.first, preceding t.first⟩] else []) ++
        if t.last < s.last then without ⟨following t.last, s.last⟩ rest else []

/-- The characters of the first set that are not in the second. -/
def diff (s t : CharSet) : CharSet :=
  ⟨s.spans.flatMap (without · t.spans)⟩

/-- The characters of exactly one of the sets. -/
def symmDiff (s t : CharSet) : CharSet :=
  (s.union t).diff (s.inter t)

/-- Whether a code point belongs to the set. -/
def hasCode (s : CharSet) (n : Nat) : Bool :=
  s.spans.any (·.contains n)

/-- The members and the characters that differ from a member in case only. -/
def folded (s : CharSet) : CharSet :=
  ofSpans (s.spans ++ (caseOrbits.filter (·.any s.hasCode)).flatMap (·.map .single))

/-- The members and the ASCII letters that differ from a member in case only. -/
def foldedAscii (s : CharSet) : CharSet :=
  ofSpans (s.spans ++
    (asciiLetters.filter (·.any s.hasCode)).flatMap (·.map .single))
where
  /-- The ASCII letters, each with the other one of its pair. -/
  asciiLetters : List (List Nat) :=
    (List.range 26).map fun i => ['A'.toNat + i, 'a'.toNat + i]

/-- The set itself, or all other characters. -/
def negateIf (negated : Bool) (s : CharSet) : CharSet :=
  if negated then s.compl else s

/-- Whether all members are ASCII characters. -/
def isAscii (s : CharSet) : Bool :=
  s.spans.all fun r => decide (r.last < 128)

/-- The only member of a set of one character. -/
def only? : CharSet → Option Char
  | ⟨[⟨first, last⟩]⟩ => if first = last then charOfCode? first else none
  | _ => none

/-! ## Named sets -/

/-- The decimal digits of all scripts. -/
def digits : CharSet := ofTables [categoryNd]

/-- The characters with the property `White_Space`. -/
def blanks : CharSet := ofTables [whiteSpaceTable]

/-- The characters of words: letters, marks, decimal digits, connectors and join controls. -/
def wordChars : CharSet :=
  ofTables [alphabeticTable, categoryMn, categoryMc, categoryMe, categoryNd, categoryPc,
    joinControlTable]

/-- The ASCII digits. -/
def asciiDigits : CharSet := between '0' '9'

/-- The ASCII blanks. -/
def asciiBlanks : CharSet := ofRanges [('\t', '\r'), (' ', ' ')]

/-- The ASCII letters and digits and the underscore. -/
def asciiWordChars : CharSet := ofRanges [('0', '9'), ('A', 'Z'), ('_', '_'), ('a', 'z')]

/-- The ASCII sets that a bracket may name between colons. -/
def posix? (name : List Char) : Option CharSet :=
  let ranges : Option (List (Char × Char)) :=
    match String.ofList name with
    | "alnum" => some [('0', '9'), ('A', 'Z'), ('a', 'z')]
    | "alpha" => some [('A', 'Z'), ('a', 'z')]
    | "ascii" => some [('\x00', '\x7f')]
    | "blank" => some [('\t', '\t'), (' ', ' ')]
    | "cntrl" => some [('\x00', '\x1f'), ('\x7f', '\x7f')]
    | "digit" => some [('0', '9')]
    | "graph" => some [('!', '~')]
    | "lower" => some [('a', 'z')]
    | "print" => some [(' ', '~')]
    | "punct" => some [('!', '/'), (':', '@'), ('[', '\x60'), ('\x7b', '~')]
    | "space" => some [('\t', '\r'), (' ', ' ')]
    | "upper" => some [('A', 'Z')]
    | "word" => some [('0', '9'), ('A', 'Z'), ('_', '_'), ('a', 'z')]
    | "xdigit" => some [('0', '9'), ('A', 'F'), ('a', 'f')]
    | _ => none
  ranges.map ofRanges

/-! ## Membership -/

@[simp] theorem contains_nothing (c : Char) : nothing.contains c = false := rfl

@[simp] theorem contains_between (first last c : Char) :
    (between first last).contains c = (decide (first ≤ c) && decide (c ≤ last)) := by
  simp only [between, contains, List.any_cons, List.any_nil, Bool.or_false]
  rfl

@[simp] theorem contains_only (c d : Char) : (only c).contains d = (d == c) := by
  rw [only, contains_between, Bool.eq_iff_iff]
  simp only [Bool.and_eq_true, decide_eq_true_eq, beq_iff_eq]
  exact ⟨fun h => Char.le_antisymm h.2 h.1, fun h => h ▸ ⟨Char.le_refl d, Char.le_refl d⟩⟩

/-- Putting spans in order changes no membership. -/
@[simp] theorem contains_ofSpans (spans : List Span) (c : Char) :
    (ofSpans spans).contains c = spans.any (·.contains c.toNat) :=
  Span.any_contains_inOrder spans c.toNat

@[simp] theorem contains_union (s t : CharSet) (c : Char) :
    (s.union t).contains c = (s.contains c || t.contains c) := by
  rw [union, contains_ofSpans, List.any_append]
  rfl

@[simp] theorem contains_inter (s t : CharSet) (c : Char) :
    (s.inter t).contains c = (s.contains c && t.contains c) := by
  simp only [inter, contains, List.any_flatMap, List.any_filterMap]
  rw [Bool.eq_iff_iff]
  simp only [List.any_eq_true, Bool.and_eq_true]
  constructor
  · rintro ⟨a, ha, b, hb, h⟩
    cases hi : a.inter? b with
    | none => simp [hi] at h
    | some i =>
      have := Span.contains_of_inter?_eq_some hi c.toNat
      simp only [hi] at h
      rw [h, eq_comm, Bool.and_eq_true] at this
      exact ⟨⟨a, ha, this.1⟩, ⟨b, hb, this.2⟩⟩
  · rintro ⟨⟨a, ha, hac⟩, ⟨b, hb, hbc⟩⟩
    obtain ⟨i, hi, hic⟩ := Span.exists_inter?_of_contains hac hbc
    exact ⟨a, ha, b, hb, by simp [hi, hic]⟩

end CharSet

end ContentFilter.Regex
