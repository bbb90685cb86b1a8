import ContentFilter.Text.Span

/-!
# Spans of characters as spans of bytes

In UTF-8 a character is written with one to four bytes. A span of code points is cut into pieces
such that the characters of a piece are exactly those that are written with a byte of a first span,
then a byte of a second span, and so on.
-/

namespace ContentFilter.Regex

open Text

/-- The bytes of a code point in UTF-8. -/
def utf8Bytes (n : Nat) : List Nat :=
  let tail (k : Nat) : Nat := 0x80 + n / k % 64
  if n < 0x80 then [n]
  else if n < 0x800 then [0xc0 + n / 64, tail 1]
  else if n < 0x10000 then [0xe0 + n / 4096, tail 64, tail 1]
  else [0xf0 + n / 262144, tail 4096, tail 64, tail 1]

/-- The places where a span has to be cut, if they lie within it: where characters begin to need one
byte more, and where leading bytes change although the bytes after them do not cover their whole
range. -/
def cutPlaces (s : Span) : List Nat :=
  if s.last < 0x80 then []
  else
    [0x80, 0x800, 0x10000] ++ [64, 4096, 262144].flatMap fun k =>
      (if s.first % k = 0 then [] else [(s.first / k + 1) * k]) ++
        if s.last % k = k - 1 then [] else [s.last / k * k]

/-- The spans of bytes for each piece of a span without surrogates, in ascending order. -/
def byteSpansOf (s : Span) : List (List Span) :=
  match h : (cutPlaces s).find? fun n => decide (s.first < n ∧ n ≤ s.last) with
  | some n =>
    have hn : s.first < n ∧ n ≤ s.last := by simpa using List.find?_some h
    byteSpansOf ⟨s.first, n - 1⟩ ++ byteSpansOf ⟨n, s.last⟩
  | none => [(utf8Bytes s.first).zipWith Span.mk (utf8Bytes s.last)]
termination_by s.last - s.first
decreasing_by
  · omega
  · omega

/-- The parts of a span before and behind the surrogates. -/
def withoutSurrogates (s : Span) : List Span :=
  if s.first < 0xe000 ∧ 0xd7ff < s.last then
    [⟨s.first, 0xd7ff⟩, ⟨0xe000, s.last⟩].filter fun t => decide (t.first ≤ t.last)
  else [s]

/-- The spans of bytes for all characters of the given spans, in ascending order. -/
def byteSpans (spans : List Span) : List (List Span) :=
  (spans.flatMap withoutSurrogates).flatMap byteSpansOf

end ContentFilter.Regex
