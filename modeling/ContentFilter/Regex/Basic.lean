import ContentFilter.Regex.CharSet

/-!
# Regular expressions

What a pattern means: sets of characters, conditions on a place, sequences, alternatives and
repetitions. A place lies between two neighbouring characters of the text, or at one of its ends,
and what a condition says of it depends on these two characters alone.
-/

namespace ContentFilter.Regex

/-- Which characters belong to words. -/
inductive WordKind where
  /-- Those of all scripts. -/
  | unicode
  /-- Those of ASCII. -/
  | ascii
deriving Repr, DecidableEq

/-- The characters of words. -/
def WordKind.chars : WordKind → CharSet
  | .unicode => .wordChars
  | .ascii => .asciiWordChars

/-- A condition on a place in a text. -/
inductive Look where
  /-- The beginning of the text. -/
  | textStart
  /-- The end of the text. -/
  | textEnd
  /-- The beginning of the text or the place after a line feed. -/
  | lineStart
  /-- The end of the text or the place before a line feed. -/
  | lineEnd
  /-- The beginning of a line, where a line may end with a carriage return too. -/
  | lineStartCrlf
  /-- The end of a line, where a line may end with a carriage return too. -/
  | lineEndCrlf
  /-- A word begins or ends. -/
  | wordBoundary (kind : WordKind)
  /-- No word begins or ends. -/
  | notWordBoundary (kind : WordKind)
  /-- A word begins. -/
  | wordStart (kind : WordKind)
  /-- A word ends. -/
  | wordEnd (kind : WordKind)
  /-- There is no character of a word before. -/
  | wordStartHalf (kind : WordKind)
  /-- There is no character of a word after. -/
  | wordEndHalf (kind : WordKind)
deriving Repr, DecidableEq

/-- Whether there is a character and it belongs to a word. -/
def WordKind.holdsAt (kind : WordKind) (c : Option Char) : Bool :=
  c.any kind.chars.contains

/-- Whether the condition holds between the two characters; at an end of the text there is none. -/
def Look.holds : Look → Option Char → Option Char → Bool
  | textStart, before, _ => before.isNone
  | textEnd, _, after => after.isNone
  | lineStart, before, _ => before.isNone || before == some '\n'
  | lineEnd, _, after => after.isNone || after == some '\n'
  | lineStartCrlf, before, after =>
    before.isNone || before == some '\n' || (before == some '\r' && after != some '\n')
  | lineEndCrlf, before, after =>
    after.isNone || after == some '\r' || (after == some '\n' && before != some '\r')
  | wordBoundary kind, before, after => kind.holdsAt before != kind.holdsAt after
  | notWordBoundary kind, before, after => kind.holdsAt before == kind.holdsAt after
  | wordStart kind, before, after => !kind.holdsAt before && kind.holdsAt after
  | wordEnd kind, before, after => kind.holdsAt before && !kind.holdsAt after
  | wordStartHalf kind, before, _ => !kind.holdsAt before
  | wordEndHalf kind, _, after => !kind.holdsAt after

end Regex

/-- A regular expression. -/
inductive Regex where
  /-- Matches the empty text. -/
  | empty
  /-- Matches one character of the set. -/
  | one (s : Regex.CharSet)
  /-- Matches the empty text at a place that meets the condition. -/
  | look (l : Regex.Look)
  /-- Matches one after the other. -/
  | seq (a b : Regex)
  /-- Matches either. -/
  | alt (a b : Regex)
  /-- Matches so many times, one after the other: `least` at least and `most` at most, if there is
  such a bound. -/
  | times (r : Regex) (least : Nat) (most : Option Nat)
deriving Repr

namespace Regex

/-! ## Matching -/

/-- `Matches text r i j` says that `r` matches the characters of `text` from place `i` to place
`j`. -/
inductive Matches (text : List Char) : Regex → Nat → Nat → Prop where
  /-- The empty text is between a place and itself. -/
  | empty {i : Nat} (h : i ≤ text.length) : Matches text .empty i i
  /-- A character is between its place and the next. -/
  | one {s : CharSet} {i : Nat} {c : Char} (hc : text[i]? = some c) (hs : s.contains c = true) :
      Matches text (.one s) i (i + 1)
  /-- A condition holds at a place. -/
  | look {l : Look} {i : Nat} (hi : i ≤ text.length)
      (h : l.holds (if i = 0 then none else text[i - 1]?) text[i]? = true) :
      Matches text (.look l) i i
  /-- Two expressions match one after the other. -/
  | seq {a b : Regex} {i j k : Nat} (ha : Matches text a i j) (hb : Matches text b j k) :
      Matches text (.seq a b) i k
  /-- The first alternative matches. -/
  | altLeft {a b : Regex} {i j : Nat} (h : Matches text a i j) : Matches text (.alt a b) i j
  /-- The second alternative matches. -/
  | altRight {a b : Regex} {i j : Nat} (h : Matches text b i j) : Matches text (.alt a b) i j
  /-- No turn of a repetition is needed any more. -/
  | done {r : Regex} {most : Option Nat} {i : Nat} (h : i ≤ text.length) :
      Matches text (.times r 0 most) i i
  /-- One turn of a repetition, and the others after it. -/
  | turn {r : Regex} {least : Nat} {most : Option Nat} {i j k : Nat} (hr : Matches text r i j)
      (hm : most ≠ some 0) (hrest : Matches text (.times r (least - 1) (most.map (· - 1))) j k) :
      Matches text (.times r least most) i k

/-- A sequence of expressions. -/
def seqAll : List Regex → Regex
  | [] => empty
  | [r] => r
  | r :: rs => seq r (seqAll rs)

/-- The alternatives of a list. -/
def altAll : List Regex → Regex
  | [] => one .nothing
  | [r] => r
  | r :: rs => alt r (altAll rs)

end Regex

end ContentFilter
