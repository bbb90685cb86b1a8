import ContentFilter.Regex.Property

/-!
# Patterns

What is written in a regular expression, before flags, case and character classes are given their
meaning. `depth` is how deep the parts of a pattern lie in one another.
-/

namespace ContentFilter.Regex

/-- A character as a pattern writes it. -/
structure Literal where
  /-- The character. -/
  char : Char
  /-- It is written by two hexadecimal digits and may stand for a byte. -/
  isByte : Bool
deriving Repr, DecidableEq

/-- The classes that have an escape of one letter. -/
inductive Shorthand where
  /-- Digits, written `\d`. -/
  | digit
  /-- Blanks, written `\s`. -/
  | blank
  /-- The characters of words, written `\w`. -/
  | word
deriving Repr, DecidableEq

/-- How two bracketed sets are combined. -/
inductive SetOperator where
  /-- What is in both, written `&&`. -/
  | inter
  /-- What is in the first only, written `--`. -/
  | diff
  /-- What is in one only, written `~~`. -/
  | symmDiff
deriving Repr, DecidableEq

/-- What stands between brackets. -/
inductive SetExpr where
  /-- One character. -/
  | literal (l : Literal)
  /-- The characters from one to another. -/
  | range (first last : Literal)
  /-- A class with an escape. -/
  | shorthand (kind : Shorthand) (negated : Bool)
  /-- A property of characters. -/
  | property (query : PropertyQuery) (negated : Bool)
  /-- An ASCII class named between colons. -/
  | posix (set : CharSet) (negated : Bool)
  /-- Brackets within brackets. -/
  | bracket (negated : Bool) (inner : SetExpr)
  /-- Several items, any of which may be met. -/
  | union (items : List SetExpr)
  /-- An operation on what stands on its two sides. -/
  | combine (op : SetOperator) (left right : SetExpr)
deriving Repr

/-- A condition on a place in the text. -/
inductive Assertion where
  /-- Written `^`. -/
  | lineStart
  /-- Written `$`. -/
  | lineEnd
  /-- Written `\A`. -/
  | textStart
  /-- Written `\z`. -/
  | textEnd
  /-- Written `\b`. -/
  | wordBoundary
  /-- Written `\B`. -/
  | notWordBoundary
  /-- Written `\<`. -/
  | wordStart
  /-- Written `\>`. -/
  | wordEnd
  /-- No word character before the place. -/
  | wordStartHalf
  /-- No word character after the place. -/
  | wordEndHalf
deriving Repr, DecidableEq

/-- The letters that switch how a pattern is read and matched. -/
inductive Flag where
  /-- `i`: letters match without regard to case. -/
  | ignoreCase
  /-- `m`: `^` and `$` hold at lines. -/
  | multiLine
  /-- `s`: `.` matches the end of a line too. -/
  | dotAll
  /-- `U`: repetitions prefer the shorter match. -/
  | swapGreed
  /-- `u`: classes are those of Unicode. -/
  | unicode
  /-- `R`: a line may end with a carriage return. -/
  | crlf
  /-- `x`: blanks and comments are skipped. -/
  | verbose
deriving Repr, DecidableEq

/-- The flag that a letter stands for. -/
def Flag.ofLetter? : Char → Option Flag
  | 'i' => some .ignoreCase
  | 'm' => some .multiLine
  | 's' => some .dotAll
  | 'U' => some .swapGreed
  | 'u' => some .unicode
  | 'R' => some .crlf
  | 'x' => some .verbose
  | _ => none

/-- Flags that a pattern sets, each with whether it is switched on. -/
abbrev FlagSettings := List (Flag × Bool)

/-- What the settings say of a flag. -/
def FlagSettings.find? (settings : FlagSettings) (flag : Flag) : Option Bool :=
  settings.lookup flag

/-- How often something may be repeated. -/
structure Bounds where
  /-- So many times at least. -/
  least : Nat
  /-- So many times at most, if there is a bound. -/
  most : Option Nat
  /-- There is room between the two. -/
  ordered : ∀ m ∈ most, least ≤ m
deriving Repr, DecidableEq

namespace Bounds

/-- One number of times only. -/
def exactly (n : Nat) : Bounds := ⟨n, some n, fun _ hm => Nat.le_of_eq (Option.some.inj hm)⟩

/-- So many times or more. -/
def atLeast (n : Nat) : Bounds := ⟨n, none, fun _ hm => nomatch hm⟩

/-- So many times or fewer. -/
def upTo (m : Nat) : Bounds := ⟨0, some m, fun k _ => Nat.zero_le k⟩

/-- From one number of times to another, if there is room between them. -/
def between? (n m : Nat) : Option Bounds :=
  if h : n ≤ m then some ⟨n, some m, fun _ hm => Option.some.inj hm ▸ h⟩ else none

end Bounds

/-- How often something is repeated. -/
structure Count extends Bounds where
  /-- A mark says that the other preference is meant, for fewer turns rather than for more. -/
  isMarked : Bool
deriving Repr, DecidableEq

/-- A regular expression as it is written. -/
inductive Pattern where
  /-- Nothing. -/
  | empty
  /-- Flags for the rest of the group. -/
  | flags (settings : FlagSettings)
  /-- One character. -/
  | literal (l : Literal)
  /-- Any character, but for the end of a line. -/
  | dot
  /-- A condition on the place. -/
  | assertion (a : Assertion)
  /-- A class with an escape. -/
  | shorthand (kind : Shorthand) (negated : Bool)
  /-- A property of characters. -/
  | property (query : PropertyQuery) (negated : Bool)
  /-- A set in brackets. -/
  | bracket (negated : Bool) (inner : SetExpr)
  /-- A repetition. -/
  | repetition (body : Pattern) (count : Count)
  /-- A group and the flags that hold in it; what a group captures can be told apart later. -/
  | group (settings : FlagSettings) (captures : Bool) (body : Pattern)
  /-- One pattern after the other. -/
  | concat (parts : List Pattern)
  /-- Any of the patterns. -/
  | alternation (branches : List Pattern)
deriving Repr

namespace SetExpr

mutual

/-- How many levels of operations, brackets and unions lie in one another. -/
def depth : SetExpr → Nat
  | bracket _ inner => inner.depth + 1
  | union [] => 0
  | union items => depthAll items + 1
  | combine _ left right => max left.depth right.depth + 1
  | _ => 0

/-- The depth of the deepest item. -/
def depthAll : List SetExpr → Nat
  | [] => 0
  | item :: items => max item.depth (depthAll items)

end

/-- Items side by side; a single one stands for itself. -/
def join : List SetExpr → SetExpr
  | [item] => item
  | items => union items

end SetExpr

namespace Pattern

mutual

/-- How many levels of groups, repetitions, sequences and sets lie in one another. -/
def depth : Pattern → Nat
  | bracket _ inner => inner.depth + 1
  | repetition body _ => body.depth + 1
  | group _ _ body => body.depth + 1
  | concat parts => depthAll parts + 1
  | alternation branches => depthAll branches + 1
  | _ => 0

/-- The depth of the deepest part. -/
def depthAll : List Pattern → Nat
  | [] => 0
  | part :: parts => max part.depth (depthAll parts)

end

/-- Parts one after the other; a single one stands for itself. -/
def sequence : List Pattern → Pattern
  | [] => empty
  | [part] => part
  | parts => concat parts

/-- Alternatives; a single one stands for itself. -/
def choice : List Pattern → Pattern
  | [] => empty
  | [branch] => branch
  | branches => alternation branches

/-- Whether a repetition may follow: there has to be something to repeat. -/
def isRepeatable : Pattern → Bool
  | empty | flags _ => false
  | _ => true

end Pattern

end ContentFilter.Regex
