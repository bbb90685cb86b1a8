import ContentFilter.Regex.OfPattern

/-!
# Matching by sets of places

A set of places in a text is a natural number: bit `i` says whether place `i` is in it. An
expression maps a set of places to the places that its matches from there end at, for all places at
once. After one turn more than the text has characters, another turn of a repetition changes
nothing: turns that consume something are used up by then, so one of them consumed nothing and may
be taken once more or left out. So counts are cut off there.
-/

namespace ContentFilter.Regex

/-! ## Sets of places -/

/-- The places before the characters that satisfy `p`. -/
def placesBefore (p : Char → Bool) : List Char → Nat
  | [] => 0
  | c :: r => (p c).toNat + 2 * placesBefore p r

/-- The places between whose neighbours `p` holds; `before` is what precedes the text. -/
def placesBetween (p : Option Char → Option Char → Bool) (before : Option Char) :
    List Char → Nat
  | [] => (p before none).toNat
  | c :: r => (p before (some c)).toNat + 2 * placesBetween p (some c) r

/-- All places of a text. -/
def allPlaces (text : List Char) : Nat :=
  Nat.pow 2 (text.length + 1) - 1

/-- Applies `step` `count` times, or until that changes nothing. -/
def iterate (step : Nat → Nat) : Nat → Nat → Nat
  | 0, places => places
  | count + 1, places =>
    let next := step places
    if next = places then places else iterate step count next

/-- All places that `count` turns of `step` at most lead to. -/
def close (step : Nat → Nat) (count places : Nat) : Nat :=
  iterate (fun s => s ||| step s) count places

/-- An expression on the places of one text, its sets and conditions spelled out for them. -/
inductive Walk where
  /-- Stays at each place. -/
  | rest
  /-- Goes from the given places to the next. -/
  | step (starts : Nat)
  /-- Stays at the given places. -/
  | pass (allowed : Nat)
  /-- One walk after the other. -/
  | seq (a b : Walk)
  /-- Either walk. -/
  | alt (a b : Walk)
  /-- A walk so many times: `least`, and then up to `extra` times more. -/
  | times (w : Walk) (least extra : Nat)

/-- The walk of an expression on the places of a text. -/
def walk (text : List Char) : Regex → Walk
  | empty => .rest
  | one s => .step (placesBefore s.contains text)
  | look l => .pass (placesBetween l.holds none text)
  | seq a b => .seq (walk text a) (walk text b)
  | alt a b => .alt (walk text a) (walk text b)
  | times r least most =>
    let bound := text.length + 1
    .times (walk text r) (min least bound) <|
      match most with
      | some m => min (m - least) bound
      | none => bound

/-- The places that a walk leads to from any of the given ones. -/
def Walk.reach : Walk → Nat → Nat
  | rest, places => places
  | step starts, places => (places &&& starts) <<< 1
  | pass allowed, places => places &&& allowed
  | seq a b, places => b.reach (a.reach places)
  | alt a b, places => a.reach places ||| b.reach places
  | times w least extra, places => close w.reach extra (iterate w.reach least places)

/-! ## Whole texts -/

/-- Whether the expression matches some part of the text. -/
def isMatch (r : Regex) (text : List Char) : Bool :=
  (walk text r).reach (allPlaces text) != 0

/-- The pattern that holds of a text as a whole if the given one does. -/
def anchored (pattern : List Char) : List Char :=
  ['^', '(', '?', ':'] ++ pattern ++ [')', '$']

/-- The expression that a whole text has to match for a pattern. -/
def whole? (pattern : String) : Option Regex :=
  ofChars? (anchored pattern.toList)

/-- Whether the whole text matches the pattern; nothing matches an invalid one. -/
def matchesWhole (pattern text : String) : Bool :=
  (whole? pattern).any (·.isMatch text.toList)

/-! ## Places -/

/-- A place is in the set of those before the characters of a class exactly if such a character is
there. -/
theorem testBit_placesBefore (p : Char → Bool) (text : List Char) (i : Nat) :
    (placesBefore p text).testBit i = text[i]?.any p := by
  induction text generalizing i with
  | nil => simp [placesBefore]
  | cons c r ih =>
    cases i with
    | zero => cases h : p c <;> simp [placesBefore, h, Nat.testBit_zero, Nat.add_mod]
    | succ i =>
      have hle := Bool.toNat_le (p c)
      have hdiv : ((p c).toNat + 2 * placesBefore p r) / 2 = placesBefore p r := by omega
      simp [placesBefore, Nat.testBit_succ, hdiv, ih]

end ContentFilter.Regex
