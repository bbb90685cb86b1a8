import ContentFilter.Expr.Basic
import ContentFilter.Expr.Error
import ContentFilter.Text.Blank
import ContentFilter.Text.Letter
import ContentFilter.Text.Parsed
import ContentFilter.Text.Word

/-!
# Lexemes of filter texts

Words, operators, strings, numbers and dates, each read off the front of a text. A reader that may
fail says what is left of the text at the place its failure points at; how far it got is what the
text has more than that.
-/

namespace ContentFilter.Expr

open Text

/-- A fault and the text that is left at its place. -/
structure Failure where
  /-- What is wrong. -/
  fault : Fault
  /-- The text from there on. -/
  left : List Char
deriving DecidableEq, Repr

/-- What reading the front of `s` comes to. -/
abbrev Outcome (s : List Char) (α : Type) := Except Failure (Parsed s α)

/-! ## Words -/

/-- Whether the character may stand in a word. -/
def isWordChar (c : Char) : Bool :=
  isAlphanumeric c || c == '_' || c == ':' || c == '-' || c == '.' || c == '/'

/-- Whether a word may begin with the character. -/
def isWordStart (c : Char) : Bool :=
  isAlphabetic c || c == '_'

/-- Whether the text goes on with a character of the class. -/
def startsWith (p : Char → Bool) : List Char → Bool
  | c :: _ => p c
  | [] => false

/-- What follows the keyword, in any case; a longer word is another one. -/
def afterKeyword? (word s : List Char) : Option (List Char) :=
  (afterWord? word s).filter (!startsWith isWordChar ·)

/-- What follows a phrase of keywords with blanks between them. -/
def afterPhrase? : List (List Char) → List Char → Option (List Char)
  | [], s => some s
  | [word], s => afterKeyword? word s
  | word :: words, s =>
    (afterKeyword? word s).bind fun r =>
      if startsWith isBlank r then afterPhrase? words (skipBlanks r) else none

theorem length_of_afterKeyword?_eq_some {word s r : List Char}
    (h : afterKeyword? word s = some r) : s.length = word.length + r.length :=
  length_of_afterWord?_eq_some (Option.filter_eq_some_iff.mp h).1

theorem length_le_of_afterPhrase?_eq_some {words : List (List Char)} {s r : List Char}
    (h : afterPhrase? words s = some r) :
    words.flatten.length + r.length ≤ s.length := by
  fun_induction afterPhrase? words s generalizing r with
  | case1 s => simp_all
  | case2 word s =>
    have := length_of_afterKeyword?_eq_some h
    simp
    omega
  | case3 word words s hne ih =>
    obtain ⟨t, ht, hr⟩ := Option.bind_eq_some_iff.mp h
    split at hr
    · have h1 := length_of_afterKeyword?_eq_some ht
      have h2 := length_skipBlanks_le t
      have h3 := ih _ hr
      simp at h3 ⊢
      omega
    · simp at hr

/-! ## Connectives and operators -/

/-- What follows `or` or `||`. -/
def afterOr? (s : List Char) : Option (List Char) :=
  match afterPrefix? ['|', '|'] s with
  | some r => some r
  | none => afterPhrase? [['o', 'r']] s

/-- What follows `and` or `&&`. -/
def afterAnd? (s : List Char) : Option (List Char) :=
  match afterPrefix? ['&', '&'] s with
  | some r => some r
  | none => afterPhrase? [['a', 'n', 'd']] s

/-- The operators written with symbols; of two that begin alike the longer one comes first. -/
def symbolOperators : List (List Char × Operator) :=
  [(['=', '='], .equal), (['!', '='], .notEqual), (['<', '>'], .notEqual), (['<', '='], .lessEqual),
    (['>', '='], .greaterEqual), (['<'], .less), (['>'], .greater), (['='], .equal)]

/-- The operators written with words; of two that begin alike the longer one comes first. -/
def phraseOperators : List (List (List Char) × Operator) :=
  [(["is".toList, "not".toList], .notEqual), (["is".toList], .equal),
    (["less".toList, "than".toList], .less), (["greater".toList, "than".toList], .greater),
    (["like".toList, "not".toList], .notLike), (["like".toList], .like),
    (["not".toList, "like".toList], .notLike), (["not".toList, "in".toList], .notIn),
    (["contains".toList, "not".toList, "any".toList], .notContainsAny),
    (["contains".toList, "not".toList], .notContains),
    (["contains".toList, "any".toList], .containsAny), (["contains".toList], .contains),
    (["in".toList], .isIn)]

/-- Reads an operator: the first symbol that fits, else the first phrase that fits. -/
def readOperator? (s : List Char) : Option (Operator × List Char) :=
  match symbolOperators.findSome? fun (symbol, op) => (afterPrefix? symbol s).map (op, ·) with
  | some found => some found
  | none => phraseOperators.findSome? fun (words, op) => (afterPhrase? words s).map (op, ·)

theorem length_lt_of_afterOr?_eq_some {s r : List Char} (h : afterOr? s = some r) :
    r.length < s.length := by
  unfold afterOr? at h
  split at h
  · rename_i t ht
    have := length_of_afterPrefix?_eq_some ht
    simp_all
  · have := length_le_of_afterPhrase?_eq_some h
    simp at this
    omega

theorem length_lt_of_afterAnd?_eq_some {s r : List Char} (h : afterAnd? s = some r) :
    r.length < s.length := by
  unfold afterAnd? at h
  split at h
  · rename_i t ht
    have := length_of_afterPrefix?_eq_some ht
    simp_all
  · have := length_le_of_afterPhrase?_eq_some h
    simp at this
    omega

theorem length_lt_of_readOperator?_eq_some {s r : List Char} {op : Operator}
    (h : readOperator? s = some (op, r)) : r.length < s.length := by
  unfold readOperator? at h
  split at h
  · rename_i found hfound
    obtain ⟨⟨symbol, op'⟩, hmem, hfind⟩ := List.exists_of_findSome?_eq_some hfound
    obtain ⟨t, ht, heq⟩ := Option.map_eq_some_iff.mp hfind
    have hlen := length_of_afterPrefix?_eq_some ht
    have hpos : 0 < symbol.length := by
      have : ∀ p ∈ symbolOperators, 0 < p.1.length := by decide
      exact this _ hmem
    simp_all
  · obtain ⟨⟨words, op'⟩, hmem, hfind⟩ := List.exists_of_findSome?_eq_some h
    obtain ⟨t, ht, heq⟩ := Option.map_eq_some_iff.mp hfind
    have hlen := length_le_of_afterPhrase?_eq_some ht
    have hpos : 0 < words.flatten.length := by
      have : ∀ p ∈ phraseOperators, 0 < p.1.flatten.length := by decide
      exact this _ hmem
    simp_all
    omega

/-! ## Strings -/

/-- The number of the four characters after `\u`; a plus sign may stand in place of the first digit.
-/
def escapeValue? : List Char → Option Nat
  | '+' :: digits => hexValue? 0 digits
  | digits => hexValue? 0 digits

/-- Reads what follows a backslash. -/
def readEscape? : (s : List Char) → Option (Parsed s Char)
  | 'n' :: _ => some (.single '\n')
  | 't' :: _ => some (.single '\t')
  | 'r' :: _ => some (.single '\r')
  | '\\' :: _ => some (.single '\\')
  | '\'' :: _ => some (.single '\'')
  | '"' :: _ => some (.single '"')
  | 'u' :: a :: b :: c :: d :: _ =>
    match (escapeValue? [a, b, c, d]).bind charOfCode? with
    | some x => some (Parsed.single x).after.after.after.after
    | none => none
  | _ => none

/-- Reads a string to its closing quote. `opening` is the text from its opening quote on, at which
a missing closing quote is noted. -/
def readString (quote : Char) (opening s : List Char) : Outcome s (List Char) :=
  match s with
  | [] => .error ⟨.unclosedString, opening⟩
  | c :: r =>
    if c = quote then .ok (.single [])
    else if c = '\\' then
      match readEscape? r with
      | none => .error ⟨.invalidEscape, c :: r⟩
      | some p =>
        match readString quote opening p.rest with
        | .error e => .error e
        | .ok q => .ok (p.andThen q (· :: ·)).after
    else
      match readString quote opening r with
      | .error e => .error e
      | .ok q => .ok (q.map (c :: ·)).after
termination_by s.length
decreasing_by
  · have := p.shorter; simp; omega
  · simp

/-! ## Numbers -/

/-- A point with digits after it, if the text begins so, and the text after them. -/
def takeFraction (s : List Char) : List Char × List Char :=
  match s with
  | '.' :: r =>
    if startsWith Char.isDigit r then ('.' :: r.takeWhile Char.isDigit, r.dropWhile Char.isDigit)
    else ([], s)
  | _ => ([], s)

/-- The sign at the front, if there is one, and the text after it. -/
def takeSign (s : List Char) : List Char × List Char :=
  match s with
  | '+' :: r => (['+'], r)
  | '-' :: r => (['-'], r)
  | _ => ([], s)

/-- An exponent, if the text begins with one, and the text after it. Without digits it is none. -/
def takeExponent (s : List Char) : List Char × List Char :=
  match s with
  | c :: r =>
    if (c = 'e' ∨ c = 'E') ∧ startsWith Char.isDigit (takeSign r).2 then
      (c :: (takeSign r).1 ++ (takeSign r).2.takeWhile Char.isDigit,
        (takeSign r).2.dropWhile Char.isDigit)
    else ([], s)
  | [] => ([], s)

/-- What belongs to a number after its first character, a digit or a sign, and the text after it. -/
def takeNumberTail (s : List Char) : List Char × List Char :=
  let digits := s.takeWhile Char.isDigit
  let fraction := takeFraction (s.dropWhile Char.isDigit)
  let exponent := takeExponent fraction.2
  (digits ++ fraction.1 ++ exponent.1, exponent.2)

/-! Nothing gets lost between a lexeme and the rest. -/

theorem takeFraction_append (s : List Char) : (takeFraction s).1 ++ (takeFraction s).2 = s := by
  unfold takeFraction
  split
  · split <;> simp
  · simp

theorem takeSign_append (s : List Char) : (takeSign s).1 ++ (takeSign s).2 = s := by
  unfold takeSign
  split <;> simp

theorem takeExponent_append (s : List Char) : (takeExponent s).1 ++ (takeExponent s).2 = s := by
  unfold takeExponent
  split
  · split
    · rename_i c r h
      have := takeSign_append r
      simp only [List.cons_append, List.append_assoc, List.takeWhile_append_dropWhile, this]
    · simp
  · simp

theorem takeNumberTail_append (s : List Char) :
    (takeNumberTail s).1 ++ (takeNumberTail s).2 = s := by
  simp only [takeNumberTail, List.append_assoc, takeExponent_append, takeFraction_append,
    List.takeWhile_append_dropWhile]

theorem length_takeNumberTail_le (s : List Char) : (takeNumberTail s).2.length ≤ s.length := by
  have := congrArg List.length (takeNumberTail_append s)
  simp at this
  omega

/-! ## Dates -/

/-- Whether the text begins with the shape, in which `9` stands for any digit and every other
character for itself. -/
def hasShape : List Char → List Char → Bool
  | [], _ => true
  | x :: shape, c :: s => (if x = '9' then c.isDigit else c == x) && hasShape shape s
  | _ :: _, [] => false

/-- The shape of a date. -/
def dateShape : List Char := "9999-99-99".toList

/-- The seconds of a time and their fraction, if the text begins with them, and the text after. -/
def takeSeconds (s : List Char) : List Char × List Char :=
  if hasShape ":99".toList s then
    let fraction := takeFraction (s.drop 3)
    (s.take 3 ++ fraction.1, fraction.2)
  else ([], s)

/-- An offset, if the text begins with one, and the text after it. -/
def takeZone (s : List Char) : List Char × List Char :=
  if startsWith (· == 'Z') s then (s.take 1, s.drop 1)
  else if hasShape "+99:99".toList s || hasShape "-99:99".toList s then (s.take 6, s.drop 6)
  else ([], s)

/-- The node of a date with an optional time and offset, and the text after it. -/
def takeDate (s : List Char) : Expr × List Char :=
  let date := s.take 10
  let r := s.drop 10
  if hasShape "T99:99".toList r then
    let seconds := takeSeconds (r.drop 6)
    let reading := date ++ r.take 6 ++ seconds.1
    let zone := takeZone seconds.2
    if zone.1 = [] then (.localTime (String.ofList reading), seconds.2)
    else (.offsetTime (String.ofList (reading ++ zone.1)), zone.2)
  else (.date (String.ofList date), r)

theorem takeSeconds_append (s : List Char) : (takeSeconds s).1 ++ (takeSeconds s).2 = s := by
  unfold takeSeconds
  split
  · simp [takeFraction_append]
  · simp

theorem takeZone_append (s : List Char) : (takeZone s).1 ++ (takeZone s).2 = s := by
  unfold takeZone
  split
  · cases s <;> simp
  · split <;> simp

theorem length_takeDate_lt {s : List Char} (h : s ≠ []) : (takeDate s).2.length < s.length := by
  have hpos : 0 < s.length := List.length_pos_iff.mpr h
  unfold takeDate
  have h1 := congrArg List.length (takeSeconds_append ((s.drop 10).drop 6))
  have h2 := congrArg List.length (takeZone_append (takeSeconds ((s.drop 10).drop 6)).2)
  simp only [List.length_append, List.length_drop] at h1 h2
  simp only
  split
  · split <;> simp only <;> omega
  · simp
    omega

end ContentFilter.Expr
