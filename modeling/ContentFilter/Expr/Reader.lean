import ContentFilter.Expr.Lexeme

/-!
# Reading filter expressions

```text
filter   := any
any      := all (("or" | "||") all)*
all      := term (("and" | "&&") term)*
term     := "(" any ")" | value operator value
value    := string | number | date | "null" | "true" | "false"
          | "$" word | word "(" arguments ")" | "[" path "]" | word
```

Keywords are read in any case, and `true` and `false` are read as texts. Blanks may stand between
all lexemes. Arguments are separated by blanks or, from the second on, by any number of commas.
-/

namespace ContentFilter.Expr

open Text

/-! ## Operands -/

/-- Reads the name of an argument. -/
def readArgument (s : List Char) : Outcome s Expr :=
  if h : s.takeWhile isWordChar = [] then
    match s with
    | c :: r => .error ⟨.unexpectedChar c, c :: r⟩
    | [] => .error ⟨.unexpectedEnd, []⟩
  else
    .ok ⟨.argument (String.ofList (s.takeWhile isWordChar)), s.dropWhile isWordChar,
      length_dropWhile_lt h⟩

/-- Reads a path to its closing bracket. `opening` is the text from its opening bracket on. -/
def readBracketed (opening s : List Char) : Outcome s Expr :=
  match h : s.dropWhile (· ≠ ']') with
  | _ :: r =>
    .ok ⟨.property (String.ofList (trimBlanks (s.takeWhile (· ≠ ']')))), r, by
      have := length_dropWhile_le (· ≠ ']') s
      rw [h, List.length_cons] at this
      exact this⟩
  | [] => .error ⟨.unclosedProperty, opening⟩

/-- The operand that a word is when no argument list follows it. -/
def wordOperand (word : List Char) : Expr :=
  match word.map Char.toLower with
  | ['n', 'u', 'l', 'l'] => .null
  | ['t', 'r', 'u', 'e'] => .text "true"
  | ['f', 'a', 'l', 's', 'e'] => .text "false"
  | _ => .property (String.ofList word)

/-- Whether the word is a literal and so no name of a function. -/
def isLiteralWord (word : List Char) : Bool :=
  match word.map Char.toLower with
  | ['n', 'u', 'l', 'l'] | ['t', 'r', 'u', 'e'] | ['f', 'a', 'l', 's', 'e'] => true
  | _ => false

mutual

/-- Reads an operand, blanks before it skipped. -/
def readValue (s : List Char) : Outcome s Expr :=
  match hs : skipBlanks s with
  | [] => .error ⟨.unexpectedEnd, []⟩
  | c :: r =>
    have hlt := length_lt_of_skipBlanks_eq_cons hs
    if c = '\'' ∨ c = '"' then
      match readString c (c :: r) r with
      | .error e => .error e
      | .ok p => .ok ((p.map fun cs => .text (String.ofList cs)).within (Nat.le_of_lt hlt))
    else if c = '[' then
      match readBracketed (c :: r) r with
      | .error e => .error e
      | .ok p => .ok (p.within (Nat.le_of_lt hlt))
    else if c = '$' then
      match readArgument r with
      | .error e => .error e
      | .ok p => .ok (p.within (Nat.le_of_lt hlt))
    else if c.isDigit ∧ hasShape dateShape (c :: r) then
      .ok ⟨(takeDate (c :: r)).1, (takeDate (c :: r)).2, by
        have := length_takeDate_lt (s := c :: r) (by simp)
        simp only [List.length_cons] at this
        omega⟩
    else if c.isDigit ∨ ((c = '-' ∨ c = '+') ∧ startsWith Char.isDigit r) then
      .ok ⟨.number (String.ofList (c :: (takeNumberTail r).1)), (takeNumberTail r).2, by
        have := length_takeNumberTail_le r
        omega⟩
    else if isWordStart c then
      let word := (c :: r).takeWhile isWordChar
      let rest := r.dropWhile isWordChar
      have hrest : rest.length ≤ r.length := length_dropWhile_le _ _
      if isLiteralWord word then .ok ⟨wordOperand word, rest, by omega⟩
      else
        match ha : skipBlanks rest with
        | '(' :: inside =>
          have hinside := length_lt_of_skipBlanks_eq_cons ha
          match readArguments false inside with
          | .error e => .error e
          | .ok p => .ok ((p.map (.call (String.ofList word))).within (by omega))
        | _ => .ok ⟨wordOperand word, rest, by omega⟩
    else .error ⟨.unexpectedChar c, c :: r⟩
termination_by (s.length, 0)
decreasing_by
  apply Prod.Lex.left
  omega

/-- Reads arguments to the closing parenthesis. `started` says that there is one already. -/
def readArguments (started : Bool) (s : List Char) : Outcome s (List Expr) :=
  match hs : skipBlanks s with
  | [] => .error ⟨.unexpectedEnd, []⟩
  | c :: r =>
    have hlt := length_lt_of_skipBlanks_eq_cons hs
    if c = ')' then .ok ⟨[], r, hlt⟩
    else if c = ',' ∧ started then
      match readArguments true r with
      | .error e => .error e
      | .ok p => .ok (p.within (Nat.le_of_lt hlt))
    else
      match readValue s with
      | .error e => .error e
      | .ok p =>
        match readArguments true p.rest with
        | .error e => .error e
        | .ok q => .ok ((q.map (p.value :: ·)).within (Nat.le_of_lt p.shorter))
termination_by (s.length, 1)
decreasing_by
  · exact Prod.Lex.left _ _ hlt
  · exact Prod.Lex.right _ (by decide)
  · exact Prod.Lex.left _ _ p.shorter

end

/-! ## Predicates -/

/-- Several operands joined; a single one stands for itself. -/
def joinOperands (join : List Expr → Expr) : List Expr → Expr
  | [e] => e
  | es => join es

mutual

/-- Reads the operands of a disjunction. -/
def readDisjuncts (s : List Char) : Outcome s (List Expr) :=
  match readConjuncts s with
  | .error e => .error e
  | .ok p =>
    let first := joinOperands .all p.value
    match ho : afterOr? (skipBlanks p.rest) with
    | none => .ok ⟨[first], p.rest, p.shorter⟩
    | some r =>
      have hr : r.length < s.length := by
        have h1 := length_lt_of_afterOr?_eq_some ho
        have h2 := length_skipBlanks_le p.rest
        have h3 := p.shorter
        omega
      match readDisjuncts r with
      | .error e => .error e
      | .ok q => .ok ((q.map (first :: ·)).within (Nat.le_of_lt hr))
termination_by (s.length, 2)
decreasing_by
  · exact Prod.Lex.right _ (by decide)
  · exact Prod.Lex.left _ _ hr

/-- Reads the operands of a conjunction. -/
def readConjuncts (s : List Char) : Outcome s (List Expr) :=
  match readTerm s with
  | .error e => .error e
  | .ok p =>
    match ho : afterAnd? (skipBlanks p.rest) with
    | none => .ok ⟨[p.value], p.rest, p.shorter⟩
    | some r =>
      have hr : r.length < s.length := by
        have h1 := length_lt_of_afterAnd?_eq_some ho
        have h2 := length_skipBlanks_le p.rest
        have h3 := p.shorter
        omega
      match readConjuncts r with
      | .error e => .error e
      | .ok q => .ok ((q.map (p.value :: ·)).within (Nat.le_of_lt hr))
termination_by (s.length, 1)
decreasing_by
  · exact Prod.Lex.right _ (by decide)
  · exact Prod.Lex.left _ _ hr

/-- Reads a comparison, or a disjunction in parentheses. -/
def readTerm (s : List Char) : Outcome s Expr :=
  match hs : skipBlanks s with
  | '(' :: r =>
    have hlt := length_lt_of_skipBlanks_eq_cons hs
    match readDisjuncts r with
    | .error e => .error e
    | .ok p =>
      match hc : skipBlanks p.rest with
      | c :: rest =>
        if c = ')' then
          .ok ⟨joinOperands .any p.value, rest, by
            have h1 := p.shorter
            have h2 := length_lt_of_skipBlanks_eq_cons hc
            omega⟩
        else .error ⟨.unexpectedChar c, c :: rest⟩
      | [] => .error ⟨.unexpectedEnd, []⟩
  | _ =>
    match readValue s with
    | .error e => .error e
    | .ok left =>
      match ho : readOperator? (skipBlanks left.rest) with
      | none => .error ⟨.expectedOperator, skipBlanks left.rest⟩
      | some (op, r) =>
        match readValue r with
        | .error e => .error e
        | .ok right =>
          .ok ((right.map (.compare op left.value)).within (by
            have h1 := length_lt_of_readOperator?_eq_some ho
            have h2 := length_skipBlanks_le left.rest
            have h3 := left.shorter
            omega))
termination_by (s.length, 0)
decreasing_by
  exact Prod.Lex.left _ _ hlt

end

/-! ## Filter texts -/

/-- The column of a failure in the text it happened in. -/
def Failure.toParseError (input : List Char) (f : Failure) : ParseError :=
  .at f.fault (input.length - f.left.length + 1)

/-- Reads a filter text. -/
def ofChars (input : List Char) : Except ParseError Expr :=
  if skipBlanks input = [] then .error .empty
  else
    match readDisjuncts input with
    | .error e => .error (e.toParseError input)
    | .ok p =>
      match skipBlanks p.rest with
      | [] => .ok (joinOperands .any p.value)
      | left =>
        let token := String.ofList (left.takeWhile (!isBlank ·))
        .error (Failure.toParseError input ⟨.unexpectedToken token, left⟩)

/-- Reads a filter text. -/
def parse (text : String) : Except ParseError Expr :=
  ofChars text.toList

end ContentFilter.Expr
