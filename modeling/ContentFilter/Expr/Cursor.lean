import ContentFilter.Expr.Reader

/-!
# Reading by positions in bytes

The readers of filter texts once more, written as programs that move a position through the bytes of
the text. A character has up to four bytes. Shapes are tested on single bytes and the words of
operators are passed over by their length in bytes, so that a position might come to stand inside a
character; from there the text cannot be sliced. The loops of the programs have no bound; where a
program goes round or calls itself it is written `self |>.f`.
-/

namespace ContentFilter.Expr

open Text

/-- A text that is read by positions in its bytes. -/
structure Cursor where
  /-- The text. -/
  text : String

namespace Cursor

/-! ## Bytes and slices -/

/-- How many bytes the characters have. -/
def byteSize : List Char → Nat
  | [] => 0
  | c :: s => c.utf8Size + byteSize s

/-- The bytes of the characters. -/
def bytesOf (s : List Char) : List UInt8 :=
  s.flatMap String.utf8EncodeChar

/-- The characters that the first `n` bytes are, and the text after them. There are none if the text
has fewer bytes or the last character is cut. -/
def splitBytes? : Nat → List Char → Option (List Char × List Char)
  | 0, s => some ([], s)
  | _ + 1, [] => none
  | n + 1, c :: s =>
    if c.utf8Size ≤ n + 1 then
      (splitBytes? (n + 1 - c.utf8Size) s).map fun (front, rest) => (c :: front, rest)
    else none

/-- The characters between two positions. -/
def slice? (text : String) (start stop : Nat) : Option (List Char) :=
  if start ≤ stop then
    (splitBytes? start text.toList).bind fun (_, rest) =>
      (splitBytes? (stop - start) rest).map Prod.fst
  else none

/-! ## Programs -/

/-- A program takes a position to a value and a position or to an error. To nothing it comes where
it slices the text inside a character or past its end, and where it does not end. -/
abbrev Program (α : Type) := StateT Nat (ExceptT ParseError Option) α

/-- What the program comes to from a position. -/
def Program.run? {α : Type} (program : Program α) (i : Nat) :
    Option (Except ParseError (α × Nat)) :=
  program i

/-- A program that slices the text at the position, which has to succeed. -/
def sliced {α : Type} (f : Nat → Option α) : Program α :=
  fun i => (f i).map fun a => .ok (a, i)

/-- The position. -/
def position : Program Nat := fun i => some (.ok (i, i))

/-- Goes to a position. -/
def moveTo (i : Nat) : Program Unit := fun _ => some (.ok ((), i))

/-- Ends with an error. -/
def fail {α : Type} (e : ParseError) : Program α :=
  fun _ => some (.error e)

/-- The text from the position on. -/
def remaining (self : Cursor) : Program (List Char) :=
  sliced fun i => (splitBytes? i self.text.toList).map Prod.snd

/-- The text from another position on. -/
def remainingAt (self : Cursor) (i : Nat) : Program (List Char) :=
  sliced fun _ => (splitBytes? i self.text.toList).map Prod.snd

/-- The column of the position, counted in characters. -/
def column (self : Cursor) : Program Nat :=
  sliced fun i => (splitBytes? i self.text.toList).map fun (front, _) => front.length + 1

/-- The text from a position up to here. -/
def lexeme (self : Cursor) (start : Nat) : Program String :=
  sliced fun i => (slice? self.text start i).map String.ofList

/-- The text between two places so many bytes ahead, if both are boundaries. -/
def ahead? (self : Cursor) (start stop : Nat) : Program (Option (List Char)) :=
  fun i => some (.ok (slice? self.text (i + start) (i + stop), i))

/-- Ends with an error that points here. -/
def failHere {α : Type} (self : Cursor) (fault : Fault) : Program α := do
  fail (.at fault (← self.column))

/-! ## Looking ahead -/

/-- The next character. -/
def peek (self : Cursor) : Program (Option Char) := do
  return (← self.remaining).head?

/-- Whether the text goes on with the given characters. -/
def goesOnWith (self : Cursor) (s : List Char) : Program Bool := do
  return (afterPrefix? s (← self.remaining)).isSome

/-- Whether a digit follows the next character. -/
def digitIsSecond (self : Cursor) : Program Bool := do
  return startsWith Char.isDigit (← self.remaining).tail

/-- Whether a byte is the given one or, for the byte of `9`, any digit. -/
def byteFits (x b : UInt8) : Bool :=
  if x = 57 then 48 ≤ b && b ≤ 57 else b == x

/-- Whether the bytes from a place on fit the ones of a shape. -/
def haveShape (bytes : List UInt8) : Nat → List UInt8 → Bool
  | _, [] => true
  | i, x :: shape =>
    (match bytes[i]? with
      | some b => byteFits x b
      | none => false) && haveShape bytes (i + 1) shape

/-- Whether the bytes from the position on have the shape. -/
def goesOnLike (self : Cursor) (shape : List Char) : Program Bool :=
  fun i => some (.ok (haveShape self.text.toUTF8.data.toList i (bytesOf shape), i))

/-- Whether there is no byte left. -/
def atEnd (self : Cursor) : Program Bool :=
  fun i => some (.ok (decide (self.text.utf8ByteSize ≤ i), i))

/-! ## Moving on -/

/-- Moves behind the next character, if there is one. -/
def advance (self : Cursor) : Program Unit := do
  match ← self.peek with
  | some c => moveTo ((← position) + c.utf8Size)
  | none => return ()

/-- Moves behind so many characters, or to the end of the text. -/
def advanceBy (self : Cursor) : Nat → Program Unit
  | 0 => return ()
  | n + 1 => do
    self.advance
    self.advanceBy n

/-- Moves behind the characters of a class. -/
def skipWhile (self : Cursor) (p : Char → Bool) : Program Unit := do
  match ← self.peek with
  | some c =>
    if p c then do
      self.advance
      self |>.skipWhile p
    else return ()
  | none => return ()
partial_fixpoint

/-- Moves behind a character that has to follow. -/
def expect (self : Cursor) (expected : Char) : Program Unit := do
  match ← self.peek with
  | some c => if c = expected then self.advance else self.failHere (.unexpectedChar c)
  | none => self.failHere .unexpectedEnd

/-! ## Connectives and operators -/

/-- The position behind a keyword, written in any case; a longer word is another one. -/
def behindKeyword (self : Cursor) (word : List Char) (i : Nat) : Program (Option Nat) := do
  let rest ← self.remainingAt i
  match (splitBytes? (byteSize word) rest).map Prod.fst with
  | none => return none
  | some head =>
    if head.map Char.toLower = word then
      let after ← sliced fun _ => (splitBytes? (byteSize word) rest).map Prod.snd
      return if startsWith isWordChar after then none else some (i + byteSize word)
    else return none

/-- The position behind blanks; there has to be one. -/
def behindBlanks (self : Cursor) (i : Nat) : Program (Option Nat) := do
  let rest ← self.remainingAt i
  return if byteSize (skipBlanks rest) = byteSize rest then none
    else some (i + (byteSize rest - byteSize (skipBlanks rest)))

/-- The position behind keywords with blanks between them. -/
def behindPhrase (self : Cursor) : List (List Char) → Nat → Program (Option Nat)
  | [], i => return some i
  | [word], i => self.behindKeyword word i
  | word :: words, i => do
    match ← self.behindKeyword word i with
    | none => return none
    | some j =>
      match ← self.behindBlanks j with
      | none => return none
      | some k => self.behindPhrase words k

/-- The position behind a phrase that the text goes on with. -/
def matchPhrase (self : Cursor) (words : List (List Char)) : Program (Option Nat) := do
  self.behindPhrase words (← position)

/-- Moves behind the symbol or else the keyword, if the text goes on with one of them. -/
def connective (self : Cursor) (symbol word : List Char) : Program Bool := do
  if ← self.goesOnWith symbol then
    self.advanceBy (byteSize symbol)
    return true
  else
    match ← self.matchPhrase [word] with
    | none => return false
    | some stop =>
      moveTo stop
      return true

/-- Moves behind the first of the symbols that the text goes on with. -/
def symbolOperator (self : Cursor) : List (List Char × Operator) → Program (Option Operator)
  | [] => return none
  | (symbol, op) :: table => do
    if ← self.goesOnWith symbol then
      self.advanceBy (byteSize symbol)
      return some op
    else self.symbolOperator table

/-- Moves behind the first of the phrases that the text goes on with. -/
def phraseOperator (self : Cursor) : List (List (List Char) × Operator) → Program (Option Operator)
  | [] => return none
  | (words, op) :: table => do
    match ← self.matchPhrase words with
    | none => self.phraseOperator table
    | some stop =>
      moveTo stop
      return some op

/-- Moves behind an operator, if there is one. -/
def operator (self : Cursor) : Program (Option Operator) := do
  match ← self.symbolOperator symbolOperators with
  | some op => return some op
  | none => self.phraseOperator phraseOperators

/-! ## Words, strings, numbers and dates -/

/-- Reads a run of characters that may stand in words. -/
def identifier (self : Cursor) : Program String := do
  let start ← position
  self.skipWhile isWordChar
  if (← position) = start then
    match ← self.peek with
    | some c => self.failHere (.unexpectedChar c)
    | none => self.failHere .unexpectedEnd
  else self.lexeme start

/-- Reads a path between brackets. -/
def bracketed (self : Cursor) : Program Expr := do
  let opening ← self.column
  self.expect '['
  let start ← position
  self.skipWhile (· ≠ ']')
  match ← self.peek with
  | some _ =>
    let path ← self.lexeme start
    self.advance
    return .property (trim path)
  | none => fail (.at .unclosedProperty opening)

/-- Reads what follows a backslash but for its last character. -/
def escape (self : Cursor) (backslash : Nat) : Program Char := do
  match ← self.peek with
  | some 'n' => return '\n'
  | some 't' => return '\t'
  | some 'r' => return '\r'
  | some '\\' => return '\\'
  | some '\'' => return '\''
  | some '"' => return '"'
  | some 'u' =>
    match ((← self.ahead? 1 5).bind escapeValue?).bind charOfCode? with
    | some c =>
      self.advanceBy 4
      return c
    | none => fail (.at .invalidEscape backslash)
  | _ => fail (.at .invalidEscape backslash)

/-- Reads on to the closing quote. -/
def stringTail (self : Cursor) (quote : Char) (opening : Nat) (cs : List Char) :
    Program (List Char) := do
  match ← self.peek with
  | none => fail (.at .unclosedString opening)
  | some c =>
    if c = quote then
      self.advance
      return cs
    else if c = '\\' then
      let backslash ← self.column
      self.advance
      let x ← self.escape backslash
      self.advance
      self |>.stringTail quote opening (cs ++ [x])
    else
      self.advance
      self |>.stringTail quote opening (cs ++ [c])
partial_fixpoint

/-- Reads a string. -/
def string (self : Cursor) : Program (List Char) := do
  let opening ← self.column
  match ← self.peek with
  | none => fail (.at .unexpectedEnd opening)
  | some quote =>
    self.advance
    self.stringTail quote opening []

/-- Moves behind a sign, if there is one. -/
def sign (self : Cursor) : Program Unit := do
  match ← self.peek with
  | some c => if c = '-' ∨ c = '+' then self.advance else return ()
  | none => return ()

/-- Moves behind a point with digits after it, if there is one. -/
def fraction (self : Cursor) : Program Unit := do
  if (← self.peek) = some '.' then
    if ← self.digitIsSecond then
      self.advance
      self.skipWhile Char.isDigit
    else return ()
  else return ()

/-- Moves behind an exponent, if there is one, and back if it has no digits. -/
def exponent (self : Cursor) : Program Unit := do
  match ← self.peek with
  | some c =>
    if c = 'e' ∨ c = 'E' then
      let start ← position
      self.advance
      self.sign
      if startsWith Char.isDigit (← self.peek).toList then self.skipWhile Char.isDigit
      else moveTo start
    else return ()
  | none => return ()

/-- Reads a number. -/
def number (self : Cursor) : Program Expr := do
  let start ← position
  self.sign
  self.skipWhile Char.isDigit
  self.fraction
  self.exponent
  return .number (← self.lexeme start)

/-- Moves behind the seconds of a time, if there are any. -/
def seconds (self : Cursor) : Program Unit := do
  if ← self.goesOnLike ":99".toList then
    self.advanceBy 3
    self.fraction
  else return ()

/-- Moves behind an offset, if there is one. -/
def zone (self : Cursor) : Program Bool := do
  if (← self.peek) = some 'Z' then
    self.advance
    return true
  else if ← self.goesOnLike "+99:99".toList then
    self.advanceBy 6
    return true
  else if ← self.goesOnLike "-99:99".toList then
    self.advanceBy 6
    return true
  else return false

/-- Reads a date, the time and the offset if there are any. -/
def date (self : Cursor) : Program Expr := do
  let start ← position
  self.advanceBy 10
  if ← self.goesOnLike "T99:99".toList then
    self.advanceBy 6
    self.seconds
    if ← self.zone then return .offsetTime (← self.lexeme start)
    else return .localTime (← self.lexeme start)
  else return .date (← self.lexeme start)

/-! ## Operands -/

/-- Whether a sign stands before a digit. -/
def signFollows (self : Cursor) (c : Char) : Program Bool :=
  if c = '-' ∨ c = '+' then self.digitIsSecond else return false

mutual

/-- Reads an operand. -/
def value (self : Cursor) : Program Expr := do
  self.skipWhile isBlank
  match ← self.peek with
  | none => self.failHere .unexpectedEnd
  | some c =>
    if c = '\'' ∨ c = '"' then return .text (String.ofList (← self.string))
    else if c = '[' then self.bracketed
    else if c = '$' then
      self.advance
      return .argument (← self.identifier)
    else if c.isDigit then
      if ← self.goesOnLike dateShape then self.date else self.number
    else if ← self.signFollows c then self.number
    else if isWordStart c then self |>.word
    else self.failHere (.unexpectedChar c)
partial_fixpoint

/-- Reads a literal word, a call or a property. -/
def word (self : Cursor) : Program Expr := do
  let name ← self.identifier
  if isLiteralWord name.toList then return wordOperand name.toList
  else
    let stop ← position
    self.skipWhile isBlank
    if (← self.peek) = some '(' then
      self.advance
      let args ← self |>.arguments []
      return .call name args
    else
      moveTo stop
      return .property name
partial_fixpoint

/-- Reads on to the parenthesis that closes the arguments. -/
def arguments (self : Cursor) (args : List Expr) : Program (List Expr) := do
  self.skipWhile isBlank
  match ← self.peek with
  | none => self.failHere .unexpectedEnd
  | some c =>
    if c = ')' then
      self.advance
      return args
    else if c = ',' ∧ args ≠ [] then
      self.advance
      self |>.arguments args
    else
      let arg ← self |>.value
      self |>.arguments (args ++ [arg])
partial_fixpoint

end

/-! ## Predicates -/

/-- Reads a comparison. -/
def comparison (self : Cursor) : Program Expr := do
  let left ← self.value
  self.skipWhile isBlank
  let found ← self.operator
  let here ← self.column
  match found with
  | none => fail (.at .expectedOperator here)
  | some op => return .compare op left (← self.value)

mutual

/-- Reads a comparison or a disjunction in parentheses. -/
def term (self : Cursor) : Program Expr := do
  self.skipWhile isBlank
  if (← self.peek) = some '(' then
    self.advance
    let e ← self |>.disjunction
    self.skipWhile isBlank
    self.expect ')'
    return e
  else self.comparison
partial_fixpoint

/-- Reads the operands of a conjunction after the ones that have been read. -/
def conjuncts (self : Cursor) (operands : List Expr) : Program (List Expr) := do
  self.skipWhile isBlank
  if ← self.connective ['&', '&'] ['a', 'n', 'd'] then
    let operand ← self |>.term
    self |>.conjuncts (operands ++ [operand])
  else return operands
partial_fixpoint

/-- Reads a conjunction. -/
def conjunction (self : Cursor) : Program Expr := do
  let first ← self |>.term
  let operands ← self |>.conjuncts [first]
  return joinOperands .all operands
partial_fixpoint

/-- Reads the operands of a disjunction after the ones that have been read. -/
def disjuncts (self : Cursor) (operands : List Expr) : Program (List Expr) := do
  self.skipWhile isBlank
  if ← self.connective ['|', '|'] ['o', 'r'] then
    let operand ← self |>.conjunction
    self |>.disjuncts (operands ++ [operand])
  else return operands
partial_fixpoint

/-- Reads a disjunction. -/
def disjunction (self : Cursor) : Program Expr := do
  let first ← self |>.conjunction
  let operands ← self |>.disjuncts [first]
  return joinOperands .any operands
partial_fixpoint

end

/-! ## Filter texts -/

/-- The next word, whatever it is made of. -/
def nextWord (self : Cursor) : Program String := do
  return String.ofList ((skipBlanks (← self.remaining)).takeWhile (!isBlank ·))

/-- Reads a filter text. -/
def filter (self : Cursor) : Program Expr := do
  self.skipWhile isBlank
  if ← self.atEnd then fail .empty
  else
    let e ← self.disjunction
    self.skipWhile isBlank
    if ← self.atEnd then return e
    else
      let token ← self.nextWord
      self.failHere (.unexpectedToken token)

/-- Reads a filter text from its start. -/
def parse? (text : String) : Option (Except ParseError Expr) :=
  ((Cursor.mk text).filter.run? 0).map fun outcome => outcome.map Prod.fst

end Cursor

end ContentFilter.Expr
