/-!
# Errors of filter texts

Reading a filter text is the only thing that can fail: compiling and testing never do. Every error
but that of an empty text points at a column, counted in characters from 1.
-/

namespace ContentFilter

/-- What is wrong with a filter text at some place. -/
inductive Fault where
  /-- A character that cannot stand here. -/
  | unexpectedChar (c : Char)
  /-- A word after the end of the expression. -/
  | unexpectedToken (token : String)
  /-- The text ends too early. -/
  | unexpectedEnd
  /-- A string without a closing quote. -/
  | unclosedString
  /-- A bracketed property without a closing bracket. -/
  | unclosedProperty
  /-- A backslash that begins no escape. -/
  | invalidEscape
  /-- An operand without a comparison operator after it. -/
  | expectedOperator
deriving DecidableEq, Repr

/-- Why a text is no filter expression. -/
inductive ParseError where
  /-- The text is blank. -/
  | empty
  /-- Something is wrong at a column. -/
  | at (fault : Fault) (column : Nat)
deriving DecidableEq, Repr

namespace Fault

/-- What the fault is called. -/
def description : Fault → String
  | unexpectedChar c => "Unexpected character '" ++ c.toString ++ "' at"
  | unexpectedToken token => "Unexpected token \"" ++ token ++ "\" at"
  | unexpectedEnd => "Unexpected end of input at"
  | unclosedString => "Unclosed string starting at"
  | unclosedProperty => "Unclosed property starting at"
  | invalidEscape => "Invalid escape sequence at"
  | expectedOperator => "Expected comparison operator at"

end Fault

namespace ParseError

/-- The message of an error. -/
def message : ParseError → String
  | empty => "Empty filter expression"
  | .at fault column => fault.description ++ " column " ++ Nat.repr column

/-- The column that an error points at. -/
def column? : ParseError → Option Nat
  | empty => none
  | .at _ column => some column

end ParseError

end ContentFilter
