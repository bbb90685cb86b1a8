/-!
# Errors of JSON texts

An error says what is wrong with the text and how far the text was looked at: up to a line and a
column of it, where columns count bytes.
-/

namespace ContentFilter.Json

/-- What is wrong with a text at some place. -/
inductive Fault where
  /-- The text ends inside an array. -/
  | unendedArray
  /-- The text ends inside an object. -/
  | unendedObject
  /-- The text ends inside a string. -/
  | unendedString
  /-- The text ends where a value has to follow or go on. -/
  | missingValue
  /-- A name without a colon after it. -/
  | expectedColon
  /-- An item with neither a comma nor a closing bracket after it. -/
  | expectedItemEnd
  /-- A member with neither a comma nor a closing brace after it. -/
  | expectedMemberEnd
  /-- A word that begins like `null`, `true` or `false` and goes on in another way. -/
  | expectedWord
  /-- A character that no value begins with. -/
  | expectedValue
  /-- A backslash that begins no escape. -/
  | invalidEscape
  /-- A digit is missing, or there is one too many. -/
  | invalidNumber
  /-- A number that is too large. -/
  | numberOutOfRange
  /-- A control character in a string. -/
  | controlCharacter
  /-- A member that does not begin with a string. -/
  | expectedName
  /-- A surrogate that is no part of a pair. -/
  | loneSurrogate
  /-- A comma before a closing bracket or brace. -/
  | trailingComma
  /-- Something after the value. -/
  | trailingCharacters
  /-- The first surrogate of a pair, and no escape after it. -/
  | unendedPair
  /-- Too many arrays and objects inside each other. -/
  | tooDeep
deriving DecidableEq, Repr

/-- What the fault is called. -/
def Fault.description : Fault → String
  | unendedArray => "EOF while parsing a list"
  | unendedObject => "EOF while parsing an object"
  | unendedString => "EOF while parsing a string"
  | missingValue => "EOF while parsing a value"
  | expectedColon => "expected `:`"
  | expectedItemEnd => "expected `,` or `]`"
  | expectedMemberEnd => "expected `,` or `\x7d`"
  | expectedWord => "expected ident"
  | expectedValue => "expected value"
  | invalidEscape => "invalid escape"
  | invalidNumber => "invalid number"
  | numberOutOfRange => "number out of range"
  | controlCharacter => "control character (\\u0000-\\u001F) found while parsing a string"
  | expectedName => "key must be a string"
  | loneSurrogate => "lone leading surrogate in hex escape"
  | trailingComma => "trailing comma"
  | trailingCharacters => "trailing characters"
  | unendedPair => "unexpected end of hex escape"
  | tooDeep => "recursion limit exceeded"

/-- Why a text is no JSON. -/
structure Error where
  /-- What is wrong. -/
  fault : Fault
  /-- The line up to which the text was looked at, counted from 1. -/
  line : Nat
  /-- The bytes of this line that were looked at. -/
  column : Nat
deriving DecidableEq, Repr

/-- The message of an error. -/
def Error.message (e : Error) : String :=
  e.fault.description ++ " at line " ++ Nat.repr e.line ++ " column " ++ Nat.repr e.column

/-- Reading stops at a place in the text. -/
structure Failure where
  /-- What is wrong there. -/
  fault : Fault
  /-- How many bytes of the text come after what was looked at. -/
  left : Nat
deriving DecidableEq, Repr

namespace Failure

/-- A failure before the rest of the text. -/
def before (fault : Fault) (rest : List Char) : Failure :=
  ⟨fault, (String.ofList rest).utf8ByteSize⟩

/-- A failure after the first byte of the rest of the text, or at the end of the text. -/
def after (fault : Fault) (rest : List Char) : Failure :=
  ⟨fault, (String.ofList rest).utf8ByteSize - 1⟩

/-- The failure as an error of the whole text. -/
def toError (text : String) (f : Failure) : Error :=
  let seen := text.toUTF8.data.toList.take (text.utf8ByteSize - f.left)
  ⟨f.fault, seen.count 10 + 1, (seen.reverse.takeWhile (· ≠ 10)).length⟩

end Failure

end ContentFilter.Json
