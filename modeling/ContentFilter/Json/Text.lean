/-!
# Writing JSON

Strings are written with the short escapes of JSON and `\u00XX` for the other control characters;
a list of strings is written with one string a line.
-/

namespace ContentFilter.Json

/-- A character of a string, escaped where JSON asks for it. -/
def escapeChar (c : Char) : List Char :=
  match c with
  | '"' => ['\\', '"']
  | '\\' => ['\\', '\\']
  | '\x08' => ['\\', 'b']
  | '\x0c' => ['\\', 'f']
  | '\n' => ['\\', 'n']
  | '\r' => ['\\', 'r']
  | '\t' => ['\\', 't']
  | c =>
    if c.toNat < 0x20 then
      ['\\', 'u', '0', '0', Nat.digitChar (c.toNat / 16), Nat.digitChar (c.toNat % 16)]
    else [c]

/-- A string in quotes. -/
def quoted (s : String) : String :=
  String.ofList ('"' :: s.toList.flatMap escapeChar ++ ['"'])

/-- A list of strings as an array with one item a line. -/
def arrayText : List String → String
  | [] => "[]"
  | items => "[\n" ++ String.intercalate ",\n" (items.map fun s => "  " ++ quoted s) ++ "\n]"

end ContentFilter.Json
