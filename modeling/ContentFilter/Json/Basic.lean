import ContentFilter.Decimal.Binary64

/-!
# JSON values

Objects keep their members in the order in which the text names them first.
-/

namespace ContentFilter

/-- A number of a JSON text. -/
inductive JsonNumber where
  /-- An integer that was written without point and exponent and fits in 64 bits, with or without a
  sign. -/
  | integer (n : Int)
  /-- Every other number, rounded to the binary64 format. -/
  | float (x : Binary64)
deriving DecidableEq, Repr

/-- A JSON value. -/
inductive Json where
  /-- `null` -/
  | null
  /-- `true` or `false` -/
  | bool (b : Bool)
  /-- A number. -/
  | number (n : JsonNumber)
  /-- A string. -/
  | text (s : String)
  /-- An array. -/
  | array (items : List Json)
  /-- An object: its members in order. -/
  | object (members : List (String × Json))
deriving Repr

namespace Json

instance : Inhabited Json := ⟨null⟩

/-- Adds a member; one that is there already keeps its place and takes the new value. -/
def putMember (name : String) (value : Json) : List (String × Json) → List (String × Json)
  | [] => [(name, value)]
  | (key, held) :: rest =>
    if key = name then (key, value) :: rest else (key, held) :: putMember name value rest

/-- Adds the members one after the other. -/
def collectMembers (members : List (String × Json)) : List (String × Json) :=
  members.foldl (fun done m => putMember m.1 m.2 done) []

end Json

end ContentFilter
