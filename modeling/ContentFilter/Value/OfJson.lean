import ContentFilter.Json.Basic
import ContentFilter.Value.Basic

/-!
# Values of JSON

`null` is `null`, arrays are lists, and an object is no value. A property of a content tree may also
hold a time: there a string that is written as one becomes a calendar value.
-/

namespace ContentFilter.Value

/-- The value of a JSON number: an integer if it fits, else a decimal. -/
def ofJsonNumber : JsonNumber → Value
  | .integer n => if fitsInt64 n then integer (.ofInt n) else decimal (.ofInt n)
  | .float x =>
    match Decimal.ofBinary64? .json x with
    | some d => decimal d
    | none => absent

/-- The value of a string that may be written as a time. -/
def ofStoredText (s : String) : Value :=
  match Calendar.readStored? s.toList with
  | some z => calendar z
  | none => text s

mutual

/-- The value of a JSON value, its strings turned into values by `ofText`. -/
def ofJsonWith (ofText : String → Value) : Json → Value
  | .null => null
  | .bool b => boolean b
  | .number n => ofJsonNumber n
  | .text s => ofText s
  | .array items => list (ofJsonAllWith ofText items)
  | .object _ => absent

/-- `ofJsonWith` on every item of an array. -/
def ofJsonAllWith (ofText : String → Value) : List Json → List Value
  | [] => []
  | item :: items => ofJsonWith ofText item :: ofJsonAllWith ofText items

end

/-- The value of a JSON value, its strings taken as texts. -/
def ofJson (j : Json) : Value :=
  ofJsonWith text j

/-- The value of a property that a content tree holds. -/
def ofStored (j : Json) : Value :=
  ofJsonWith ofStoredText j

@[simp] theorem ofJsonAllWith_eq_map (ofText : String → Value) (items : List Json) :
    ofJsonAllWith ofText items = items.map (ofJsonWith ofText) := by
  induction items with
  | nil => rfl
  | cons item items ih => simp [ofJsonAllWith, ih]

end ContentFilter.Value
