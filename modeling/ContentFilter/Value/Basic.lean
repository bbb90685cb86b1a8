import ContentFilter.Calendar.Iso
import ContentFilter.Calendar.Text
import ContentFilter.Decimal.Shortest
import ContentFilter.Decimal.Text

/-!
# Values

The values that properties hold and operands have. `absent` and `null` are different: `absent` says
that there is no value, `null` is the value that a filter writes `null`. A value has up to three
views that comparisons look at: its text, its number and its point in time.
-/

namespace ContentFilter

/-- A value. -/
inductive Value where
  /-- There is no value. -/
  | absent
  /-- The value written `null`. -/
  | null
  /-- An integer of 64 bits. -/
  | integer (n : Int64)
  /-- A decimal of any size. -/
  | decimal (d : Decimal)
  /-- A text. -/
  | text (s : String)
  /-- A truth value. -/
  | boolean (b : Bool)
  /-- A point in time. -/
  | instant (i : Instant)
  /-- A point in time as a resource holds it, with its offset. -/
  | calendar (z : ZonedTime)
  /-- The values of a property with several of them. -/
  | list (items : List Value)
deriving Repr

namespace Value

instance : Inhabited Value := ⟨absent⟩

/-- Whether the value is `absent` or `null`. -/
def isNullish : Value → Bool
  | absent | null => true
  | _ => false

/-- The text of a truth value. -/
def booleanText (b : Bool) : String :=
  if b then "true" else "false"

/-- The text that equality, `like` and the list operators look at; `absent`, `null` and lists have
none. -/
def toText? : Value → Option String
  | absent | null | list _ => none
  | text s => some s
  | integer n => some (String.ofList (Text.signedDigitsOf n.toInt))
  | decimal d => some d.toText
  | boolean b => some (booleanText b)
  | instant i => some i.toText
  | calendar z => some z.instant.toText

/-- The number that an integer or a decimal is. -/
def toDecimal? : Value → Option Decimal
  | integer n => some (.ofInt n.toInt)
  | decimal d => some d
  | _ => none

/-- The point in time that an instant or a calendar value is. -/
def toInstant? : Value → Option Instant
  | instant i => some i
  | calendar z => some z.instant
  | _ => none

mutual

/-- The form in which a stored value is compared: truth values become texts and calendar values
points in time, at every depth of a list. -/
def normalized : Value → Value
  | boolean b => text (booleanText b)
  | calendar z => instant z.instant
  | list items => list (normalizedAll items)
  | v => v

/-- `normalized` on every value of a list. -/
def normalizedAll : List Value → List Value
  | [] => []
  | v :: vs => normalized v :: normalizedAll vs

end

/-- Whether an integer fits in 64 bits. -/
def fitsInt64 (n : Int) : Bool :=
  -9223372036854775808 ≤ n && n < 9223372036854775808

theorem toInt_ofInt_of_fitsInt64 {n : Int} (h : fitsInt64 n = true) :
    (Int64.ofInt n).toInt = n := by
  rw [fitsInt64, Bool.and_eq_true, decide_eq_true_iff, decide_eq_true_iff] at h
  exact Int64.toInt_ofInt_of_le h.1 h.2

theorem fitsInt64_toInt (n : Int64) : fitsInt64 n.toInt = true := by
  rw [fitsInt64, Bool.and_eq_true, decide_eq_true_iff, decide_eq_true_iff]
  exact ⟨n.le_toInt, n.toInt_lt⟩

/-- Reads a number: an integer if it is one and fits in 64 bits, else a decimal. Blanks around it
are left out. -/
def readNumber? (s : String) : Option Value :=
  let chars := Text.trimBlanks s.toList
  match (Text.readInt? chars).filter (fitsInt64 ·) with
  | some n => some (integer (.ofInt n))
  | none => (Decimal.ofChars? chars).map decimal

/-- A binary number as a decimal in plain notation; what is no finite number is no value. -/
def ofBinary64 (x : Binary64) : Value :=
  match Decimal.ofBinary64? .plain x with
  | some d => decimal d
  | none => absent

@[simp] theorem normalizedAll_eq_map (vs : List Value) : normalizedAll vs = vs.map normalized := by
  induction vs with
  | nil => rfl
  | cons v vs ih => simp [normalizedAll, ih]

end Value

end ContentFilter
