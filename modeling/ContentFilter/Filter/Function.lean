import ContentFilter.Calendar.Pattern
import ContentFilter.Filter.Provider

/-!
# Functions

A function makes an operand of its compiled arguments. It may look at which of them are constants
and give a constant itself. A pointwise function is one that looks at the values of its arguments
only.
-/

namespace ContentFilter

/-- A function that filters may call. -/
def Function := List Provider → Provider

namespace Function

/-- The operand that the function makes of its arguments. -/
def call (f : Function) (arguments : List Provider) : Provider := f arguments

/-- The function that computes its value anew for each resource. -/
def perResource (f : List Value → Resource → Value) : Function := fun arguments =>
  .dynamic fun s => f (Provider.applyAll arguments s) s.resource

/-- `f` gives the value that `g` has on the values of its arguments. -/
def Pointwise (f : Function) (g : List Value → Subject → Value) : Prop :=
  ∀ arguments s, (f.call arguments).apply s = g (Provider.applyAll arguments s) s

/-- What the function makes of values: its operand for constant arguments. -/
def denotation (f : Function) (values : List Value) (s : Subject) : Value :=
  (f.call (values.map .constant)).apply s

/-- A pattern that a text is read by, if it is one, and else in the usual ways. -/
def readTime? (text : String) (pattern : Option String) : Option Instant :=
  match pattern with
  | some p => Calendar.readByPattern? text p
  | none => Calendar.readInstant? text.toList

/-- The point in time of a value: its own, or the one that its text is read as. -/
def timeOf (value : Value) (pattern : Option String) : Value :=
  match value.toInstant? with
  | some i => .instant i
  | none =>
    match value.toText?.bind (readTime? · pattern) with
    | some i => .instant i
    | none => .absent

/-- The point in time that `date` gives for its arguments at a time: without arguments that time,
else the one of the first, read by the second as a pattern if it has a text. -/
def dateOf (arguments : List Value) (now : Instant) : Value :=
  match arguments with
  | [] => .instant now
  | value :: rest => timeOf value (rest.head?.bind Value.toText?)

/-- The function `date`. Of constant arguments it makes a constant. -/
def date : Function := fun arguments =>
  match arguments with
  | [] => .dynamic fun s => .instant s.now
  | _ =>
    match Provider.constants? arguments with
    | some (value :: rest) => .constant (timeOf value (rest.head?.bind Value.toText?))
    | _ => .dynamic fun s => dateOf (Provider.applyAll arguments s) s.now

theorem Pointwise.denotation {f : Function} {g : List Value → Subject → Value}
    (h : f.Pointwise g) : f.Pointwise f.denotation := by
  intro arguments s
  have hconstants : Provider.applyAll ((Provider.applyAll arguments s).map .constant) s =
      Provider.applyAll arguments s := by
    simp [Provider.applyAll]
  rw [Function.denotation, h, h, hconstants]

theorem pointwise_perResource (f : List Value → Resource → Value) :
    Pointwise (perResource f) fun values s => f values s.resource :=
  fun _ _ => rfl

theorem pointwise_date : Pointwise date fun values s => dateOf values s.now := by
  intro arguments s
  cases arguments with
  | nil => rfl
  | cons p ps =>
    simp only [call, date]
    split
    · rename_i value rest h
      rw [Provider.applyAll_of_constants? h]
      rfl
    · rfl

end Function

end ContentFilter
