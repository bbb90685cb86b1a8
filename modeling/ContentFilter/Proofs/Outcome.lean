import ContentFilter.Proofs.JsonPrinting
import ContentFilter.Proofs.Meaning
import ContentFilter.Proofs.Selection
import ContentFilter.Proofs.Starting

/-!
# How a run ends

Whether a stage of a run fails is a matter of this stage alone: the content is no JSON text, no
resource is found to start at, one of the filters cannot be read. A run reports the first stage in
order that fails in this sense, even if later ones would fail too, and then it prints nothing. When
no stage fails it prints the paths of what is selected, with each argument as it was given last.
-/

namespace ContentFilter.CommandLine

open Resource

/-! ## Stages -/

/-- A stage of a run. -/
inductive Stage where
  /-- The content is read as a JSON text. -/
  | content
  /-- The resource to start at is looked up. -/
  | start
  /-- The filter for the resources is read. -/
  | filter
  /-- The filter for the branches is read, if there is one. -/
  | branch
deriving Repr, DecidableEq

/-- How many stages come before this one. -/
def Stage.place : Stage → Nat
  | content => 0
  | start => 1
  | filter => 2
  | branch => 3

theorem Stage.place_injective : Function.Injective Stage.place := by
  intro a b h
  cases a <;> cases b <;> first | rfl | cases h

namespace Options

/-- `o.FailsAt content stage report`: taken by itself the stage fails, and `report` says why. There
    is something to start at only in a content that is a JSON text; apart from this no stage depends
    on another one. -/
inductive FailsAt (o : Options) (content : Except String String) : Stage → String → Prop where
  /-- The content cannot be read. -/
  | unreadable {reason : String} (h : content = .error reason) :
      FailsAt o content .content ("failed to read content: " ++ reason)
  /-- The content is no JSON text. -/
  | invalidContent {text : String} {error : Json.Error} (h : content = .ok text)
      (hj : Json.read text = .error error) :
      FailsAt o content .content ("invalid content: " ++ error.message)
  /-- The start path, or else the path given for the root, leads to nothing in the content tree. -/
  | noResource {text : String} {j : Json} (h : content = .ok text) (hj : Json.read text = .ok j)
      (hfind : (ofJson o.root j).find? (o.start.getD o.root) = none) :
      FailsAt o content .start ("no resource at " ++ o.start.getD o.root)
  /-- The filter for the resources cannot be read. -/
  | filter {error : ParseError} (h : Expr.parse o.filter = .error error) :
      FailsAt o content .filter ("invalid filter: " ++ error.message)
  /-- The filter for the branches cannot be read. -/
  | branch {filter : String} {error : ParseError} (hb : o.branch = some filter)
      (h : Expr.parse filter = .error error) :
      FailsAt o content .branch ("invalid filter: " ++ error.message)

/-- `report` is what the first stage that fails reports. -/
def FailsFirst (o : Options) (content : Except String String) (report : String) : Prop :=
  ∃ stage, o.FailsAt content stage report ∧
    ∀ earlier other, o.FailsAt content earlier other → stage.place ≤ earlier.place

variable {o : Options} {content : Except String String} {failure : Failure} {report other : String}
  {stage : Stage} {tree start : Resource} {paths : List String} {now : Instant} {text : String}
  {j : Json}

/-- A stage has one report at most. -/
theorem FailsAt.unique (h : o.FailsAt content stage report)
    (h' : o.FailsAt content stage other) : report = other := by
  cases h with
  | unreadable hc =>
    cases h' with
    | unreadable hc' => rw [Except.error.inj (hc.symm.trans hc')]
    | invalidContent hc' => cases hc.symm.trans hc'
  | invalidContent hc hj =>
    cases h' with
    | unreadable hc' => cases hc.symm.trans hc'
    | invalidContent hc' hj' =>
      obtain rfl := Except.ok.inj (hc.symm.trans hc')
      rw [Except.error.inj (hj.symm.trans hj')]
  | noResource =>
    cases h' with
    | noResource => rfl
  | filter hp =>
    cases h' with
    | filter hp' => rw [Except.error.inj (hp.symm.trans hp')]
  | branch hb hp =>
    cases h' with
    | branch hb' hp' =>
      obtain rfl := Option.some.inj (hb.symm.trans hb')
      rw [Except.error.inj (hp.symm.trans hp')]

theorem FailsFirst.unique (h : o.FailsFirst content report) (h' : o.FailsFirst content other) :
    report = other := by
  obtain ⟨stage, hfails, hfirst⟩ := h
  obtain ⟨stage', hfails', hfirst'⟩ := h'
  obtain rfl : stage = stage' :=
    Stage.place_injective (Nat.le_antisymm (hfirst _ _ hfails') (hfirst' _ _ hfails))
  exact hfails.unique hfails'

/-! ## Each stage as it is run -/

theorem bind_eq_error_iff {ε α β : Type} {a : Except ε α} {f : α → Except ε β} {e : ε} :
    (a >>= f) = .error e ↔ a = .error e ∨ ∃ x, a = .ok x ∧ f x = .error e := by
  cases a with
  | error e' =>
    constructor
    · rintro ⟨⟩
      exact .inl rfl
    · rintro (⟨⟨⟩⟩ | ⟨_, hx, _⟩)
      · rfl
      · cases hx
  | ok x =>
    constructor
    · intro h
      exact .inr ⟨x, rfl, h⟩
    · rintro (h | ⟨_, ⟨⟩, h⟩)
      · cases h
      · exact h

/-- What the names in the filters stand for: the functions are the standard ones, and an argument
    has the value that it was given last, a number if it can be read as one. -/
def environment (o : Options) : Environment where
  functions := Environment.standard.functions
  arguments name := (o.arguments.reverse.lookup name).map fun text =>
    match Value.readNumber? text with
    | some number => number
    | none => .text text

end Options

end ContentFilter.CommandLine
