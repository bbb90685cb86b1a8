import ContentFilter.Filter.Compile
import ContentFilter.Filter.Meaning

/-!
# Compiling keeps the meaning of an expression

A compiled expression answers like the expression itself read node by node. Compiling decides
early what depends on constants only, reads a constant pattern beforehand, makes a negated operator
the negation of its positive one and drops a connective of one operand; none of this shows in an
answer. It holds for every tree, also for those that no filter text denotes.
-/

namespace ContentFilter

/-- `env` says what the names of `c` stand for: every function computes what `env` gives under its
    name from the values of its arguments, and the arguments are those of `c`. Under `name` and
    `path` anything may be registered. -/
structure Environment.Describes (env : Environment) (c : Context) : Prop where
  /-- Functions are pointwise, and found where `env` has one. -/
  functions : ∀ name, name ≠ "name" → name ≠ "path" →
    Option.Rel Function.Pointwise (c.registry.find? name) (env.functions name)
  /-- Arguments have the same values. -/
  arguments : ∀ name, env.arguments name = c.arguments.find? name

mutual

/-- The names of the functions that are called in an expression. -/
def Expr.calledNames : Expr → List String
  | .all es | .any es => Expr.calledNamesAll es
  | .compare _ left right => left.calledNames ++ right.calledNames
  | .call name arguments => name :: Expr.calledNamesAll arguments
  | _ => []

/-- The names of the functions that are called in expressions. -/
def Expr.calledNamesAll : List Expr → List String
  | [] => []
  | e :: es => e.calledNames ++ Expr.calledNamesAll es

end

/-- Like `Environment.Describes`, with some of the functions only. -/
structure Environment.DescribesFor (env : Environment) (names : List String) (c : Context) :
    Prop where
  /-- The functions with these names are pointwise, and found where `env` has one. -/
  functions : ∀ name ∈ names, name ≠ "name" → name ≠ "path" →
    Option.Rel Function.Pointwise (c.registry.find? name) (env.functions name)
  /-- Arguments have the same values. -/
  arguments : ∀ name, env.arguments name = c.arguments.find? name

theorem Environment.DescribesFor.mono {env : Environment} {names names' : List String} {c : Context}
    (h : env.DescribesFor names c) (hsub : ∀ name, name ∈ names' → name ∈ names) :
    env.DescribesFor names' c :=
  ⟨fun name hname => h.functions name (hsub name hname), h.arguments⟩

theorem Environment.Describes.describesFor {env : Environment} {c : Context} (h : env.Describes c)
    (names : List String) : env.DescribesFor names c :=
  ⟨fun name _ => h.functions name, h.arguments⟩

/-- What the names of the context that others begin as stand for. -/
def Environment.standard : Environment where
  functions name :=
    if name = "date" then some fun values s => Function.dateOf values s.now else none
  arguments _ := none

theorem Environment.standard_describes : Environment.standard.Describes Context.standard where
  functions name _ _ := by
    have hfind : Context.standard.registry.find? name =
        if name = "date" then some Function.date else none := by
      rw [show Context.standard.registry = NameTable.empty.insert "date" Function.date from rfl,
        NameTable.find?_insert, NameTable.find?_empty]
    rw [hfind]
    unfold Environment.standard
    by_cases h : name = "date"
    · simp only [h, if_true]
      exact Option.Rel.some Function.pointwise_date
    · simp only [h, if_false]
      exact Option.Rel.none
  arguments _ := rfl

/-! ## Comparisons -/

/-- The test of a comparison answers like its operator does on the values of the operands. -/
theorem Predicate.comparison_apply (op : Operator) (left right : Provider) (s : Subject) :
    Predicate.comparison op left right s = op.holds (left.apply s) (right.apply s) := by
  unfold Predicate.comparison
  split
  · rfl
  · cases hp : op.positive? with
    | some positive =>
      show (!Predicate.positiveComparison positive left right s) = _
      rw [Predicate.positiveComparison_apply, Operator.holds_of_positive? hp]
    | none => exact Predicate.positiveComparison_apply op left right s

/-! ## Operands -/

variable {c : Context} {env : Environment}

/-- The value of a call, the names of the resource apart. -/
theorem Expr.value_call (env : Environment) (s : Subject) (name : String) (arguments : List Expr) :
    (Expr.call name arguments).value env s =
      if name = "name" then .text s.resource.name
      else if name = "path" then .text s.resource.path
      else ((env.functions name).map fun g => g (Expr.values env s arguments) s).getD .absent := by
  by_cases hn : name = "name"
  · subst hn
    simp [Expr.value]
  · by_cases hp : name = "path"
    · subst hp
      simp [Expr.value]
    · rw [Expr.value, if_neg hn, if_neg hp]
      · cases env.functions name <;> rfl
      · exact hn
      · exact hp

/-- A compiled call has the value that its function has on the values of the arguments. -/
theorem Context.apply_callProvider {name : String} {names : List String}
    (h : env.DescribesFor names c) (hname : name ∈ names) (s : Subject)
    (arguments : List Provider) :
    (c.callProvider name arguments).apply s =
      if name = "name" then .text s.resource.name
      else if name = "path" then .text s.resource.path
      else
        ((env.functions name).map fun g => g (Provider.applyAll arguments s) s).getD .absent := by
  unfold Context.callProvider
  split
  · rfl
  · rename_i hn
    split
    · rfl
    · rename_i hp
      have hrel := h.functions name hname hn hp
      cases hf : c.registry.find? name with
      | none =>
        rw [hf] at hrel
        cases hg : env.functions name with
        | none => rfl
        | some g => rw [hg] at hrel; cases hrel
      | some f =>
        rw [hf] at hrel
        cases hg : env.functions name with
        | none => rw [hg] at hrel; cases hrel
        | some g =>
          rw [hg] at hrel
          cases hrel with
          | some hfg => exact hfg arguments s

mutual

/-- A compiled operand has the value of the operand. -/
theorem Context.apply_compileValue_of_describesFor (s : Subject) :
    ∀ e : Expr, env.DescribesFor e.calledNames c → (c.compileValue e).apply s = e.value env s
  | .property _, _ | .number _, _ | .null, _ | .text _, _ => rfl
  | .date _, _ | .localTime _, _ | .offsetTime _, _ => rfl
  | .all _, _ | .any _, _ | .compare _ _ _, _ => rfl
  | .argument name, h => by
    rw [Context.compileValue, Expr.value, h.arguments]
    rfl
  | .call name arguments, h => by
    have hname : name ∈ (Expr.call name arguments).calledNames := List.mem_cons_self
    have harguments : env.DescribesFor (Expr.calledNamesAll arguments) c :=
      h.mono fun _ => List.mem_cons_of_mem _
    rw [Context.compileValue, Context.apply_callProvider h hname, Expr.value_call,
      Context.applyAll_compileValues s arguments harguments]

/-- Compiled operands have the values of the operands. -/
theorem Context.applyAll_compileValues (s : Subject) :
    ∀ es : List Expr, env.DescribesFor (Expr.calledNamesAll es) c →
      Provider.applyAll (c.compileValues es) s = Expr.values env s es
  | [], _ => rfl
  | e :: es, h => by
    have hhead := Context.apply_compileValue_of_describesFor s e
      (h.mono fun _ => List.mem_append_left _)
    have htail := Context.applyAll_compileValues s es (h.mono fun _ => List.mem_append_right _)
    rw [Context.compileValues, Expr.values, ← hhead, ← htail]
    rfl

end

theorem Context.apply_compileValue (h : env.Describes c) (s : Subject) (e : Expr) :
    (c.compileValue e).apply s = e.value env s :=
  Context.apply_compileValue_of_describesFor s e (h.describesFor _)

/-! ## Predicates -/

/-- A connective of one operand is compiled to that operand, which has the same answers. -/
theorem Context.compile_all_apply (c : Context) (es : List Expr) (s : Subject) :
    c.compile (.all es) s = (c.compileAll es).all fun p => p s := by
  match es with
  | [] => rfl
  | [e] => simp [Context.compile, Context.compileAll]
  | _ :: _ :: _ => rfl

theorem Context.compile_any_apply (c : Context) (es : List Expr) (s : Subject) :
    c.compile (.any es) s = (c.compileAll es).any fun p => p s := by
  match es with
  | [] => rfl
  | [e] => simp [Context.compile, Context.compileAll]
  | _ :: _ :: _ => rfl

mutual

/-- A compiled predicate answers like the predicate. -/
theorem Context.compile_apply_of_describesFor (s : Subject) :
    ∀ e : Expr, env.DescribesFor e.calledNames c → c.compile e s = e.holds env s
  | .all es, h => by
    rw [Context.compile_all_apply, Expr.holds, (Context.compileAll_apply s es h).1]
  | .any es, h => by
    rw [Context.compile_any_apply, Expr.holds, (Context.compileAll_apply s es h).2]
  | .compare op left right, h => by
    have hleft : env.DescribesFor left.calledNames c := h.mono fun _ => List.mem_append_left _
    have hright : env.DescribesFor right.calledNames c := h.mono fun _ => List.mem_append_right _
    rw [Context.compile, Predicate.comparison_apply,
      Context.apply_compileValue_of_describesFor s left hleft,
      Context.apply_compileValue_of_describesFor s right hright, Expr.holds]
  | .call _ _, _ | .property _, _ | .number _, _ | .null, _ | .date _, _ => rfl
  | .localTime _, _ | .offsetTime _, _ | .argument _, _ | .text _, _ => rfl

/-- Compiled predicates answer together like the predicates do. -/
theorem Context.compileAll_apply (s : Subject) :
    ∀ es : List Expr, env.DescribesFor (Expr.calledNamesAll es) c →
      ((c.compileAll es).all fun p => p s) = Expr.holdsAll env s es ∧
        ((c.compileAll es).any fun p => p s) = Expr.holdsAny env s es
  | [], _ => ⟨rfl, rfl⟩
  | e :: es, h => by
    have hhead := Context.compile_apply_of_describesFor s e
      (h.mono fun _ => List.mem_append_left _)
    obtain ⟨hall, hany⟩ :=
      Context.compileAll_apply s es (h.mono fun _ => List.mem_append_right _)
    rw [Context.compileAll, List.all_cons, List.any_cons, hall, hany, hhead]
    exact ⟨rfl, rfl⟩

end

theorem Context.compile_apply (h : env.Describes c) (s : Subject) (e : Expr) :
    c.compile e s = e.holds env s :=
  Context.compile_apply_of_describesFor s e (h.describesFor _)

/-- Compiling keeps the meaning: on every subject a compiled expression answers, and a compiled
    operand has the value, that the expression has by itself. The functions that come with the
    library are among those that this holds for: `date`, also where it has made a constant of
    constant arguments, and whatever is computed anew for each resource. -/
theorem Context.compile_eq_meaning :
    (∀ (c : Context) (env : Environment), env.Describes c → ∀ (e : Expr) (s : Subject),
      c.compile e s = e.holds env s ∧ (c.compileValue e).apply s = e.value env s) ∧
    Function.date.Pointwise (fun values s => Function.dateOf values s.now) ∧
    ∀ f : List Value → Resource → Value,
      (Function.perResource f).Pointwise fun values s => f values s.resource := by
  refine ⟨?_, ?_, ?_⟩
  · intro c env h e s
    exact ⟨Context.compile_apply h s e, Context.apply_compileValue h s e⟩
  · exact Function.pointwise_date
  · exact Function.pointwise_perResource

/-- Two constants of different kinds, one of them made by a function, below two connectives of one
    operand each. -/
theorem Context.compile_eq_meaning_date :
    Environment.standard.Describes Context.standard ∧
    Context.standard.compile
        (.all [.any [.compare .equal (.call "date" [.text "2020-02-29"]) (.date "2020-02-29")]])
        ⟨Resource.new "/", ⟨0, 0⟩⟩ =
      Expr.holds Environment.standard ⟨Resource.new "/", ⟨0, 0⟩⟩
        (.all [.any [.compare .equal (.call "date" [.text "2020-02-29"]) (.date "2020-02-29")]]) ∧
    Expr.holds Environment.standard ⟨Resource.new "/", ⟨0, 0⟩⟩
        (.all [.any [.compare .equal (.call "date" [.text "2020-02-29"]) (.date "2020-02-29")]]) =
      true := by
  refine ⟨Environment.standard_describes, ?_, by decide +kernel⟩
  exact (Context.compile_eq_meaning.1 _ _ Environment.standard_describes _ _).1

end ContentFilter
