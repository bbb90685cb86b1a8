import ContentFilter.Filter.Function

/-!
# Contexts

What a filter is compiled with: the functions that it may call and the values of its arguments.
-/

namespace ContentFilter

/-- Functions by name. -/
abbrev Registry := NameTable Function

/-- The registry that contexts begin with. -/
def Registry.standard : Registry :=
  .ofList [("date", Function.date)]

/-- What filters are compiled with. -/
structure Context where
  /-- The functions. -/
  registry : Registry
  /-- The values of the arguments. -/
  arguments : NameTable Value

namespace Context

/-- The context that others begin as. -/
def standard : Context := ⟨.standard, .empty⟩

/-- Binds an argument. -/
def withArgument (c : Context) (name : String) (value : Value) : Context :=
  { c with arguments := c.arguments.insert name value }

/-- Registers a function. -/
def withFunction (c : Context) (name : String) (f : Function) : Context :=
  { c with registry := c.registry.insert name f }

/-- Binds arguments one after the other. -/
def withArguments (c : Context) (arguments : List (String × Value)) : Context :=
  arguments.foldl (fun c a => c.withArgument a.1 a.2) c

end Context

end ContentFilter
