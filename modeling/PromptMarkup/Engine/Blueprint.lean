import PromptMarkup.Engine
import PromptMarkup.Function.Standard
/-!
# Engine — putting one together

A blueprint has the settings of an engine and the templates it starts with.
Building checks the delimiters and registers the templates in order; the
first fault is the whole outcome.
-/

namespace PromptMarkup

/-- The settings of an engine and the templates it starts with, by name and
source. -/
structure Blueprint where
  engine : Engine := {}
  templates : List (String × String) := []

namespace Blueprint

/-- Adds a resolver whose tag is free. -/
def resolver (b : Blueprint) (r : Resolver) : Except Failure Blueprint :=
  (b.engine.resolvers.register r).map fun resolvers =>
    { b with engine := { b.engine with resolvers } }

/-- Adds a function whose name is free. -/
def function (b : Blueprint) (f : Function) : Except Failure Blueprint :=
  (b.engine.functions.register f).map fun functions =>
    { b with engine := { b.engine with functions } }

/-- Adds a template to start with. -/
def template (b : Blueprint) (name source : String) : Blueprint :=
  { b with templates := b.templates ++ [(name, source)] }

/-- The store that the given templates make. -/
def stock (e : Engine) (store : Store) : List (String × String) → Except Failure Store
  | [] => .ok store
  | (name, source) :: rest =>
    let outcome := (e.register name source).outcome store
    match outcome.result with
    | .error failure => .error failure
    | .ok () => stock e outcome.journal.store rest

/-- Builds the engine and its store. -/
def build (b : Blueprint) : Except Failure (Engine × Store) :=
  match b.engine.options.delimiters.check with
  | .error failure => .error failure
  | .ok _ => (stock b.engine [] b.templates).map (b.engine, ·)

end Blueprint

/-- The engine with the standard functions and all else as usual. -/
def Engine.standard : Engine :=
  { functions := Functions.standard }

end PromptMarkup
