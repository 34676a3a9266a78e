import PromptMarkup.Template
import PromptMarkup.Tree.Inherit
/-!
# Engine — settings, templates and what a call leaves behind

An engine is its settings: options, resolvers, functions, the environment
and a provider of template sources. The named templates are kept apart in a
store, which calls read and extend. Besides the store a call leaves a record
of the failures it only logged and of the variables it read (`Journal`); a
call is a function from journal to result and journal (`Run`), so nothing
else passes from one call to the next.
-/

namespace PromptMarkup

/-- The templates an engine knows, by name. -/
abbrev Store := Keyed Template

/-- The settings of an engine. The provider has the sources of templates
that were never registered. It is asked two things, whether it has a template
and what the source of this template is. The answers are taken to agree and to
be the same whenever it is asked, so the provider is one partial function. -/
structure Engine where
  options : Options := {}
  resolvers : Resolvers := Resolvers.builtin
  functions : Functions := []
  environment : Environment := []
  provider : String → Option String := fun _ => none

/-- A failure that was logged instead of ending the render. -/
structure LogEvent where
  template : String
  tag : String
  line : Nat
  column : Nat
  failure : Failure
  deriving Repr

/-- What a variable was replaced by. -/
inductive Resolution where
  | value (text : String)
  | fallback (text : String)
  | notFound
  deriving DecidableEq, Repr

/-- The evaluation of a variable. -/
structure VariableRead where
  path : String
  line : Nat
  column : Nat
  resolution : Resolution
  deriving DecidableEq, Repr

/-- What calls leave behind: the store, and in order the logged failures and
the variables read. -/
structure Journal where
  store : Store := []
  logs : Array LogEvent := #[]
  reads : Array VariableRead := #[]

/-- A call on an engine. What it leaves behind stays, whether it fails or
not. -/
abbrev Run := Tree.Effect Journal

namespace Engine

/-- Reads a template with the delimiters and resolvers of the engine. -/
def parse (e : Engine) (name source : String) : Except Failure Template :=
  Template.parse e.options.delimiters e.resolvers name source

/-- Everything remarkable about a source. A source that cannot even be cut
into tokens has that failure as its one issue. -/
def validate (e : Engine) (source : String) : List Issue :=
  match Tree.parse e.options.delimiters e.resolvers "inline" source with
  | .ok (_, issues) => issues
  | .error failure =>
    let p := failure.position?.getD .origin
    [⟨.error, failure.message, p.line, p.column, none⟩]

/-- A template of this name is registered or can be provided. -/
def has (e : Engine) (store : Store) (name : String) : Bool :=
  Keyed.has store name || (e.provider name).isSome

/-- Adds a template whose name is free. -/
def add (t : Template) : Run Unit := do
  let journal ← get
  if Keyed.has journal.store t.name then throw (.registration (.templateTaken t.name))
  else set { journal with store := Keyed.insert t.name t journal.store }

/-- Reads a template and adds it. -/
def register (e : Engine) (name source : String) : Run Unit := do
  let t ← liftM (e.parse name source)
  add t

/-- The template of a name: from the store, else read from the provider and
kept in the store. -/
def load (e : Engine) (name : String) : Run (Option Template) := do
  let journal ← get
  match Keyed.find? journal.store name with
  | some t => pure (some t)
  | none =>
    match e.provider name with
    | none => pure none
    | some source =>
      let t ← liftM (e.parse name source)
      set { journal with store := Keyed.insert name t journal.store }
      pure (some t)

/-- The nodes a template stands for once its parents are resolved. -/
def effective (e : Engine) (t : Template) : Run (List Node) :=
  t.tree.effective (fun name => (·.map Template.tree) <$> e.load name) e.options.maxDepth

end Engine

/-- The result of a call with what it leaves behind. -/
structure Outcome (α : Type) where
  result : Except Failure α
  journal : Journal

/-- Makes a call on an engine whose store is given. -/
def Run.outcome {α : Type} (run : Run α) (store : Store) : Outcome α :=
  let (result, journal) := run.run { store }
  ⟨result, journal⟩

end PromptMarkup
