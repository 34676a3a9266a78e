import PromptMarkup.Value.Path
/-!
# Context — what names stand for

A template sees the data it is rendered with and, inside loops, the names
the loops bind. `lookup?` tries the scopes from the innermost outwards
before the data, by the first segment of a path alone: a scope that binds
it hides everything below.
-/

namespace PromptMarkup

/-- The data and the scopes above it, the innermost first. -/
structure Context where
  root : Value
  scopes : List (Keyed Value) := []
  deriving Repr, Inhabited

namespace Context

/-- The context with a new innermost scope. -/
def push (ctx : Context) : Context :=
  { ctx with scopes := [] :: ctx.scopes }

/-- The context without its innermost scope. -/
def pop (ctx : Context) : Context :=
  { ctx with scopes := ctx.scopes.tail }

/-- The context with a name bound in the innermost scope. Where there is no
scope nothing is bound. -/
def bind (ctx : Context) (name : String) (value : Value) : Context :=
  match ctx.scopes with
  | [] => ctx
  | scope :: outer => { ctx with scopes := scope.insert name value :: outer }

/-- The value of a name: from the innermost scope that binds it, else from
the data. -/
def head? (ctx : Context) (name : String) : Option Value :=
  (ctx.scopes.findSome? (Keyed.find? · name)).or (ctx.root.select? name)

/-- The value at a path. A path that begins with a point leads nowhere. -/
def lookup? (ctx : Context) (path : String) : Option Value :=
  match Path.segments path with
  | [] => none
  | head :: rest =>
    if head.isEmpty then none else (ctx.head? head).bind (Value.follow? · rest)

end Context

end PromptMarkup
