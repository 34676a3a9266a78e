import PromptMarkup.Expr.Symbol
import PromptMarkup.Value
/-!
# Expr — conditions

A condition is a tree of literals, paths into the data, calls of functions
and the connectives. `paths` and `calls` list what it reads and what it
calls, in the order they are written.
-/

namespace PromptMarkup

/-- A condition. -/
inductive Expr where
  | literal (value : Value)
  | path (path : String)
  | call (name : String) (args : List Expr)
  | not (inner : Expr)
  | and (left right : Expr)
  | or (left right : Expr)
  | compare (op : Expr.Operator) (left right : Expr)
  deriving Repr, Inhabited

namespace Expr

mutual

/-- The paths a condition reads. -/
def paths : Expr → List String
  | .literal _ => []
  | .path p => [p]
  | .call _ args => pathsOfAll args
  | .not inner => inner.paths
  | .and left right | .or left right | .compare _ left right => left.paths ++ right.paths

/-- The paths that several conditions read. -/
def pathsOfAll : List Expr → List String
  | [] => []
  | e :: rest => e.paths ++ pathsOfAll rest

end

mutual

/-- The names of the functions a condition calls. -/
def calls : Expr → List String
  | .literal _ | .path _ => []
  | .call name args => name :: callsOfAll args
  | .not inner => inner.calls
  | .and left right | .or left right | .compare _ left right => left.calls ++ right.calls

/-- The names of the functions that several conditions call. -/
def callsOfAll : List Expr → List String
  | [] => []
  | e :: rest => e.calls ++ callsOfAll rest

end

end Expr

end PromptMarkup
