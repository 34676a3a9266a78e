import PromptMarkup.Context
import PromptMarkup.Expr
import PromptMarkup.Function
import PromptMarkup.Text.Quoted
/-!
# Expr — the value of a condition

A condition has a value in a context, or is absent where a path leads
nowhere. Absence is not null: it is equal to absence alone and comes before
or after nothing. Where a number takes part in a comparison both sides are
compared as numbers, so a text may take the place of one.
-/

namespace PromptMarkup

/-- The value of a condition, if it has one. -/
inductive Operand where
  | absent
  | present (value : Value)
  deriving Repr, Inhabited

namespace Operand

/-- The operand counts as true. -/
def isTruthy : Operand → Bool
  | .absent => false
  | .present value => value.isTruthy

/-- The operand as a value; absence becomes null. -/
def toValue : Operand → Value
  | .absent => .null
  | .present value => value

/-- What a path leads to. -/
def ofOption : Option Value → Operand
  | none => .absent
  | some value => .present value

end Operand

namespace Value

/-- How a complaint about a comparison describes a value. -/
def described : Value → String
  | .null => "nil"
  | .boolean b => s!"bool {b}"
  | .number n => s!"number {n.shown}"
  | .text s => s!"string {Text.quoted s}"
  | .list _ => "array"
  | .record _ => "object"

/-- Two values are equal in a condition: as numbers if either is one, else
as data. -/
def equals (a b : Value) : Bool :=
  if a.isNumber || b.isNumber then
    match a.quantity?, b.quantity? with
    | some x, some y => x.same y
    | _, _ => false
  else a.same b

/-- The order of two values: as numbers if either is one, else of two texts
character by character. Nothing else is ordered. -/
def order (a b : Value) : Except EvalFault Ordering :=
  if a.isNumber || b.isNumber then
    match a.quantity?, b.quantity? with
    | some x, some y =>
      match x.compare? y with
      | some o => .ok o
      | none => .error .notANumber
    | _, _ => .error (.notComparable a.described b.described)
  else
    match a, b with
    | .text s, .text t => .ok (compare s t)
    | _, _ => .error (.notOrdered a.described b.described)

end Value

namespace Expr

/-- An order satisfies a comparison other than (in)equality. -/
def Operator.accepts (op : Operator) (o : Ordering) : Bool :=
  match op with
  | .less => o == .lt
  | .lessOrEqual => o != .gt
  | .greater => o == .gt
  | .greaterOrEqual => o != .lt
  | .equal => o == .eq
  | .notEqual => o != .eq

/-- The truth of a comparison. -/
def compareOperands (op : Operator) : Operand → Operand → Except EvalFault Bool
  | .absent, .absent => .ok (op == .equal)
  | .absent, .present _ | .present _, .absent => .ok (op == .notEqual)
  | .present a, .present b =>
    match op with
    | .equal => .ok (a.equals b)
    | .notEqual => .ok (!a.equals b)
    | op => (a.order b).map op.accepts

/-- A truth value as an operand. -/
def truth (b : Bool) : Operand :=
  .present (.boolean b)

mutual

/-- The value of a condition. The right side of a connective is evaluated
only if the left side does not settle it. -/
def eval (ctx : Context) (fs : Functions) : Expr → Except Failure Operand
  | .literal value => .ok (.present value)
  | .path p => .ok (.ofOption (ctx.lookup? p))
  | .call name args =>
    match evalAll ctx fs args with
    | .error failure => .error failure
    | .ok values => (fs.call name values).map .present
  | .not inner =>
    match eval ctx fs inner with
    | .error failure => .error failure
    | .ok operand => .ok (truth !operand.isTruthy)
  | .and left right =>
    match eval ctx fs left with
    | .error failure => .error failure
    | .ok operand =>
      if operand.isTruthy then (eval ctx fs right).map fun o => truth o.isTruthy
      else .ok (truth false)
  | .or left right =>
    match eval ctx fs left with
    | .error failure => .error failure
    | .ok operand =>
      if operand.isTruthy then .ok (truth true)
      else (eval ctx fs right).map fun o => truth o.isTruthy
  | .compare op left right =>
    match eval ctx fs left with
    | .error failure => .error failure
    | .ok a =>
      match eval ctx fs right with
      | .error failure => .error failure
      | .ok b =>
        match compareOperands op a b with
        | .ok b => .ok (truth b)
        | .error fault => .error (.eval fault none)

/-- The values of several conditions, as the arguments of a call. -/
def evalAll (ctx : Context) (fs : Functions) : List Expr → Except Failure (List Value)
  | [] => .ok []
  | e :: rest =>
    match eval ctx fs e with
    | .error failure => .error failure
    | .ok operand => (evalAll ctx fs rest).map (operand.toValue :: ·)

end

/-- Whether a condition holds. -/
def holds (ctx : Context) (fs : Functions) (e : Expr) : Except Failure Bool :=
  (e.eval ctx fs).map Operand.isTruthy

end Expr

end PromptMarkup
