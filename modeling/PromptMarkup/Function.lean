import PromptMarkup.Failure
import PromptMarkup.Value.Written
/-!
# Function — what conditions can call

A function has a name, the argument counts it takes and what it computes.
A table of functions is consulted by name; the count is checked before the
function sees its arguments. What a function gives depends on its arguments
alone. Code with a state of its own, which may answer otherwise the next time, is
outside of this model.
-/

namespace PromptMarkup

/-- The number a value stands for. Any other value is a failure of
evaluation. -/
def Value.toQuantity (v : Value) : Except Failure Binary64.Extended :=
  match v.quantity? with
  | some x => .ok x
  | none => .error (.eval (.notNumeric v.shown) none)

/-- A function that conditions can call. Without a greatest count it takes
any number of arguments from the least on. -/
structure Function where
  name : String
  least : Nat
  most : Option Nat
  body : List Value → Except Failure Value

/-- The function takes this number of arguments. -/
def Function.takes (f : Function) (count : Nat) : Bool :=
  f.least ≤ count && f.most.all (count ≤ ·)

/-- Applies a function to as many arguments as it takes. -/
def Function.apply (f : Function) (args : List Value) : Except Failure Value :=
  if f.takes args.length then f.body args
  else .error (.eval (.argumentCount f.name f.least f.most args.length) none)

/-- The functions of an engine, by name. -/
abbrev Functions := Keyed Function

namespace Functions

/-- Calls a function by name. -/
def call (fs : Functions) (name : String) (args : List Value) : Except Failure Value :=
  match Keyed.find? fs name with
  | some f => f.apply args
  | none => .error (.eval (.unknownFunction name) none)

/-- Adds a function, in place of one of the same name. -/
def put (fs : Functions) (f : Function) : Functions :=
  Keyed.insert f.name f fs

/-- Adds a function whose name is free. -/
def register (fs : Functions) (f : Function) : Except Failure Functions :=
  if Keyed.has fs f.name then .error (.registration (.functionTaken f.name))
  else .ok (put fs f)

/-- Adds every function of another table, in place of those of the same
names. -/
def extend (fs other : Functions) : Functions :=
  other.foldl (fun fs entry => put fs entry.2) fs

end Functions

end PromptMarkup
