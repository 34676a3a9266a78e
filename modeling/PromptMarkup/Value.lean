import PromptMarkup.Keyed
import PromptMarkup.Number
/-!
# Value — the data of a template

A template is rendered against a tree of data: scalars, lists and records.
This file has the tree, its equality as data (`same`), what counts as empty
and the number a value stands for where a condition compares numbers.
-/

namespace PromptMarkup

/-- A value of the data. The fields of a record are in ascending order of
their names, which is how `ofFields` puts them; that this is so at any depth is
what makes a value `Data`. -/
inductive Value where
  | null
  | boolean (b : Bool)
  | number (n : Number)
  | text (s : String)
  | list (items : List Value)
  | record (fields : List (String × Value))
  deriving Repr, Inhabited

namespace Value

/-- The record with the given fields. -/
def ofFields (fields : List (String × Value)) : Value :=
  .record (Keyed.ofEntries fields)

/-- An integer as a value. -/
def ofNat (n : Nat) : Value :=
  .number (.integer n)

/-- The kind of a value in words. -/
def kindText : Value → String
  | .null => "null"
  | .boolean _ => "a boolean"
  | .number _ => "a number"
  | .text _ => "a string"
  | .list _ => "a list"
  | .record _ => "a map"

/-! ## Equality -/

mutual

/-- Two values are the same data. Numbers of different kinds never are. -/
def same : Value → Value → Bool
  | .null, .null => true
  | .boolean a, .boolean b => a == b
  | .number m, .number n => m.same n
  | .text s, .text t => s == t
  | .list xs, .list ys => sameItems xs ys
  | .record fs, .record gs => sameFields fs gs
  | _, _ => false

/-- Two lists hold the same data in the same order. -/
def sameItems : List Value → List Value → Bool
  | [], [] => true
  | x :: xs, y :: ys => same x y && sameItems xs ys
  | _, _ => false

/-- Two records have the same names and under each the same data. -/
def sameFields : List (String × Value) → List (String × Value) → Bool
  | [], [] => true
  | (k, x) :: fs, (l, y) :: gs => k == l && same x y && sameFields fs gs
  | _, _ => false

end

/-! ## Emptiness and number -/

/-- A value that holds nothing: null, false, zero, and the text, list or
record without elements. -/
def isEmpty : Value → Bool
  | .null => true
  | .boolean b => !b
  | .number n => n.isZero
  | .text s => s.isEmpty
  | .list items => items.isEmpty
  | .record fields => fields.isEmpty

/-- A value counts as true when it holds something. -/
def isTruthy (v : Value) : Bool :=
  !v.isEmpty

/-- The value is a number of the data. -/
def isNumber : Value → Bool
  | .number _ => true
  | _ => false

/-- The number a value stands for: a number itself, or a text that denotes
one, up to white space around it. -/
def quantity? : Value → Option Binary64.Extended
  | .number n => some (.finite n.toBinary64)
  | .text s => Binary64.Extended.read? (Text.trim s.toList)
  | _ => none

end Value

end PromptMarkup
