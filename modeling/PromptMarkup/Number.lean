import PromptMarkup.Number.Decimal
import PromptMarkup.Number.Layout
import PromptMarkup.Text.Blank
/-!
# Number — exact integers and binary64 numbers

A number of the data is either an integer of at most sixty-four bits, kept
exactly, or a finite binary64 number. The two kinds stay apart: `4` and
`4.0` are different data, though equal where conditions compare them.
-/

namespace PromptMarkup

/-- A number of the data. -/
inductive Number where
  | integer (n : Int)
  | real (x : Binary64)
  deriving DecidableEq, Repr, Inhabited

namespace Number

/-- The binary64 number nearest to a number of the data. -/
def toBinary64 : Number → Binary64
  | .integer n => .ofInt n
  | .real x => x

/-- Two numbers are the same datum: of one kind and equal. Zeros of either
sign are equal. -/
def same : Number → Number → Bool
  | .integer m, .integer n => m == n
  | .real x, .real y => x.signed == y.signed
  | _, _ => false

/-- The number is zero. -/
def isZero : Number → Bool
  | .integer n => n == 0
  | .real x => x.isZero

/-- The text of a number in data. -/
def text : Number → String
  | .integer n => toString n
  | .real x => x.text

/-- The text of a number in output, where a number without a fraction
needs no point. -/
def shown : Number → String
  | .integer n => toString n
  | .real x => x.wholeText?.getD x.text

/-- Reads a number. A numeral within sixty-four bits stays an exact
integer, signed or unsigned; everything else that denotes a finite value is
rounded to binary64. -/
def read? (s : String) : Option Number :=
  let cs := Text.trim s.toList
  match Text.int64? cs with
  | some n => some (.integer n)
  | none =>
    match Text.nat64? cs with
    | some n => some (.integer n)
    | none =>
      match Binary64.Extended.read? cs with
      | some (.finite x) => some (.real x)
      | _ => none

end Number

end PromptMarkup
