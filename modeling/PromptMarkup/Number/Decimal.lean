import PromptMarkup.Number.Binary64
import PromptMarkup.Text.Numeral
/-!
# Number — reading decimals

A decimal is an optional sign, digits with an optional point among them,
and an optional exponent; `inf`, `infinity` and `nan` in any case stand for
the values that have no digits. A decimal of any length denotes the value
nearest to it, except that the digits of an exponent count only until they
reach `2 ^ 16`: it takes as many digits around the point to notice.
Magnitudes far outside the format are settled by their leading digit's place
alone, without computing the power of ten.
-/

namespace PromptMarkup

namespace Binary64

/-- An unsigned decimal: the digits without the point, and the power of ten
that the last of them stands for. -/
structure Decimal where
  digits : List Char
  exponent : Int
  deriving DecidableEq, Repr

namespace Decimal

/-- An exponent with one more digit. One that has reached `2 ^ 16` stays as
it is. -/
def appendExponentDigit (e : Nat) (c : Char) : Nat :=
  if e < 65536 then Text.appendDigit e c else e

/-- The exponent that a nonempty sequence of digits stands for. -/
def exponentDigits? (cs : List Char) : Option Nat :=
  if !cs.isEmpty && cs.all Char.isDigit then some (cs.foldl appendExponentDigit 0) else none

/-- An exponent, with or without a sign. -/
def signedExponent? : List Char → Option Int
  | '-' :: cs => (exponentDigits? cs).map fun e => -(e : Int)
  | '+' :: cs => (exponentDigits? cs).map Int.ofNat
  | cs => (exponentDigits? cs).map Int.ofNat

/-- The exponent part of a decimal, which may be missing. -/
def exponent? : List Char → Option Int
  | [] => some 0
  | c :: cs => if c = 'e' ∨ c = 'E' then signedExponent? cs else none

/-- An unsigned decimal. At least one digit stands before or after the
point. -/
def read? (cs : List Char) : Option Decimal :=
  let whole := cs.takeWhile Char.isDigit
  let (fraction, rest) :=
    match cs.dropWhile Char.isDigit with
    | '.' :: more => (more.takeWhile Char.isDigit, more.dropWhile Char.isDigit)
    | rest => ([], rest)
  if whole.isEmpty && fraction.isEmpty then none
  else (exponent? rest).map fun e => ⟨whole ++ fraction, e - fraction.length⟩

/-- The value nearest to a decimal. Above `10 ^ 310` all is infinite and
below `10 ^ -330` all is zero. -/
def value (negative : Bool) (d : Decimal) : Extended :=
  let digits := d.digits.dropWhile (· = '0')
  let n := digits.foldl Text.appendDigit 0
  let top := d.exponent + digits.length
  if digits.isEmpty || top < -330 then .finite ⟨negative, 0⟩
  else if 310 < top then .infinite negative
  else if 0 ≤ d.exponent then ofRatio negative (n * Nat.pow 10 d.exponent.toNat) 1
  else ofRatio negative n (Nat.pow 10 (-d.exponent).toNat)

end Decimal

namespace Extended

/-- The value an unsigned text denotes. -/
def readUnsigned? (negative : Bool) (cs : List Char) : Option Extended :=
  match Decimal.read? cs with
  | some d => some (d.value negative)
  | none =>
    let word := String.ofList (cs.map Char.toLower)
    if word = "inf" ∨ word = "infinity" then some (.infinite negative)
    else if word = "nan" then some .nan
    else none

/-- The value a text denotes. -/
def read? : List Char → Option Extended
  | '-' :: cs => readUnsigned? true cs
  | '+' :: cs => readUnsigned? false cs
  | cs => readUnsigned? false cs

end Extended

end Binary64

end PromptMarkup
