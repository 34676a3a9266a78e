import PromptMarkup.Number.Shortest
/-!
# Number — how a number is written

The text of a binary64 number is its shortest decimal, laid out with a
point or with an exponent. Both layouts keep the digits; which is used
depends on the exponent of the leading digit alone.
-/

namespace PromptMarkup

namespace Binary64

/-- The layout of decimals: the exponents of the leading digit that are
written with a point. -/
structure Layout where
  least : Int
  greatest : Int

/-- Numbers from `0.00001` up to but not including `10 ^ 16` are written
with a point, the others with an exponent. -/
def layout : Layout := ⟨-5, 15⟩

/-- Digits with a point after the first `places` of them; at least one
digit stands on either side of it. -/
def withPoint (digits : List Char) (places : Int) : List Char :=
  if places ≤ 0 then
    '0' :: '.' :: (List.replicate (-places).toNat '0' ++ digits)
  else
    let n := places.toNat
    let fraction := digits.drop n
    (digits.take n).rightpad n '0' ++ '.' :: (if fraction.isEmpty then ['0'] else fraction)

/-- Digits with an exponent: a point after the first digit if more follow,
and a sign before every exponent. -/
def withExponent (digits : List Char) (exponent : Int) : List Char :=
  let mantissa :=
    match digits with
    | d :: e :: more => d :: '.' :: e :: more
    | few => few
  let sign := if exponent < 0 then '-' else '+'
  mantissa ++ 'e' :: sign :: Nat.toDigits 10 exponent.natAbs

/-- The digits of a decimal without the zeros at its end. -/
def significantDigits (n : Nat) : List Char :=
  ((Nat.toDigits 10 n).reverse.dropWhile (· = '0')).reverse

/-- The text of a positive count of units. -/
def magnitudeText (units : Nat) : List Char :=
  let d := shortest units
  let exponent := d.exponent + (Nat.toDigits 10 d.digits).length - 1
  let digits := significantDigits d.digits
  if layout.least ≤ exponent ∧ exponent ≤ layout.greatest then withPoint digits (exponent + 1)
  else withExponent digits exponent

/-- The text of a number. Zero keeps its sign. -/
def text (x : Binary64) : String :=
  let magnitude := if x.isZero then ['0', '.', '0'] else magnitudeText x.units
  String.ofList (if x.negative then '-' :: magnitude else magnitude)

/-- The text of a number without a fraction and below `10 ^ 15`, which
needs no point. -/
def wholeText? (x : Binary64) : Option String :=
  (x.whole?.filter (· < Nat.pow 10 15)).map fun n =>
    String.ofList (if x.negative then '-' :: Nat.toDigits 10 n else Nat.toDigits 10 n)

/-- The text of a value of the format. -/
def Extended.text : Extended → String
  | .finite x => x.text
  | .infinite negative => if negative then "-inf" else "inf"
  | .nan => "nan"

end Binary64

end PromptMarkup
