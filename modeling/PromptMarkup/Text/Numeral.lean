/-!
# Text — decimal integers

Reading integers written in ASCII digits with an optional sign. The reading
is exact for numerals of any length; `nat64?`, `int64?` and `nat?` differ in
the signs and the range they admit.
-/

namespace PromptMarkup

namespace Text

/-- The value of a digit appended to a numeral. -/
def appendDigit (n : Nat) (c : Char) : Nat :=
  10 * n + (c.toNat - 48)

/-- The number a nonempty sequence of digits denotes. -/
def digits? (cs : List Char) : Option Nat :=
  if !cs.isEmpty && cs.all Char.isDigit then some (cs.foldl appendDigit 0) else none

/-- A natural number, with or without a plus sign. -/
def nat? : List Char → Option Nat
  | '+' :: cs => digits? cs
  | cs => digits? cs

/-- An integer, with or without a sign. -/
def int? : List Char → Option Int
  | '-' :: cs => (digits? cs).map fun n => -(n : Int)
  | cs => (nat? cs).map Int.ofNat

/-- A natural number below `2 ^ 64`. -/
def nat64? (cs : List Char) : Option Nat :=
  (nat? cs).filter (· < Nat.pow 2 64)

/-- An integer from `-2 ^ 63` up to but not including `2 ^ 63`. -/
def int64? (cs : List Char) : Option Int :=
  (int? cs).filter fun n => -9223372036854775808 ≤ n && n < 9223372036854775808

end Text

end PromptMarkup
