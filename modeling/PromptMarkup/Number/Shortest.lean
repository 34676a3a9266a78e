import PromptMarkup.Number.Binary64
/-!
# Number — the shortest decimal that reads back

The reals that round to a number form an interval around it. `shortest`
takes the coarsest decimal grid with a point inside that interval, and of
two such points the one nearer to the number. All comparisons are exact.
-/

namespace PromptMarkup

namespace Binary64

/-- A decimal `digits · 10 ^ exponent`. -/
structure Scaled where
  digits : Nat
  exponent : Int
  deriving DecidableEq, Repr, Inhabited

/-- The reals that round to a positive number, in quarters of a unit. The
ends belong to the interval when the significand is even. -/
structure Interval where
  low : Nat
  high : Nat
  closed : Bool
  deriving DecidableEq, Repr

/-- The interval of a count of units. It reaches half a spacing to either
side, and only a quarter below a power of two, where the spacing changes. -/
def interval (units : Nat) : Interval :=
  let spacing := Nat.pow 2 (excess units)
  let significand := units / spacing
  -- just below a power of two the numbers lie twice as close
  let below := if significand = Nat.pow 2 52 ∧ 1 < spacing then spacing else 2 * spacing
  ⟨4 * units - below, 4 * units + 2 * spacing, significand % 2 = 0⟩

/-- The decimal exponent of the leading digit of a positive count of units.
Four hundred places more than the point allows make the quotient positive. -/
def leadingExponent (units : Nat) : Int :=
  ((Nat.toDigits 10 (units * Nat.pow 10 400 / one)).length : Int) - 401

/-- The grid `10 ^ exponent` measured against quarters of a unit, as a
fraction: a grid point `d` is `d * num / den` quarters. -/
def gridStep (exponent : Int) : Nat × Nat :=
  if 0 ≤ exponent then (4 * one * Nat.pow 10 exponent.toNat, 1)
  else (4 * one, Nat.pow 10 (-exponent).toNat)

/-- The grid point `d` lies in the interval. -/
def Interval.holds (i : Interval) (step : Nat × Nat) (d : Nat) : Bool :=
  let point := d * step.1
  if i.closed then i.low * step.2 ≤ point && point ≤ i.high * step.2
  else i.low * step.2 < point && point < i.high * step.2

/-- The point of the grid with `count` digits that lies in the interval and
is nearest to the number; a tie goes to the even point. -/
def onGrid? (units : Nat) (top : Int) (count : Nat) : Option Scaled :=
  let exponent := top + 1 - count
  let step := gridStep exponent
  let value := 4 * units * step.2
  let d := value / step.1
  let i := interval units
  match i.holds step d, i.holds step (d + 1) with
  | false, false => none
  | true, false => some ⟨d, exponent⟩
  | false, true => some ⟨d + 1, exponent⟩
  | true, true =>
    let below := value - d * step.1
    let above := (d + 1) * step.1 - value
    some ⟨if below < above ∨ (below = above ∧ d % 2 = 0) then d else d + 1, exponent⟩

/-- The shortest decimal that reads back as a positive count of units.
Seventeen digits always suffice. -/
def shortest (units : Nat) : Scaled :=
  ((List.range' 1 17).findSome? (onGrid? units (leadingExponent units))).getD ⟨0, 0⟩

end Binary64

end PromptMarkup
