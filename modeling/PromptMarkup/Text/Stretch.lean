/-!
# Text — tables of code points

A character property is a finite table, and a table is a list of stretches:
code points at an even distance from one another. `inTable` is membership
and `shifted?` the place a character moves to under a table of shifts.
-/

namespace PromptMarkup

namespace Text

/-- The code points `first`, `first + step`, … up to `last`. -/
structure Stretch where
  first : Nat
  last : Nat
  step : Nat
  deriving DecidableEq, Repr

/-- A code point lies on the stretch. -/
def Stretch.holds (s : Stretch) (n : Nat) : Bool :=
  s.first ≤ n && n ≤ s.last && (n - s.first) % s.step == 0

/-- A stretch of code points together with the distance all of them move. -/
structure Shift where
  stretch : Stretch
  distance : Int
  deriving DecidableEq, Repr

/-- A character lies on one of the stretches of a table. -/
def inTable (table : List Stretch) (c : Char) : Bool :=
  table.any (·.holds c.toNat)

/-- Where a table of shifts sends a character, if it moves it at all. -/
def shifted? (table : List Shift) (c : Char) : Option Char :=
  (table.find? (·.stretch.holds c.toNat)).map fun s =>
    Char.ofNat (Int.toNat (c.toNat + s.distance))

end Text

end PromptMarkup
