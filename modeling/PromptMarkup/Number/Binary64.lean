/-!
# Number — the binary64 format

Every finite number of the format is a whole multiple of `2 ^ -1074`, the
smallest positive one, so it is kept exactly as a sign and a count of these
units. Order and equality are those of the integers `signed`; `roundUnits`
is the rounding of a fraction to the nearest number of the format, with
ties to the even significand.
-/

namespace PromptMarkup

/-- A finite number of the binary64 format: `± units · 2 ^ -1074`. The sign
of zero is kept, and only its text depends on it. -/
structure Binary64 where
  negative : Bool
  units : Nat
  deriving DecidableEq, Repr, Inhabited

namespace Binary64

/-- The count of units in `1`. -/
def one : Nat := Nat.pow 2 1074

/-- The count of units that no finite number reaches, `2 ^ 1024` as a value. -/
def limit : Nat := Nat.pow 2 2098

/-- The number as an integer count of units. -/
def signed (x : Binary64) : Int :=
  if x.negative then -(x.units : Int) else x.units

/-- A quotient rounded to the nearest integer, a half to the even one. -/
def roundHalfEven (num den : Nat) : Nat :=
  let q := num / den
  let r := 2 * (num % den)
  if r < den then q else if den < r then q + 1 else q + q % 2

/-- How many binary places a count of units has beyond the fifty-three of a
significand. -/
def excess (units : Nat) : Nat :=
  units.log2 + 1 - 53

/-- The units of the number nearest to `num / den`, as if the format had no
largest number. -/
def roundUnits (num den : Nat) : Nat :=
  let scaled := num * one
  let spacing := Nat.pow 2 (excess (scaled / den))
  roundHalfEven scaled (den * spacing) * spacing

/-- The number nearest to an integer of at most sixty-four bits. -/
def ofInt (n : Int) : Binary64 :=
  ⟨n < 0, roundUnits n.natAbs 1⟩

/-- The number is zero, of either sign. -/
def isZero (x : Binary64) : Bool :=
  x.units == 0

/-- The magnitude of a number without a fractional part. -/
def whole? (x : Binary64) : Option Nat :=
  if x.units % one = 0 then some (x.units / one) else none

/-- A value of the format: a finite number, an infinity, or no number. -/
inductive Extended where
  | finite (x : Binary64)
  | infinite (negative : Bool)
  | nan
  deriving DecidableEq, Repr, Inhabited

/-- The number nearest to `± num / den`, or an infinity beyond the largest. -/
def ofRatio (negative : Bool) (num den : Nat) : Extended :=
  let units := roundUnits num den
  if units < limit then .finite ⟨negative, units⟩ else .infinite negative

namespace Extended

/-- Which of two values is the greater. Nothing is comparable with `nan`,
not even `nan` itself. -/
def compare? : Extended → Extended → Option Ordering
  | .nan, _ | _, .nan => none
  | .finite x, .finite y => some (compare x.signed y.signed)
  | .infinite s, .infinite t => some (compare t.toNat s.toNat)
  | .infinite s, .finite _ => some (if s then .lt else .gt)
  | .finite _, .infinite t => some (if t then .gt else .lt)

/-- The two values are equal as numbers. -/
def same (x y : Extended) : Bool :=
  compare? x y == some .eq

end Extended

end Binary64

end PromptMarkup
