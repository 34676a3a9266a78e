import PromptMarkup.Text.Case
import PromptMarkup.Text.Distance
import PromptMarkup.Text.Search
/-!
# Suggestion — paths that were perhaps meant

For a path that leads nowhere, the paths of the data that resemble it:
either contains the other, or they are at most two edits apart, in lower
case both times.
-/

namespace PromptMarkup

namespace Suggestion

/-- The greatest number of suggestions for one path. -/
def most : Nat := 3

/-- The greatest distance of a path that resembles another. -/
def farthest : Nat := 2

/-- How far a candidate is from a path, if it resembles it. -/
def distance? (path candidate : String) : Option Nat :=
  let wanted := (Text.lower path).toList
  let offered := (Text.lower candidate).toList
  let distance := Text.distance wanted offered
  if Text.occursIn wanted offered || Text.occursIn offered wanted || distance ≤ farthest then
    some distance
  else none

/-- A nearer candidate comes first, and of two equally near ones the lesser
text. -/
def before (a b : Nat × String) : Bool :=
  a.1 < b.1 || (a.1 == b.1 && a.2 ≤ b.2)

/-- The candidates nearest to a path, itself excepted. -/
def nearest (path : String) (candidates : List String) : List String :=
  let scored := candidates.filterMap fun candidate =>
    if candidate = path then none else (distance? path candidate).map (·, candidate)
  ((scored.mergeSort before).take most).map Prod.snd

end Suggestion

end PromptMarkup
