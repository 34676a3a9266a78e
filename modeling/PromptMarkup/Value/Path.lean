import PromptMarkup.Text.Numeral
import PromptMarkup.Text.Search
import PromptMarkup.Value
/-!
# Value — dotted paths

A path is a string of segments separated by points. Each segment selects a
field of a record or, written as a number, an element of a list. `lookup?`
follows a path from a value; `reach` lists everywhere that field names
alone lead, and `paths` and `leaves` name these places.
-/

namespace PromptMarkup

/-- The segments of a path. -/
def Path.segments (path : String) : List String :=
  Text.split "." path

namespace Value

/-- What one segment selects. -/
def select? (v : Value) (segment : String) : Option Value :=
  match v with
  | .record fields => Keyed.find? fields segment
  | .list items => (Text.nat? segment.toList).bind fun n => items[n]?
  | _ => none

/-- What the segments select one after another. -/
def follow? (v : Value) : List String → Option Value
  | [] => some v
  | segment :: rest => (v.select? segment).bind (follow? · rest)

/-- The value at a path. The empty path leads nowhere. -/
def lookup? (v : Value) (path : String) : Option Value :=
  if path.isEmpty then none else v.follow? (Path.segments path)

/-- The value is a record with fields, so paths go on below it. -/
def isBranch : Value → Bool
  | .record fields => !fields.isEmpty
  | _ => false

mutual

/-- The places below a value that stands at `base`. -/
def reachBelow (base : String) : Value → List (String × Value)
  | .record fields => reachFields (base ++ "." ++ ·) fields
  | _ => []

/-- The fields of a record and the places below them, each field before
what is below it. `place` turns a field's name into its path. -/
def reachFields (place : String → String) : List (String × Value) → List (String × Value)
  | [] => []
  | (k, v) :: rest => (place k, v) :: reachBelow (place k) v ++ reachFields place rest

end

/-- Every place that field names lead to, with its value. -/
def reach : Value → List (String × Value)
  | .record fields => reachFields id fields
  | _ => []

/-- The paths of all fields, at any depth. -/
def paths (v : Value) : List String :=
  v.reach.map Prod.fst

/-- The paths of the fields that have no fields below them. -/
def leaves (v : Value) : List String :=
  (v.reach.filter (!·.2.isBranch)).map Prod.fst

end Value

end PromptMarkup
