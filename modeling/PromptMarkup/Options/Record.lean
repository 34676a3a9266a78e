import PromptMarkup.Options
import PromptMarkup.Value
/-!
# Options — settings written as data

Settings may come with the data of a document. A record names the settings
it changes and a list gives them in order; the ones left out are as usual,
and fields of other names are ignored. Anything ill-formed makes the whole
unusable.
-/

namespace PromptMarkup

namespace Options

/-- A strategy: its name, or a record with nothing but an empty field of
this name. -/
def strategyOfValue? : Value → Option Strategy
  | .text name => Strategy.ofName? name
  | .record [(name, .null)] => Strategy.ofName? name
  | _ => none

/-- A pair of delimiters, complete. They are not checked here. -/
def delimitersOfValue? : Value → Option Delimiters
  | .record fields =>
    match Keyed.find? fields "open", Keyed.find? fields "close" with
    | some (.text opening), some (.text closing) => some ⟨opening, closing⟩
    | _, _ => none
  | .list [.text opening, .text closing] => some ⟨opening, closing⟩
  | _ => none

/-- A natural number of at most sixty-four bits. -/
def depthOfValue? : Value → Option Nat
  | .number (.integer n) => if 0 ≤ n ∧ n.toNat < Nat.pow 2 64 then some n.toNat else none
  | _ => none

/-- The settings whose values are given, the others as usual. -/
def ofFields? (strategy delimiters depth : Option Value) : Option Options := do
  let strategy ←
    match strategy with
    | none | some .null => some none
    | some v => (strategyOfValue? v).map some
  let delimiters ←
    match delimiters with
    | none => some Delimiters.standard
    | some v => delimitersOfValue? v
  let maxDepth ←
    match depth with
    | none => some 10
    | some v => depthOfValue? v
  some { strategy, delimiters, maxDepth }

/-- The settings that a value of the data denotes. -/
def ofValue? : Value → Option Options
  | .record fields =>
    ofFields? (Keyed.find? fields "error_strategy") (Keyed.find? fields "delimiters")
      (Keyed.find? fields "max_depth")
  | .list items =>
    if items.length ≤ 3 then ofFields? items[0]? items[1]? items[2]? else none
  | _ => none

end Options

end PromptMarkup
