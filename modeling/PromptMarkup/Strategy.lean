import PromptMarkup.Failure
import PromptMarkup.Text.Blank
/-!
# Strategy — what a failed node leaves in the output

A node that fails either ends the render or leaves a substitute. The choice
is written as a word, in any case and with white space around it.
-/

namespace PromptMarkup

/-- What happens when a node fails: the render ends with its failure, or
goes on with the node's default, with nothing, with the node's own source,
or with nothing but a log event. -/
inductive Strategy where
  | raise
  | fallback
  | remove
  | keepRaw
  | log
  deriving DecidableEq, Repr

namespace Strategy

/-- The word for a strategy. -/
def name : Strategy → String
  | .raise => "throw"
  | .fallback => "default"
  | .remove => "remove"
  | .keepRaw => "keepraw"
  | .log => "log"

/-- All strategies. -/
def all : List Strategy := [.raise, .fallback, .remove, .keepRaw, .log]

/-- The strategy of a name, written exactly. -/
def ofName? (s : String) : Option Strategy :=
  all.find? (·.name == s)

/-- The strategy a text asks for, up to case and surrounding white space. -/
def read (s : String) : Except Failure Strategy :=
  let word := String.ofList ((Text.trim s.toList).map Char.toLower)
  match ofName? word with
  | some strategy => .ok strategy
  | none => .error (.parse (.unknownStrategy word) none)

end Strategy

end PromptMarkup
