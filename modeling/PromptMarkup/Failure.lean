import PromptMarkup.Failure.Semantic
import PromptMarkup.Failure.Syntactic
import PromptMarkup.Issue
/-!
# Failure — everything that can fail

A failure is a fault of one of six kinds, with a position where one is
known. The kind decides whether it is `isFatal`: faults of a template
itself always end a render, while those of a single node are left to the
strategy of the node.
-/

namespace PromptMarkup

/-- A failed operation. A failure to render may tell of the failure that
caused it, in that failure's words. -/
inductive Failure where
  | parse (fault : ParseFault) (position : Option Position)
  | invalid (issues : List Issue)
  | eval (fault : EvalFault) (position : Option Position)
  | render (fault : RenderFault) (cause : Option String) (position : Option Position)
  | inheritance (fault : InheritanceFault)
  | registration (fault : RegistrationFault)
  deriving DecidableEq, Repr

namespace Failure

/-- The message alone, without the kind and the position. -/
def message : Failure → String
  | .parse fault _ => fault.message
  | .invalid issues => Issue.summary issues
  | .eval fault _ => fault.message
  | .render fault _ _ => fault.message
  | .inheritance fault => fault.message
  | .registration fault => fault.message

/-- The kind of a failure in words. -/
def kindText : Failure → String
  | .parse .. => "parse error"
  | .invalid _ => "template is invalid"
  | .eval .. => "evaluation error"
  | .render .. => "render error"
  | .inheritance _ => "inheritance error"
  | .registration _ => "registration error"

/-- The position a failure carries itself. -/
def ownPosition? : Failure → Option Position
  | .parse _ position | .eval _ position | .render _ _ position => position
  | .invalid _ | .inheritance _ | .registration _ => none

/-- The position of a failure; that of an invalid template is its first
issue's. -/
def position? : Failure → Option Position
  | .invalid issues => issues.head?.map fun issue => ⟨issue.line, issue.column, 0⟩
  | failure => failure.ownPosition?

/-- A failure in words: its kind, its message and the position it carries. -/
def text (failure : Failure) : String :=
  let told := s!"{failure.kindText}: {failure.message}"
  match failure.ownPosition? with
  | some p => s!"{told} at line {p.line}, column {p.column}"
  | none => told

/-- A fault of a template itself, which no strategy can absorb. -/
def isFatal : Failure → Bool
  | .parse .. | .invalid _ | .inheritance _ => true
  | .eval .. | .render .. | .registration _ => false

/-- The failure placed at `p` unless it has a position already. Only
failures of a run are placed. -/
def orAt (p : Position) : Failure → Failure
  | .eval fault none => .eval fault (some p)
  | .render fault cause none => .render fault cause (some p)
  | failure => failure

end Failure

end PromptMarkup
