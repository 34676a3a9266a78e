import PromptMarkup.Source
/-!
# Issue — what is found in a template

An issue is one remark about a template source, made while its tree is
built. Only issues of severity `error` make the source unusable.
-/

namespace PromptMarkup

/-- How much an issue matters. -/
inductive Severity where
  | error
  | warning
  | info
  deriving DecidableEq, Repr

/-- The name of a severity. -/
def Severity.text : Severity → String
  | .error => "error"
  | .warning => "warning"
  | .info => "info"

/-- A remark about a place of a template, with the tag it concerns. -/
structure Issue where
  severity : Severity
  message : String
  line : Nat
  column : Nat
  tag : Option String
  deriving DecidableEq, Repr

namespace Issue

/-- The issue makes a source unusable. -/
def isError (issue : Issue) : Bool :=
  issue.severity == .error

/-- An issue in words: its place, its message and its tag. -/
def text (issue : Issue) : String :=
  let place := s!"{issue.line}:{issue.column}: {issue.message}"
  match issue.tag with
  | some tag => s!"{place} [{tag}]"
  | none => place

/-- Several issues in one line: the first error, and how many more there
are. -/
def summary (issues : List Issue) : String :=
  match issues.filter isError with
  | [] => "no errors reported"
  | [first] => first.text
  | first :: more => s!"{first.text} (and {more.length} more)"

end Issue

end PromptMarkup
