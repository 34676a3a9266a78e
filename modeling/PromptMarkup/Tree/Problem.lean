import PromptMarkup.Issue
import PromptMarkup.Strategy
import PromptMarkup.Tag
/-!
# Tree — what can be wrong with the tags of a template

Each problem has a severity and a wording. Most make the template unusable;
a loop without a limit, a tag without a resolver and content that a parent
will not take are only remarked upon.
-/

namespace PromptMarkup

/-- The roles of a message. -/
def messageRoles : List String := ["system", "user", "assistant", "tool"]

/-- What can be wrong with a tag, or with its place among the others. -/
inductive Problem where
  | notSelfClosing (tag : String)
  | notBlock (tag : String)
  | missingAttribute (tag name : String)
  | unknownStrategy (raw : String)
  | invalidCondition (source : String) (fault : ExprFault)
  | noLimit
  | invalidLimit (raw : String)
  | secondParent
  | lateParent
  | duplicateBlock (name : String)
  | parentOutsideBlock
  | parentOfNothing
  | nestedMessage
  | unknownRole (role : String)
  | shapeMismatch (tag : String) (expected actual : TagShape)
  | refusedAttributes (failure : Failure)
  | unknownTag (tag : String)
  | branchOutsideChoice (tag : String)
  | branchAfterElse (tag : String)
  | unmatchedClosing (tag : String)
  | unclosed (tag : String)
  | ignoredContent
  deriving DecidableEq, Repr

namespace Problem

/-- How much a problem matters. -/
def severity : Problem → Severity
  | .noLimit | .unknownTag _ => .warning
  | .ignoredContent => .info
  | _ => .error

/-- The wording of a problem. -/
def message : Problem → String
  | .notSelfClosing tag => s!"{tag} must be self-closing"
  | .notBlock tag => s!"{tag} must be a block tag with a matching close"
  | .missingAttribute tag name => s!"{tag} is missing required attribute \"{name}\""
  | .unknownStrategy raw =>
    s!"invalid onerror value \"{raw}\", expected throw, default, remove, keepraw or log"
  | .invalidCondition source fault => s!"invalid expression \"{source}\": {fault.message}"
  | .noLimit => "prompty.for without a limit iterates the whole collection"
  | .invalidLimit raw => s!"invalid limit \"{raw}\""
  | .secondParent => "a template can extend only one parent"
  | .lateParent => "prompty.extends must be the first tag in the template"
  | .duplicateBlock name => s!"duplicate block \"{name}\""
  | .parentOutsideBlock => "prompty.parent must appear inside a prompty.block"
  | .parentOfNothing => "prompty.parent is only valid in a template that extends another"
  | .nestedMessage => "prompty.message cannot be nested"
  | .unknownRole role =>
    s!"invalid message role \"{role}\", expected one of " ++ Text.join ", " messageRoles
  | .shapeMismatch tag expected actual =>
    s!"{tag} is a {expected.text} tag but was written as {actual.text}"
  | .refusedAttributes failure => failure.message
  | .unknownTag tag => s!"unknown tag {tag}"
  | .branchOutsideChoice tag => s!"{tag} outside prompty.if"
  | .branchAfterElse tag => s!"{tag} after prompty.else"
  | .unmatchedClosing tag => s!"unmatched closing tag for {tag}"
  | .unclosed tag => s!"unclosed tag {tag}"
  | .ignoredContent =>
    "content outside prompty.block is ignored in a template that extends another"

/-- A problem at a place, as an issue. -/
def issue (problem : Problem) (position : Position) (tag : Option String) : Issue :=
  ⟨problem.severity, problem.message, position.line, position.column, tag⟩

end Problem

end PromptMarkup
