import PromptMarkup.Text.Search
/-!
# Failure — faults of a run

What can go wrong once a template is read: while a condition is evaluated,
while a tree is rendered, while a chain of parents is followed and while
something is registered. The constructors named `reported` carry a fault in
the words of an extension.
-/

namespace PromptMarkup

/-- What went wrong in the evaluation of a condition or a function. Values
appear by their kind or their description. -/
inductive EvalFault where
  | unknownFunction (name : String)
  | argumentCount (name : String) (least : Nat) (most : Option Nat) (got : Nat)
  | notNumeric (shown : String)
  | notComparable (left right : String)
  | notOrdered (left right : String)
  | notANumber
  | noLength (kind : String)
  | notJoinable (kind : String)
  | notAMap (kind : String)
  | noEnds (kind : String)
  | notANumeral (text : String)
  | notConvertible (kind : String)
  | reported (message : String)
  deriving DecidableEq, Repr

/-- The argument counts that a function takes. -/
def EvalFault.arity (least : Nat) : Option Nat → String
  | some most => if most = least then toString most else s!"{least}..={most}"
  | none => s!"at least {least}"

/-- The wording of a fault in an evaluation. -/
def EvalFault.message : EvalFault → String
  | .unknownFunction name => s!"unknown function \"{name}\""
  | .argumentCount name least most got =>
    s!"function {name} expects {arity least most} arguments, got {got}"
  | .notNumeric shown => s!"expected numeric value, got {shown}"
  | .notComparable left right => s!"cannot compare {left} with {right} numerically"
  | .notOrdered left right => s!"cannot order {left} and {right}"
  | .notANumber => "comparison with NaN"
  | .noLength kind => s!"len of {kind} is undefined"
  | .notJoinable kind => s!"join expects a list, got {kind}"
  | .notAMap kind => s!"keys expects a map, got {kind}"
  | .noEnds kind => s!"first/last expect a list or string, got {kind}"
  | .notANumeral text => s!"\"{text}\" is not a number"
  | .notConvertible kind => s!"cannot convert {kind} to a number"
  | .reported message => message

/-- What went wrong in rendering a node. -/
inductive RenderFault where
  | variableNotFound (path : String)
  | noResolver (tag : String)
  | notIterable (source kind : String)
  | includeTooDeep (limit : Nat) (template : String)
  | includeNotFound (template : String)
  | includeDataNotFound (path : String)
  | nestedMessage
  | environmentUnset (name : String)
  | configurationMissing (key : String)
  | templateNotFound (name : String)
  | invalidAttribute (name raw : String)
  | tagFailed (tag message : String)
  | reported (message : String)
  deriving DecidableEq, Repr

/-- The wording of a fault in rendering. -/
def RenderFault.message : RenderFault → String
  | .variableNotFound path => s!"variable \"{path}\" not found"
  | .noResolver tag => s!"no resolver registered for tag {tag}"
  | .notIterable source kind => s!"cannot iterate over \"{source}\": it is {kind}"
  | .includeTooDeep limit template =>
    s!"include depth exceeds the maximum of {limit} at \"{template}\""
  | .includeNotFound template => s!"included template \"{template}\" not found"
  | .includeDataNotFound path => s!"include data \"{path}\" not found"
  | .nestedMessage => "prompty.message cannot be nested"
  | .environmentUnset name => s!"environment variable \"{name}\" is not set"
  | .configurationMissing key => s!"configuration key \"{key}\" not found"
  | .templateNotFound name => s!"template \"{name}\" not found"
  | .invalidAttribute name raw => s!"attribute {name}=\"{raw}\" has an invalid value"
  | .tagFailed tag message => s!"{tag} failed: {message}"
  | .reported message => message

/-- What went wrong in following a chain of parents. -/
inductive InheritanceFault where
  | cycle (chain : List String) (parent : String)
  | tooDeep (limit : Nat)
  | unknownParent (template parent : String)
  | reported (message : String)
  deriving DecidableEq, Repr

/-- The wording of a fault in a chain of parents. -/
def InheritanceFault.message : InheritanceFault → String
  | .cycle chain parent =>
    "inheritance cycle detected: " ++ Text.join " -> " (chain ++ [parent])
  | .tooDeep limit => s!"inheritance chain exceeds the maximum depth of {limit}"
  | .unknownParent template parent =>
    s!"template \"{template}\" extends unknown template \"{parent}\""
  | .reported message => message

/-- Why something is refused where it was to be registered. -/
inductive RegistrationFault where
  | emptyDelimiter
  | equalDelimiters
  | slashInDelimiter
  | functionTaken (name : String)
  | emptyTagName
  | reservedTag (name : String)
  | resolverTaken (name : String)
  | templateTaken (name : String)
  | reported (message : String)
  deriving DecidableEq, Repr

/-- The wording of a refusal. -/
def RegistrationFault.message : RegistrationFault → String
  | .emptyDelimiter => "delimiters must not be empty"
  | .equalDelimiters => "open and close delimiters must differ"
  | .slashInDelimiter => "delimiters must not contain '/'"
  | .functionTaken name => s!"function \"{name}\" is already registered"
  | .emptyTagName => "resolver tag name must not be empty"
  | .reservedTag name => s!"tag \"{name}\" is reserved by the engine"
  | .resolverTaken name => s!"resolver for \"{name}\" is already registered"
  | .templateTaken name => s!"template \"{name}\" is already registered"
  | .reported message => message

end PromptMarkup
