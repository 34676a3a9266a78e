import PromptMarkup.Expr
import PromptMarkup.Strategy
import PromptMarkup.Token
/-!
# Tree — the structure of a template

A template is a sequence of nodes, and the nodes that stand for block tags
hold further sequences. Every node knows the span of its source; nodes that
can fail at rendering also keep their source text and what is to be done
then (`NodeInfo`).

`Node.replace` rebuilds a sequence of nodes from below, with a free hand at
the nodes that combine templates. Inheritance is made of three replacements.
-/

namespace PromptMarkup

/-- What a node that can fail carries: where it stands, its own source, and
what to do when it fails. The source of a block tag reaches to its closing
tag. -/
structure NodeInfo where
  span : Span
  position : Position
  raw : String
  strategy : Option Strategy
  fallback : Option String
  deriving DecidableEq, Repr, Inhabited

/-- What a loop binds and what it runs over: the name of the element, the
name of its index or key, the path of the collection and the greatest number
of rounds. -/
structure LoopHead where
  item : String
  index : Option String
  source : String
  limit : Option Nat
  deriving DecidableEq, Repr, Inhabited

mutual

/-- A node of a template. -/
inductive Node where
  /-- Literal text. -/
  | text (span : Span) (body : String)
  /-- A comment, which renders to nothing. -/
  | comment (span : Span) (body : String)
  /-- The value at a path. -/
  | var (info : NodeInfo) (path : String)
  /-- A tag left to a resolver. -/
  | tag (info : NodeInfo) (name : String) (attrs : Attributes)
  /-- A block tag left to a resolver, whose text stands before the body. -/
  | blockTag (info : NodeInfo) (name : String) (attrs : Attributes) (body : List Node)
  /-- The first branch whose condition holds, or else the last body. -/
  | choice (info : NodeInfo) (branches : List Branch) (otherwise : Option (List Node))
  /-- The body once for each element of a collection. -/
  | loop (info : NodeInfo) (head : LoopHead) (body : List Node)
  /-- Another template, rendered in place, with the data at a path if one is
  given. -/
  | inclusion (info : NodeInfo) (template : String) (data : Option String)
  /-- The statement that the template fills in the blocks of another. -/
  | extending (span : Span) (position : Position) (template : String)
  /-- A region that templates further down may replace. -/
  | block (span : Span) (position : Position) (name : String) (body : List Node)
  /-- The place of what the enclosing block replaces. -/
  | parent (span : Span) (position : Position)
  /-- A turn of a conversation. -/
  | message (span : Span) (position : Position) (role : String) (body : List Node)

/-- A branch of a choice, with the source of its condition. -/
inductive Branch where
  | mk (position : Position) (source : String) (condition : Expr) (body : List Node)

end

namespace Branch

/-- Where the branch's tag stands. -/
def position : Branch → Position
  | .mk position _ _ _ => position

/-- The condition as it was written. -/
def source : Branch → String
  | .mk _ source _ _ => source

/-- The condition. -/
def condition : Branch → Expr
  | .mk _ _ condition _ => condition

/-- What the branch renders to. -/
def body : Branch → List Node
  | .mk _ _ _ body => body

end Branch

/-- A template's nodes under its name. -/
structure Tree where
  name : String
  nodes : List Node

namespace Node

/-- The span of a node. -/
def span : Node → Span
  | .text span _ | .comment span _ | .extending span _ _ | .block span _ _ _ | .parent span _
  | .message span _ _ _ => span
  | .var info _ | .tag info _ _ | .blockTag info _ _ _ | .choice info _ _ | .loop info _ _
  | .inclusion info _ _ => info.span

/-! ## Replacement -/

/-- What is put in place of the nodes that combine templates. The body of a
block is seen with the replacement already made inside it. -/
structure Replacement where
  block : Span → Position → String → List Node → List Node
  parent : Span → Position → List Node
  extending : Span → Position → String → List Node

mutual

/-- The nodes that take the place of one node. -/
def replace (r : Replacement) : Node → List Node
  | .block span position name body => r.block span position name (replaceAll r body)
  | .parent span position => r.parent span position
  | .extending span position template => r.extending span position template
  | .blockTag info name attrs body => [.blockTag info name attrs (replaceAll r body)]
  | .choice info branches none => [.choice info (replaceBranches r branches) none]
  | .choice info branches (some body) =>
    [.choice info (replaceBranches r branches) (some (replaceAll r body))]
  | .loop info head body => [.loop info head (replaceAll r body)]
  | .message span position role body => [.message span position role (replaceAll r body)]
  | .text span body => [.text span body]
  | .comment span body => [.comment span body]
  | .var info path => [.var info path]
  | .tag info name attrs => [.tag info name attrs]
  | .inclusion info template data => [.inclusion info template data]

/-- The nodes that take the place of a sequence of nodes. -/
def replaceAll (r : Replacement) : List Node → List Node
  | [] => []
  | node :: rest => replace r node ++ replaceAll r rest

/-- The branches with their bodies replaced. -/
def replaceBranches (r : Replacement) : List Branch → List Branch
  | [] => []
  | .mk position source condition body :: rest =>
    .mk position source condition (replaceAll r body) :: replaceBranches r rest

end

/-! ## Blocks -/

mutual

/-- The blocks a node defines, itself first, with their bodies. -/
def definitions : Node → List (String × List Node)
  | .block _ _ name body => (name, body) :: definitionsOfAll body
  | .blockTag _ _ _ body | .loop _ _ body | .message _ _ _ body => definitionsOfAll body
  | .choice _ branches none => definitionsOfBranches branches
  | .choice _ branches (some body) => definitionsOfBranches branches ++ definitionsOfAll body
  | .text .. | .comment .. | .var .. | .tag .. | .inclusion .. | .extending .. | .parent .. => []

/-- The blocks a sequence of nodes defines, at any depth, in document
order. -/
def definitionsOfAll : List Node → List (String × List Node)
  | [] => []
  | node :: rest => definitions node ++ definitionsOfAll rest

/-- The blocks defined in the bodies of branches. -/
def definitionsOfBranches : List Branch → List (String × List Node)
  | [] => []
  | .mk _ _ _ body :: rest => definitionsOfAll body ++ definitionsOfBranches rest

end

end Node

namespace Tree

/-- The template that a sequence of nodes extends: the first node that is
not blank text or a comment says so. -/
def parentOf? : List Node → Option String
  | .text _ body :: rest => if Text.isBlankText body then parentOf? rest else none
  | .comment _ _ :: rest => parentOf? rest
  | .extending _ _ template :: _ => some template
  | _ => none

/-- The template that a tree extends. -/
def parent? (tree : Tree) : Option String :=
  parentOf? tree.nodes

end Tree

end PromptMarkup
