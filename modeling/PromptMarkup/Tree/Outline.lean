import PromptMarkup.Text.Quoted
import PromptMarkup.Tree
/-!
# Tree — outlines

An outline shows a tree one node to a line, indented by depth, with a line
for each condition of a choice.
-/

namespace PromptMarkup

namespace Node

/-- The strategy of a node as its label shows it. -/
def strategyLabel (info : NodeInfo) : String :=
  match info.strategy with
  | some strategy => s!" onerror={strategy.name}"
  | none => ""

/-- The attributes of a tag as its label shows them. -/
def attributesLabel (attrs : Attributes) : String :=
  String.join (attrs.entries.map fun (k, v) => s!" {k}={Text.quoted v}")

/-- A node in a few words, without what it holds. -/
def label : Node → String
  | .text _ body => s!"Text({Text.quoted body})"
  | .comment _ _ => "Comment"
  | .var info path =>
    let fallback :=
      match info.fallback with
      | some value => s!" default={Text.quoted value}"
      | none => ""
    s!"Var({path})" ++ fallback ++ strategyLabel info
  | .tag info name attrs => s!"Tag({name})" ++ attributesLabel attrs ++ strategyLabel info
  | .blockTag info name attrs _ =>
    s!"BlockTag({name})" ++ attributesLabel attrs ++ strategyLabel info
  | .choice _ branches _ => s!"If({branches.length} branches)"
  | .loop _ head _ =>
    let index :=
      match head.index with
      | some name => s!", index={name}"
      | none => ""
    let limit :=
      match head.limit with
      | some n => s!", limit={n}"
      | none => ""
    s!"For({head.item} in {head.source}" ++ index ++ limit ++ ")"
  | .inclusion _ template _ => s!"Include({template})"
  | .extending _ _ template => s!"Extends({template})"
  | .block _ _ name _ => s!"Block({name})"
  | .parent _ _ => "Parent"
  | .message _ _ role _ => s!"Message({role})"

/-- A line of an outline. -/
def outlineLine (depth : Nat) (text : String) : String :=
  String.ofList (List.replicate (2 * depth) ' ') ++ text ++ "\n"

mutual

/-- The lines below a node that stands at a depth. -/
def outlineBelow (depth : Nat) : Node → String
  | .blockTag _ _ _ body | .loop _ _ body | .block _ _ _ body | .message _ _ _ body =>
    outlineAll (depth + 1) body
  | .choice _ branches none => outlineBranches (depth + 1) "if" branches
  | .choice _ branches (some body) =>
    outlineBranches (depth + 1) "if" branches ++ outlineLine (depth + 1) "else" ++
      outlineAll (depth + 2) body
  | .text .. | .comment .. | .var .. | .tag .. | .inclusion .. | .extending .. | .parent .. => ""

/-- The outline of a sequence of nodes at a depth. -/
def outlineAll (depth : Nat) : List Node → String
  | [] => ""
  | node :: rest =>
    outlineLine depth node.label ++ outlineBelow depth node ++ outlineAll depth rest

/-- The outline of branches at a depth. The first is called `word`, the
others `elseif`. -/
def outlineBranches (depth : Nat) (word : String) : List Branch → String
  | [] => ""
  | .mk _ source _ body :: rest =>
    outlineLine depth (word ++ " " ++ Text.quoted source) ++ outlineAll (depth + 1) body ++
      outlineBranches depth "elseif" rest

end

end Node

/-- The outline of a tree under its name. -/
def Tree.outline (tree : Tree) : String :=
  s!"Template {Text.quoted tree.name}\n" ++ Node.outlineAll 1 tree.nodes

end PromptMarkup
