import PromptMarkup.Expr.Grammar
import PromptMarkup.Resolver
import PromptMarkup.Tree
import PromptMarkup.Tree.Problem
/-!
# Tree — building a tree from tokens

The tokens of a source are taken one after another (`Builder.accept`). Open
block tags wait on a stack of frames and collect the nodes read meanwhile;
a closing tag turns its frame into a node. A problem never stops the
building: the offending tag is dropped, an open frame is closed where its
parent ends, a condition that cannot be read becomes a false one, and the
rest of the source is read as before, so one pass finds every problem.
-/

namespace PromptMarkup

/-- A branch whose body is still being collected. -/
structure OpenBranch where
  position : Position
  source : String
  condition : Expr

/-- What an open block tag will become. -/
inductive FrameKind where
  /-- A choice; without a current branch its last body is being collected. -/
  | choice (info : NodeInfo) (done : List Branch) (current : Option OpenBranch)
  | loop (info : NodeInfo) (head : LoopHead)
  | block (name : String)
  | message (role : String)
  | tag (info : NodeInfo) (attrs : Attributes)
  /-- A broken tag, whose content is read and dropped. -/
  | discard

/-- An open block tag and the nodes collected in it. -/
structure Frame where
  tag : String
  start : Nat
  position : Position
  kind : FrameKind
  children : Array Node

/-- A tree under construction. The innermost open tag comes first on the
stack. -/
structure Builder where
  source : List Char
  resolvers : Resolvers
  root : Array Node := #[]
  stack : List Frame := []
  issues : Array Issue := #[]
  /-- The template extends another. -/
  extended : Bool := false
  /-- Something other than blanks stands outside all tags. -/
  rootFilled : Bool := false
  /-- The first content that a parent will not take. -/
  ignored : Option Position := none
  blockNames : List String := []

/-- What an opening tag adds to the tree. -/
inductive Opening where
  | node (node : Node)
  | frame (kind : FrameKind)
  | nothing

namespace FrameKind

/-- The frame of a region that templates may replace. -/
def isBlock : FrameKind → Bool
  | .block _ => true
  | _ => false

/-- The frame of a turn of a conversation. -/
def isMessage : FrameKind → Bool
  | .message _ => true
  | _ => false

/-- The frame of a choice. -/
def isChoice : FrameKind → Bool
  | .choice .. => true
  | _ => false

end FrameKind

/-- The info of a node whose source now reaches over a whole span. -/
def NodeInfo.spanning (info : NodeInfo) (source : List Char) (span : Span) : NodeInfo :=
  { info with span := span, raw := span.slice source }

/-- The node that a closed frame becomes. -/
def Frame.node? (frame : Frame) (source : List Char) (span : Span) : Option Node :=
  let body := frame.children.toList
  match frame.kind with
  | .choice info done (some current) =>
    let last := .mk current.position current.source current.condition body
    some (.choice (info.spanning source span) (done ++ [last]) none)
  | .choice info done none => some (.choice (info.spanning source span) done (some body))
  | .loop info head => some (.loop (info.spanning source span) head body)
  | .block name => some (.block span frame.position name body)
  | .message role => some (.message span frame.position role body)
  | .tag info attrs => some (.blockTag (info.spanning source span) frame.tag attrs body)
  | .discard => none

namespace Builder

/-- Adds the issues of problems at one tag. -/
def report (b : Builder) (problems : List Problem) (position : Position) (tag : String) :
    Builder :=
  { b with issues := b.issues ++ (problems.map (·.issue position (some tag))).toArray }

/-! ## Nodes and frames -/

/-- The node may stand outside all tags without being content. -/
def isFiller : Node → Bool
  | .text _ body => Text.isBlankText body
  | .comment .. | .extending .. => true
  | _ => false

/-- Adds a node to the innermost open tag, or to the template itself. -/
def addNode (b : Builder) (node : Node) (position : Position) : Builder :=
  match b.stack with
  | frame :: outer =>
    { b with stack := { frame with children := frame.children.push node } :: outer }
  | [] =>
    let isBlock := match node with
      | .block .. => true
      | _ => false
    let filled := !isFiller node
    { b with
      root := b.root.push node
      rootFilled := b.rootFilled || filled
      ignored :=
        if filled && b.extended && !isBlock then b.ignored.or (some position) else b.ignored }

/-- Opens a frame. -/
def pushFrame (b : Builder) (tag : String) (span : Span) (position : Position)
    (kind : FrameKind) : Builder :=
  { b with stack := ⟨tag, span.start, position, kind, #[]⟩ :: b.stack }

/-- Closes the innermost frame at a byte of the source. -/
def closeFrame (b : Builder) (stop : Nat) : Builder :=
  match b.stack with
  | [] => b
  | frame :: outer =>
    let b := { b with stack := outer }
    match frame.node? b.source ⟨frame.start, stop⟩ with
    | some node => b.addNode node frame.position
    | none => b

/-- Closes the innermost frame for want of its closing tag. -/
def abandonFrame (b : Builder) (stop : Nat) : Builder :=
  match b.stack with
  | [] => b
  | frame :: _ => (b.report [.unclosed frame.tag] frame.position frame.tag).closeFrame stop

/-- Closes the innermost frames, so many of them, for want of closing tags. -/
def abandon (b : Builder) (stop : Nat) : Nat → Builder
  | 0 => b
  | n + 1 => (b.abandonFrame stop).abandon stop n

/-! ## Attributes -/

/-- The strategy a tag names. -/
def strategyOf (attrs : Attributes) : Option Strategy × List Problem :=
  match attrs.get? "onerror" with
  | none => (none, [])
  | some raw =>
    match Strategy.read raw with
    | .ok strategy => (some strategy, [])
    | .error _ => (none, [.unknownStrategy raw])

/-- The info of a node whose tag has the given attributes. -/
def infoOf (b : Builder) (attrs : Attributes) (span : Span) (position : Position) :
    NodeInfo × List Problem :=
  let (strategy, problems) := strategyOf attrs
  (⟨span, position, span.slice b.source, strategy, attrs.get? "default"⟩, problems)

/-- The problem of a required attribute that is missing or blank. -/
def missing (attrs : Attributes) (tag name : String) : List Problem :=
  if (attrs.filled? name).isSome then [] else [.missingAttribute tag name]

/-- The condition that stands in place of one that cannot be read. -/
def never : Expr := .literal (.boolean false)

/-- The branch that a tag with a condition opens. -/
def branchOf (tag : String) (attrs : Attributes) (position : Position) :
    OpenBranch × List Problem :=
  match attrs.filled? "eval" with
  | none => (⟨position, "", never⟩, missing attrs tag "eval")
  | some source =>
    match Expr.parse source with
    | .ok condition => (⟨position, source, condition⟩, [])
    | .error fault => (⟨position, source, never⟩, [.invalidCondition source fault])

/-- The limit of a loop. -/
def limitOf (attrs : Attributes) : Option Nat × List Problem :=
  match attrs.get? "limit" with
  | none => (none, [.noLimit])
  | some raw =>
    match Text.nat64? (Text.trim raw.toList) with
    | some n => (some n, [])
    | none => (none, [.invalidLimit raw])

/-! ## Opening tags -/

/-- A tag written in the wrong shape. Written as a block its content is
dropped with it. -/
def misshapen (tag : String) (expected : TagShape) : Opening × List Problem :=
  match expected with
  | .selfClosing => (.frame .discard, [.notSelfClosing tag])
  | .block => (.nothing, [.notBlock tag])

/-- Opens a variable. -/
def openVar (b : Builder) (attrs : Attributes) (span : Span) (position : Position) :
    Opening × List Problem :=
  let (info, problems) := b.infoOf attrs span position
  match attrs.filled? "name" with
  | some path => (.node (.var info path), problems)
  | none => (.nothing, problems ++ missing attrs Tag.var "name")

/-- Opens a choice with its first branch. -/
def openChoice (b : Builder) (attrs : Attributes) (span : Span) (position : Position) :
    Opening × List Problem :=
  let (info, problems) := b.infoOf attrs span position
  let (branch, more) := branchOf Tag.ifTag attrs position
  (.frame (.choice info [] (some branch)), problems ++ more)

/-- Opens a loop. -/
def openLoop (b : Builder) (attrs : Attributes) (span : Span) (position : Position) :
    Opening × List Problem :=
  let (info, problems) := b.infoOf attrs span position
  let (limit, more) := limitOf attrs
  let problems :=
    problems ++ missing attrs Tag.forTag "item" ++ missing attrs Tag.forTag "in" ++ more
  match attrs.filled? "item", attrs.filled? "in" with
  | some item, some source =>
    (.frame (.loop info ⟨item, attrs.get? "index", source, limit⟩), problems)
  | _, _ => (.frame .discard, problems)

/-- Opens an inclusion. -/
def openInclusion (b : Builder) (attrs : Attributes) (span : Span) (position : Position) :
    Opening × List Problem :=
  let (info, problems) := b.infoOf attrs span position
  match attrs.filled? "template" with
  | some template => (.node (.inclusion info template (attrs.get? "with")), problems)
  | none => (.nothing, problems ++ missing attrs Tag.includeTag "template")

/-- Opens a region that templates may replace. -/
def openBlock (b : Builder) (attrs : Attributes) : Opening × List Problem :=
  let problems := (strategyOf attrs).2
  match attrs.filled? "name" with
  | some name =>
    if b.blockNames.contains name then (.frame .discard, problems ++ [.duplicateBlock name])
    else (.frame (.block name), problems)
  | none => (.frame .discard, problems ++ missing attrs Tag.block "name")

/-- Opens the place of what a block replaces. -/
def openParent (b : Builder) (span : Span) (position : Position) : Opening × List Problem :=
  if !b.stack.any (·.kind.isBlock) then (.nothing, [.parentOutsideBlock])
  else if !b.extended then (.nothing, [.parentOfNothing])
  else (.node (.parent span position), [])

/-- Opens a turn of a conversation. -/
def openMessage (b : Builder) (attrs : Attributes) : Opening × List Problem :=
  let nested := if b.stack.any (·.kind.isMessage) then [Problem.nestedMessage] else []
  let problems := (strategyOf attrs).2 ++ nested
  match attrs.filled? "role" with
  | some role =>
    if messageRoles.contains role then (.frame (.message role), problems)
    else (.frame .discard, problems ++ [.unknownRole role])
  | none => (.frame .discard, problems ++ missing attrs Tag.message "role")

/-- The problems a resolver has with a tag. -/
def resolverProblems (b : Builder) (shape : TagShape) (tag : String) (attrs : Attributes) :
    List Problem :=
  match b.resolvers.find? tag with
  | none => [.unknownTag tag]
  | some r =>
    (if r.shape = shape then [] else [.shapeMismatch tag r.shape shape]) ++
      match r.validate attrs with
      | .ok _ => []
      | .error failure => [.refusedAttributes failure]

/-- Opens a tag that is left to a resolver. -/
def openOther (b : Builder) (shape : TagShape) (tag : String) (attrs : Attributes)
    (span : Span) (position : Position) : Opening × List Problem :=
  let problems := b.resolverProblems shape tag attrs
  let (info, more) := b.infoOf attrs span position
  match shape with
  | .selfClosing => (.node (.tag info tag attrs), problems ++ more)
  | .block => (.frame (.tag info attrs), problems ++ more)

/-- What an opening tag adds, by its name. The tags that continue a choice
or extend a template are not among them. -/
def opening (b : Builder) (shape : TagShape) (tag : String) (attrs : Attributes)
    (span : Span) (position : Position) : Opening × List Problem :=
  let inShape (expected : TagShape) (opened : Opening × List Problem) :=
    if shape = expected then opened else misshapen tag expected
  if tag = Tag.var then inShape .selfClosing (b.openVar attrs span position)
  else if tag = Tag.ifTag then inShape .block (b.openChoice attrs span position)
  else if tag = Tag.forTag then inShape .block (b.openLoop attrs span position)
  else if tag = Tag.includeTag then
    inShape .selfClosing (b.openInclusion attrs span position)
  else if tag = Tag.block then inShape .block (b.openBlock attrs)
  else if tag = Tag.parent then inShape .selfClosing (b.openParent span position)
  else if tag = Tag.message then inShape .block (b.openMessage attrs)
  else b.openOther shape tag attrs span position

/-- Adds what an opening tag adds. -/
def addOpening (b : Builder) (tag : String) (span : Span) (position : Position) :
    Opening × List Problem → Builder
  | (.nothing, problems) => b.report problems position tag
  | (.node node, problems) => (b.report problems position tag).addNode node position
  | (.frame kind, problems) =>
    let b := (b.report problems position tag).pushFrame tag span position kind
    match kind with
    | .block name => { b with blockNames := name :: b.blockNames }
    | _ => b

/-- Takes the statement that the template extends another. It counts only
once, and before all content. -/
def extending (b : Builder) (shape : TagShape) (attrs : Attributes) (span : Span)
    (position : Position) : Builder :=
  let refuse (problem : Problem) := b.report [problem] position Tag.extendsTag
  if shape ≠ .selfClosing then
    b.addOpening Tag.extendsTag span position (misshapen Tag.extendsTag .selfClosing)
  else
    match attrs.filled? "template" with
    | none => refuse (.missingAttribute Tag.extendsTag "template")
    | some template =>
      if b.extended then refuse .secondParent
      else if !b.stack.isEmpty || b.rootFilled then refuse .lateParent
      else
        { b with extended := true, root := b.root.push (.extending span position template) }

/-! ## Branches -/

/-- Ends the current branch of a choice with the nodes collected in it, and
begins the next one or, without one, the last body. -/
def nextBranch (b : Builder) (frame : Frame) (outer : List Frame) (info : NodeInfo)
    (done : List Branch) (current : OpenBranch) (next : Option OpenBranch) : Builder :=
  let ended :=
    .mk current.position current.source current.condition frame.children.toList
  { b with
    stack := { frame with kind := .choice info (done ++ [ended]) next, children := #[] } :: outer }

/-- Takes a tag that continues a choice: the condition of a further branch,
or the beginning of the last body. -/
def branch (b : Builder) (tag : String) (attrs : Attributes) (position : Position) : Builder :=
  match b.stack with
  | frame :: outer =>
    match frame.kind with
    | .choice info done current =>
      let (next, problems) :=
        if tag = Tag.elseIfTag then
          let (branch, problems) := branchOf tag attrs position
          (some branch, problems)
        else (none, [])
      match current with
      | some current => (b.report problems position tag).nextBranch frame outer info done current next
      -- without a current branch the last body has begun
      | none => b.report (problems ++ [.branchAfterElse tag]) position tag
    | _ => b.report [.branchOutsideChoice tag] position tag
  | [] => b.report [.branchOutsideChoice tag] position tag

/-! ## Closing tags -/

/-- Takes a closing tag. It closes the innermost open tag of its name, and
with it the ones inside that still wait for theirs. The closing tag of a
branch may be written but closes nothing. -/
def close (b : Builder) (tag : String) (span : Span) (position : Position) : Builder :=
  match b.stack.findIdx? (·.tag == tag) with
  | some inside =>
    -- the tags inside are closed where this closing tag begins
    let b := if inside = 0 then b else b.report [.unmatchedClosing tag] position tag
    (b.abandon span.start inside).closeFrame span.stop
  | none =>
    let endsBranch :=
      (tag = Tag.elseTag || tag = Tag.elseIfTag) && b.stack.head?.any (·.kind.isChoice)
    if endsBranch then b else b.report [.unmatchedClosing tag] position tag

/-! ## Tokens -/

/-- Takes an opening tag. -/
def openTag (b : Builder) (shape : TagShape) (tag : String) (attrs : Attributes)
    (span : Span) (position : Position) : Builder :=
  if tag = Tag.elseIfTag ∨ tag = Tag.elseTag then b.branch tag attrs position
  else if tag = Tag.extendsTag then b.extending shape attrs span position
  else b.addOpening tag span position (b.opening shape tag attrs span position)

/-- Takes a token. -/
def accept (b : Builder) (token : Token) : Builder :=
  match token.piece with
  | .text body => b.addNode (.text token.span body) token.position
  | .comment body => b.addNode (.comment token.span body) token.position
  | .opening shape name attrs => b.openTag shape name attrs token.span token.position
  | .closing name => b.close name token.span token.position

/-- Closes what is still open at the end of the source and remarks on
content that will be ignored. -/
def finish (b : Builder) : Builder :=
  let b := b.abandon (String.ofList b.source).utf8ByteSize b.stack.length
  match b.ignored with
  | some position =>
    { b with issues := b.issues.push (Problem.ignoredContent.issue position none) }
  | none => b

end Builder

namespace Tree

/-- The tree of a source that has been cut into tokens, and everything
remarkable about it in the order it was found. -/
def build (resolvers : Resolvers) (name source : String) (tokens : List Token) :
    Tree × List Issue :=
  let b : Builder := { source := source.toList, resolvers := resolvers }
  let b := (tokens.foldl Builder.accept b).finish
  (⟨name, b.root.toList⟩, b.issues.toList)

/-- The tree of a source. -/
def parse (d : Delimiters) (resolvers : Resolvers) (name source : String) :
    Except Failure (Tree × List Issue) :=
  (Token.read d source).map (build resolvers name source)

end Tree

end PromptMarkup
