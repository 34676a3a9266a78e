import PromptMarkup.Engine
import PromptMarkup.Expr.Eval
/-!
# Render — from nodes to text

Rendering walks the nodes of a template in order. A node that fails is left
to its strategy (`recover`); only faults of templates themselves and a turn
inside another turn end the render at once. The text of a sequence of nodes
is the text of the nodes one after another (`Rendered.append`), and the
turns of a conversation are recorded as stretches of it.

Rendering a sequence of nodes goes by recursion on the nodes, given a way to
render the templates they include; that way is the same rendering with one
level less to go (`renderAt`). So a render ends however templates include
one another.
-/

namespace PromptMarkup

/-- A turn of a conversation, as a stretch of the rendered text in bytes. -/
structure Segment where
  role : String
  start : Nat
  stop : Nat
  deriving DecidableEq, Repr

/-- Rendered text and the turns in it. -/
structure Rendered where
  text : String
  segments : List Segment
  deriving DecidableEq, Repr

namespace Rendered

/-- Nothing rendered. -/
def nothing : Rendered := ⟨"", []⟩

/-- Text without a turn in it. -/
def ofText (text : String) : Rendered := ⟨text, []⟩

/-- A segment that stands `n` bytes further on. -/
def shift (n : Nat) (s : Segment) : Segment :=
  { s with start := n + s.start, stop := n + s.stop }

/-- One rendered text after another. -/
def append (a b : Rendered) : Rendered :=
  ⟨a.text ++ b.text, a.segments ++ b.segments.map (shift a.text.utf8ByteSize)⟩

/-- The rendered text as one turn, after the turns inside it. -/
def asTurn (r : Rendered) (role : String) : Rendered :=
  ⟨r.text, r.segments ++ [⟨role, 0, r.text.utf8ByteSize⟩]⟩

/-! Rendered texts form a monoid. -/

@[simp] theorem nothing_append (a : Rendered) : nothing.append a = a := by
  have h : shift 0 = id := by
    funext s
    simp [shift]
  simp [append, nothing, h]

@[simp] theorem append_nothing (a : Rendered) : a.append nothing = a := by
  simp [append, nothing]

theorem append_assoc (a b c : Rendered) :
    (a.append b).append c = a.append (b.append c) := by
  have h (m n : Nat) (s : Segment) : shift m (shift n s) = shift (m + n) s := by
    simp only [shift, Segment.mk.injEq, true_and]
    omega
  simp [append, String.append_assoc, String.utf8ByteSize_append, Function.comp_def, h]

end Rendered

/-- Where the walk stands: the template whose nodes are rendered, its
configuration, and whether they are part of a turn. -/
structure Place where
  template : String
  config : Option Value
  inTurn : Bool

/-- The place of a template's nodes, inside a turn if the tag that brings
them is. -/
def Template.place (t : Template) (inTurn : Bool) : Place :=
  ⟨t.name, t.config, inTurn⟩

/-- A way to render nodes at a place and in a context. -/
abbrev Renderer := Place → Context → List Node → Run Rendered

namespace Engine

/-! ## Failures of nodes -/

/-- Records that a failure was only logged. -/
def logged (place : Place) (tag : String) (info : NodeInfo) (failure : Failure) : Run Unit :=
  modify fun journal =>
    { journal with
      logs := journal.logs.push
        ⟨place.template, tag, info.position.line, info.position.column, failure⟩ }

/-- Leaves a failure to the strategy of the node that failed. -/
def recover (e : Engine) (place : Place) (info : NodeInfo) (tag : String)
    (failure : Failure) : Run Rendered :=
  if failure.isFatal then throw failure
  else
    let failure := failure.orAt info.position
    match e.options.strategyFor info.strategy with
    | .raise => throw failure
    | .fallback => pure (.ofText (info.fallback.getD ""))
    | .remove => pure .nothing
    | .keepRaw => pure (.ofText info.raw)
    | .log => do
      logged place tag info failure
      pure .nothing

/-- A failure of a resolver or a function as a failure of the node: placed,
and of a kind that is left to the node's strategy. -/
def nodeFailure (tag : String) (info : NodeInfo) : Failure → Failure
  | .eval fault position => (Failure.eval fault position).orAt info.position
  | .render fault cause position => (Failure.render fault cause position).orAt info.position
  | failure =>
    .render (.tagFailed tag failure.message) (some failure.text) (some info.position)

/-- A fault of a node in rendering. -/
def fault (info : NodeInfo) (fault : RenderFault) : Failure :=
  .render fault none (some info.position)

/-! ## Single nodes -/

/-- What a variable is replaced by. -/
def resolution (ctx : Context) (info : NodeInfo) (path : String) : Resolution :=
  match ctx.lookup? path, info.fallback with
  | some value, _ => .value value.shown
  | none, some text => .fallback text
  | none, none => .notFound

/-- Renders a variable and records what it was replaced by. -/
def renderVar (e : Engine) (place : Place) (ctx : Context) (info : NodeInfo) (path : String) :
    Run Rendered := do
  let found := resolution ctx info path
  modify fun journal =>
    { journal with
      reads := journal.reads.push ⟨path, info.position.line, info.position.column, found⟩ }
  match found with
  | .value text | .fallback text => pure (.ofText text)
  | .notFound => e.recover place info Tag.var (fault info (.variableNotFound path))

/-- The text a resolver gives for a tag. -/
def resolve (e : Engine) (place : Place) (ctx : Context) (info : NodeInfo) (name : String)
    (attrs : Attributes) : Except Failure String :=
  match e.resolvers.find? name with
  | none => .error (fault info (.noResolver name))
  | some r =>
    match r.resolve ctx ⟨place.template, place.config, e.functions, e.environment⟩ attrs with
    | .ok text => .ok text
    | .error failure => .error (nodeFailure name info failure)

/-- The rounds of a loop: in each the index or key, and the element. -/
def rounds? (limit : Option Nat) : Option Value → Except String (List (Value × Value))
  | none | some .null => .ok []
  | some (.list items) =>
    let taken := match limit with
      | some n => items.take n
      | none => items
    .ok (taken.zipIdx.map fun (item, i) => (.ofNat i, item))
  | some (.record fields) =>
    let taken := match limit with
      | some n => fields.take n
      | none => fields
    .ok (taken.map fun (key, item) => (.text key, item))
  | some value => .error value.kindText

/-- The context of one round: a new scope with the element and, if the loop
names it, the index or key. -/
def roundContext (ctx : Context) (head : LoopHead) (round : Value × Value) : Context :=
  let inner := ctx.push.bind head.item round.2
  match head.index with
  | some name => inner.bind name round.1
  | none => inner

/-- Renders the rounds of a loop one after another. -/
def renderRounds (body : Context → Run Rendered) (ctx : Context) (head : LoopHead) :
    List (Value × Value) → Run Rendered
  | [] => pure .nothing
  | round :: rest => do
    let first ← body (roundContext ctx head round)
    let more ← renderRounds body ctx head rest
    pure (first.append more)

/-- Renders an included template, in the context of its tag or with the data
at a path. Without a way to render it the greatest depth is reached. -/
def renderInclusion (e : Engine) (enter : Option Renderer) (place : Place) (ctx : Context)
    (info : NodeInfo) (template : String) (data : Option String) : Run Rendered := do
  match enter with
  | none =>
    -- the limit counts before the template is even looked up
    e.recover place info Tag.includeTag
      (fault info (.includeTooDeep e.options.maxDepth template))
  | some enter =>
    match ← e.load template with
    | none => e.recover place info Tag.includeTag (fault info (.includeNotFound template))
    | some t =>
      let nodes ← e.effective t
      match data with
      | none => enter (t.place place.inTurn) ctx nodes
      | some path =>
        match ctx.lookup? path with
        | some value => enter (t.place place.inTurn) { root := value } nodes
        | none =>
          e.recover place info Tag.includeTag (fault info (.includeDataNotFound path))

/-! ## Sequences of nodes -/

mutual

/-- Renders a node. -/
def renderNode (e : Engine) (enter : Option Renderer) (place : Place) (ctx : Context) :
    Node → Run Rendered
  | .text _ body => pure (.ofText body)
  | .comment .. | .extending .. | .parent .. => pure .nothing
  | .var info path => e.renderVar place ctx info path
  | .tag info name attrs =>
    match e.resolve place ctx info name attrs with
    | .ok text => pure (.ofText text)
    | .error failure => e.recover place info name failure
  | .blockTag info name attrs body =>
    match e.resolve place ctx info name attrs with
    | .ok text => do
      let rest ← renderAll e enter place ctx body
      pure ((Rendered.ofText text).append rest)
    | .error failure => e.recover place info name failure
  | .choice info branches none =>
    renderBranches e enter place ctx info (pure .nothing) branches
  | .choice info branches (some body) =>
    renderBranches e enter place ctx info (renderAll e enter place ctx body) branches
  | .loop info head body =>
    match rounds? head.limit (ctx.lookup? head.source) with
    | .ok rounds =>
      renderRounds (fun inner => renderAll e enter place inner body) ctx head rounds
    | .error kind =>
      e.recover place info Tag.forTag (fault info (.notIterable head.source kind))
  | .inclusion info template data => e.renderInclusion enter place ctx info template data
  | .block _ _ _ body => renderAll e enter place ctx body
  | .message _ position role body =>
    if place.inTurn then throw (.render .nestedMessage none (some position))
    else do
      let inner ← renderAll e enter { place with inTurn := true } ctx body
      pure (inner.asTurn role)

/-- Renders nodes one after another. -/
def renderAll (e : Engine) (enter : Option Renderer) (place : Place) (ctx : Context) :
    List Node → Run Rendered
  | [] => pure .nothing
  | node :: rest => do
    let first ← renderNode e enter place ctx node
    let more ← renderAll e enter place ctx rest
    pure (first.append more)

/-- Renders the first branch whose condition holds, or else `otherwise`. A
condition that fails is a failure of the choice. -/
def renderBranches (e : Engine) (enter : Option Renderer) (place : Place) (ctx : Context)
    (info : NodeInfo) (otherwise : Run Rendered) : List Branch → Run Rendered
  | [] => otherwise
  | .mk _ _ condition body :: rest =>
    match condition.holds ctx e.functions with
    | .ok true => renderAll e enter place ctx body
    | .ok false => renderBranches e enter place ctx info otherwise rest
    | .error failure =>
      e.recover place info Tag.ifTag (nodeFailure Tag.ifTag info failure)

end

/-- Renders nodes in which templates may be included to the given depth. -/
def renderAt (e : Engine) : Nat → Renderer
  | 0 => e.renderAll none
  | depth + 1 => e.renderAll (some (e.renderAt depth))

/-! ## Calls -/

/-- Renders a template against data. -/
def render (e : Engine) (t : Template) (data : Value) : Run Rendered := do
  let nodes ← e.effective t
  e.renderAt e.options.maxDepth (t.place false) { root := data } nodes

/-- The text of a template rendered against data. -/
def execute (e : Engine) (t : Template) (data : Value) : Run String :=
  Rendered.text <$> e.render t data

/-- The text of a source rendered against data. -/
def executeSource (e : Engine) (source : String) (data : Value) : Run String := do
  let t ← liftM (e.parse "inline" source)
  e.execute t data

/-- The text of a named template rendered against data. -/
def executeNamed (e : Engine) (name : String) (data : Value) : Run String := do
  match ← e.load name with
  | some t => e.execute t data
  | none => throw (.render (.templateNotFound name) none none)

end Engine

/-- A turn of a conversation. -/
structure Message where
  role : String
  content : String
  deriving DecidableEq, Repr

namespace Rendered

/-- The conversation in a rendered text: its turns without white space
around them. A text without turns is one turn of the user, or none if it is
blank. -/
def messages (r : Rendered) : List Message :=
  if r.segments.isEmpty then
    if Text.isBlankText r.text then [] else [⟨"user", Text.trimmed r.text⟩]
  else
    let chars := r.text.toList
    r.segments.map fun s =>
      ⟨s.role, Text.trimmed (Span.slice ⟨s.start, s.stop⟩ chars)⟩

end Rendered

/-- The conversation that a template renders to. -/
def Engine.messages (e : Engine) (t : Template) (data : Value) : Run (List Message) :=
  Rendered.messages <$> e.render t data

end PromptMarkup
