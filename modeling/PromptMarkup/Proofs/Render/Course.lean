import PromptMarkup.Render
import PromptMarkup.Proofs.Engine.Load
import PromptMarkup.Proofs.Tree.Walk
/-!
# Render — the course a node takes

Before anything inside a node is rendered, its context settles what becomes
of it (`Engine.course`): it has its text, it fails, it ends the render,
sequences of nodes are rendered for it, or another template is. A variable
is recorded as read before it takes its course. `renderNode_eq` says that
rendering a node is just that, so a statement about renders needs a case
for each course and not one for each kind of node; and `course_fits` says
what a course tells of the node that takes it. What a strategy leaves of a
node that failed is `Strategy.settle` (`recover_run`).
-/

namespace PromptMarkup

/-- What becomes of a node, before anything inside it is rendered. -/
inductive Course where
  /-- It has its text. -/
  | done (r : Rendered)
  /-- It fails, which is left to its strategy. -/
  | fails (info : NodeInfo) (tag : String) (failure : Failure)
  /-- It ends the render with a failure, whatever the strategies. -/
  | refused (failure : Failure)
  /-- Sequences of nodes are rendered one after another, each in a context of
  its own, and `finish` makes the node's text of theirs. -/
  | opens (inTurn : Bool) (parts : List (Context × List Node)) (finish : Rendered → Rendered)
  /-- Another template is rendered in its place. -/
  | includes (info : NodeInfo) (template : String) (data : Option String)

namespace Strategy

/-- What a strategy leaves of a node that failed. -/
def settle (info : NodeInfo) (failure : Failure) : Strategy → Except Failure Rendered
  | .raise => .error failure
  | .fallback => .ok (.ofText (info.fallback.getD ""))
  | .remove => .ok .nothing
  | .keepRaw => .ok (.ofText info.raw)
  | .log => .ok .nothing

/-- The journal after a strategy took its note of a failure, if it takes
any. -/
def note (place : Place) (info : NodeInfo) (tag : String) (failure : Failure) (j : Journal) :
    Strategy → Journal
  | .log =>
    { j with
      logs := j.logs.push
        ⟨place.template, tag, info.position.line, info.position.column, failure⟩ }
  | _ => j

end Strategy

/-- The evaluation that a node records before it takes its course. -/
def Node.read? (ctx : Context) : Node → Option VariableRead
  | .var info path =>
    some ⟨path, info.position.line, info.position.column, Engine.resolution ctx info path⟩
  | _ => none

/-- The context in which an included template is rendered: that of the tag,
or the data at a path alone. -/
def Context.forInclusion? (ctx : Context) : Option String → Option Context
  | none => some ctx
  | some path => (ctx.lookup? path).map fun value => { root := value }

/-- What a course tells of the node that takes it: a node that fails has an
info and a failure that is not fatal, only a turn inside another ends the
render by itself, what is opened are bodies of the node, and only inclusions
include. -/
def Course.Fits (place : Place) (ctx : Context) (node : Node) : Course → Prop
  | .done _ => True
  | .fails info _ failure => node.info? = some info ∧ failure.isFatal = false
  | .refused failure =>
    ∃ span position role body, node = .message span position role body ∧
      place.inTurn = true ∧ failure = .render .nestedMessage none (some position)
  | .opens _ parts _ => node.read? ctx = none ∧ ∀ part ∈ parts, part.2 ∈ node.bodies
  | .includes info template data => node = .inclusion info template data

namespace Engine

/-- Keeps a record of an evaluation. -/
def record : Option VariableRead → Run Unit
  | some read => modify fun journal => { journal with reads := journal.reads.push read }
  | none => pure ()

/-- The body that the conditions of a choice select. -/
def pick (ctx : Context) (fs : Functions) (otherwise : Option (List Node)) :
    List Branch → Except Failure (Option (List Node))
  | [] => .ok otherwise
  | .mk _ _ condition body :: rest =>
    match condition.holds ctx fs with
    | .ok true => .ok (some body)
    | .ok false => pick ctx fs otherwise rest
    | .error failure => .error failure

/-- The course that a node takes in a context. -/
def course (e : Engine) (place : Place) (ctx : Context) : Node → Course
  | .text _ body => .done (.ofText body)
  | .comment .. | .extending .. | .parent .. => .done .nothing
  | .var info path =>
    match resolution ctx info path with
    | .value text | .fallback text => .done (.ofText text)
    | .notFound => .fails info Tag.var (fault info (.variableNotFound path))
  | .tag info name attrs =>
    match e.resolve place ctx info name attrs with
    | .ok text => .done (.ofText text)
    | .error failure => .fails info name failure
  | .blockTag info name attrs body =>
    match e.resolve place ctx info name attrs with
    | .ok text => .opens place.inTurn [(ctx, body)] (Rendered.ofText text).append
    | .error failure => .fails info name failure
  | .choice info branches otherwise =>
    match pick ctx e.functions otherwise branches with
    | .ok (some body) => .opens place.inTurn [(ctx, body)] id
    | .ok none => .done .nothing
    | .error failure => .fails info Tag.ifTag (nodeFailure Tag.ifTag info failure)
  | .loop info head body =>
    match rounds? head.limit (ctx.lookup? head.source) with
    | .ok rounds =>
      .opens place.inTurn (rounds.map fun round => (roundContext ctx head round, body)) id
    | .error kind => .fails info Tag.forTag (fault info (.notIterable head.source kind))
  | .inclusion info template data => .includes info template data
  | .block _ _ _ body => .opens place.inTurn [(ctx, body)] id
  | .message _ position role body =>
    if place.inTurn then .refused (.render .nestedMessage none (some position))
    else .opens true [(ctx, body)] (·.asTurn role)

/-- Renders sequences of nodes one after another, each in its own context. -/
def renderParts (e : Engine) (enter : Option Renderer) (place : Place) :
    List (Context × List Node) → Run Rendered
  | [] => pure .nothing
  | (ctx, nodes) :: rest => do
    let first ← e.renderAll enter place ctx nodes
    let more ← renderParts e enter place rest
    pure (first.append more)

/-- Renders a node that takes the given course. -/
def follow (e : Engine) (enter : Option Renderer) (place : Place) (ctx : Context) :
    Course → Run Rendered
  | .done r => pure r
  | .fails info tag failure => e.recover place info tag failure
  | .refused failure => throw failure
  | .opens inTurn parts finish => finish <$> e.renderParts enter { place with inTurn } parts
  | .includes info template data => e.renderInclusion enter place ctx info template data

/-- The way to render templates that are included, when so many may still be
opened inside one another. -/
def enterAt (e : Engine) : Nat → Option Renderer
  | 0 => none
  | depth + 1 => some (e.renderAt depth)

theorem renderAt_eq (e : Engine) (depth : Nat) :
    e.renderAt depth = e.renderAll (e.enterAt depth) := by
  cases depth <;> rfl

variable {e : Engine} {enter : Option Renderer} {place : Place} {ctx : Context}

@[simp] theorem renderParts_singleton (nodes : List Node) :
    e.renderParts enter place [(ctx, nodes)] = e.renderAll enter place ctx nodes := by
  simp [renderParts]

theorem renderRounds_eq (head : LoopHead) (body : List Node) (rounds : List (Value × Value)) :
    renderRounds (fun inner => e.renderAll enter place inner body) ctx head rounds =
      e.renderParts enter place (rounds.map fun round => (roundContext ctx head round, body)) := by
  induction rounds with
  | nil => rfl
  | cons round rest ih => simp only [renderRounds, List.map_cons, renderParts, ih]

theorem renderBranches_eq (info : NodeInfo) (otherwise : Option (List Node))
    (branches : List Branch) :
    e.renderBranches enter place ctx info
        (match otherwise with
          | some body => e.renderAll enter place ctx body
          | none => pure .nothing) branches =
      match pick ctx e.functions otherwise branches with
      | .ok (some body) => e.renderAll enter place ctx body
      | .ok none => pure .nothing
      | .error failure =>
        e.recover place info Tag.ifTag (nodeFailure Tag.ifTag info failure) := by
  induction branches with
  | nil => cases otherwise <;> rfl
  | cons branch rest ih =>
    obtain ⟨position, source, condition, body⟩ := branch
    rw [renderBranches, pick]
    rcases condition.holds ctx e.functions with failure | _ | _
    · rfl
    · exact ih
    · rfl

/-- **Rendering a node is recording what it reads and following its
course.** -/
theorem renderNode_eq (node : Node) :
    e.renderNode enter place ctx node =
      (do
        record (node.read? ctx)
        e.follow enter place ctx (e.course place ctx node)) := by
  cases node with
  | var info path =>
    simp only [renderNode, renderVar, Node.read?, record, course]
    cases resolution ctx info path <;> rfl
  | tag info name attrs =>
    simp only [renderNode, Node.read?, record, course, pure_bind]
    cases e.resolve place ctx info name attrs <;> rfl
  | blockTag info name attrs body =>
    simp only [renderNode, Node.read?, record, course, pure_bind]
    cases e.resolve place ctx info name attrs <;> simp [follow]
  | choice info branches otherwise =>
    -- branches are tried by a recursion of their own, which `pick` mirrors
    have hrender : e.renderNode enter place ctx (.choice info branches otherwise) =
        e.renderBranches enter place ctx info
          (match otherwise with
            | some body => e.renderAll enter place ctx body
            | none => pure .nothing) branches := by
      cases otherwise <;> rfl
    rw [hrender, renderBranches_eq]
    simp only [Node.read?, record, course, pure_bind]
    rcases pick ctx e.functions otherwise branches with failure | _ | body <;> simp [follow]
  | loop info head body =>
    simp only [renderNode, Node.read?, record, course, pure_bind]
    cases rounds? head.limit (ctx.lookup? head.source) <;> simp [follow, renderRounds_eq]
  | message span position role body =>
    simp only [renderNode, Node.read?, record, course, pure_bind]
    split <;> simp [follow]
  | block span position name body => simp [renderNode, Node.read?, record, course, follow]
  | _ => simp [renderNode, Node.read?, record, course, follow]

/-- A choice renders to the body that is picked. -/
theorem renderNode_choice_of_pick {info : NodeInfo} {branches : List Branch}
    {otherwise chosen : Option (List Node)}
    (hpick : pick ctx e.functions otherwise branches = .ok chosen) :
    e.renderNode enter place ctx (.choice info branches otherwise) =
      chosen.elim (pure .nothing) (e.renderAll enter place ctx) := by
  rw [renderNode_eq, course, hpick]
  cases chosen <;> simp [Node.read?, record, follow]

/-! ## Failures left to a strategy -/

/-- **A failure that is not fatal is settled by the node's strategy.** -/
theorem recover_run {failure : Failure} (h : failure.isFatal = false) (place : Place)
    (info : NodeInfo) (tag : String) (j : Journal) :
    (e.recover place info tag failure).run j =
      ((e.options.strategyFor info.strategy).settle info (failure.orAt info.position),
        (e.options.strategyFor info.strategy).note place info tag (failure.orAt info.position)
          j) := by
  rw [recover, h]
  cases e.options.strategyFor info.strategy <;> rfl

/-- A fatal one is passed on. -/
theorem recover_of_isFatal {failure : Failure} (h : failure.isFatal = true) (place : Place)
    (info : NodeInfo) (tag : String) : e.recover place info tag failure = throw failure := by
  rw [recover, if_pos h]

/-! ## What courses keep to -/

/-- A failure of a resolver or a function is of a kind that is left to the
node. -/
@[simp] theorem isFatal_nodeFailure (tag : String) (info : NodeInfo) (failure : Failure) :
    (nodeFailure tag info failure).isFatal = false := by
  cases failure with
  | eval fault position => cases position <;> rfl
  | render fault cause position => cases position <;> rfl
  | _ => rfl

theorem isFatal_of_resolve {info : NodeInfo} {name : String} {attrs : Attributes}
    {failure : Failure} (h : e.resolve place ctx info name attrs = .error failure) :
    failure.isFatal = false := by
  simp only [resolve] at h
  split at h
  · cases h
    rfl
  · split at h
    · cases h
    · cases h
      exact isFatal_nodeFailure _ _ _

theorem mem_bodies_of_pick {fs : Functions} {info : NodeInfo} {branches : List Branch}
    {otherwise : Option (List Node)} {body : List Node}
    (h : pick ctx fs otherwise branches = .ok (some body)) :
    body ∈ (Node.choice info branches otherwise).bodies := by
  have hmem : body ∈ branches.map Branch.body ∨ otherwise = some body := by
    induction branches with
    | nil => exact .inr (Except.ok.inj h)
    | cons branch rest ih =>
      obtain ⟨position, source, condition, own⟩ := branch
      rw [pick] at h
      rcases hholds : condition.holds ctx fs with failure | _ | _
      · rw [hholds] at h
        cases h
      · rw [hholds] at h
        exact (ih h).imp_left (List.mem_cons_of_mem _)
      · rw [hholds] at h
        cases h
        exact .inl List.mem_cons_self
  exact Node.mem_bodies_choice.2 hmem

/-- **A course fits the node that takes it.** -/
theorem course_fits (e : Engine) (place : Place) (ctx : Context) (node : Node) :
    (e.course place ctx node).Fits place ctx node := by
  cases node with
  | var info path =>
    rw [course]
    split
    · trivial
    · trivial
    · exact ⟨rfl, rfl⟩
  | tag info name attrs =>
    rw [course]
    split
    · trivial
    · next hresolve => exact ⟨rfl, isFatal_of_resolve hresolve⟩
  | blockTag info name attrs body =>
    rw [course]
    split
    · exact ⟨rfl, List.forall_mem_singleton.2 (List.mem_singleton_self body)⟩
    · next hresolve => exact ⟨rfl, isFatal_of_resolve hresolve⟩
  | choice info branches otherwise =>
    rw [course]
    split
    · next hpick => exact ⟨rfl, List.forall_mem_singleton.2 (mem_bodies_of_pick hpick)⟩
    · trivial
    · exact ⟨rfl, isFatal_nodeFailure _ _ _⟩
  | loop info head body =>
    rw [course]
    split
    · exact ⟨rfl, List.forall_mem_map.2 fun _ _ => List.mem_singleton_self body⟩
    · exact ⟨rfl, rfl⟩
  | block span position name body =>
    exact ⟨rfl, List.forall_mem_singleton.2 (List.mem_singleton_self body)⟩
  | message span position role body =>
    rw [course]
    split
    · next hturn => exact ⟨span, position, role, body, rfl, hturn, rfl⟩
    · exact ⟨rfl, List.forall_mem_singleton.2 (List.mem_singleton_self body)⟩
  | inclusion info template data => rfl
  | _ => trivial

variable {node : Node}

theorem fits_of_course {c : Course} (h : e.course place ctx node = c) : c.Fits place ctx node :=
  h ▸ e.course_fits place ctx node

/-- **Only a turn inside another ends the render by itself.** -/
theorem course_eq_refused_iff {failure : Failure} :
    e.course place ctx node = .refused failure ↔
      ∃ span position role body, node = .message span position role body ∧
        place.inTurn = true ∧ failure = .render .nestedMessage none (some position) := by
  constructor
  · exact fits_of_course
  · rintro ⟨span, position, role, body, rfl, hturn, rfl⟩
    rw [course, if_pos hturn]

end Engine

end PromptMarkup
