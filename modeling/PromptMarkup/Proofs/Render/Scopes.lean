import PromptMarkup.Proofs.Render.Course
/-!
# Render — one stack of scopes, one mark of a turn

Rendering hands every node a context of its own, and tells it whether it is part
of a turn. One may as well keep both and let the walk change them (`Walk`): a
loop opens a scope for each round, binds the names of the round in it, and closes
it when the body is done (`Walk.inScope`), and a turn is marked as open while its
body is walked through (`Walk.withinTurn`), whether the body failed or not. Every
opening is met by a closing, so such a walk does what the render does where it
stands, and leaves everything behind as it found it (`Engine.walkAt_eq`), however
loops are nested and wherever the walk ends.
-/

namespace PromptMarkup

/-- How a walk stands: the context there is, and whether a turn is open. -/
structure Stance where
  ctx : Context
  inTurn : Bool

/-- Another context, and nothing else. -/
def Stance.onContext (f : Context → Context) (s : Stance) : Stance :=
  { s with ctx := f s.ctx }

/-- A turn is open from here on, or none is. -/
def Stance.marked (inTurn : Bool) (s : Stance) : Stance :=
  { s with inTurn := inTurn }

/-- The template whose nodes are walked through, and its configuration. -/
structure Page where
  template : String
  config : Option Value

/-- The place of a node on a page. -/
def Page.place (page : Page) (inTurn : Bool) : Place :=
  ⟨page.template, page.config, inTurn⟩

/-- The page of a template. -/
def Template.page (t : Template) : Page :=
  ⟨t.name, t.config⟩

/-- A run that reads and changes how it stands, besides the journal. -/
abbrev Walk (α : Type) := Tree.Effect (Stance × Journal) α

/-- A way to walk through nodes on a page. -/
abbrev Walker := Page → List Node → Walk Rendered

namespace Walk

variable {α β : Type}

/-- A run from where the walk stands, which changes nothing there. -/
def ofRun (run : Stance → Run α) : Walk α :=
  ExceptT.mk fun (s, j) =>
    let (result, j') := (run s).run j
    (result, (s, j'))

/-- Changes how the walk stands. -/
def change (f : Stance → Stance) : Walk Unit :=
  ExceptT.mk fun (s, j) => (.ok (), (f s, j))

/-- Changes it after a walk, whether the walk failed or not. -/
def thenChange (walk : Walk α) (f : Stance → Stance) : Walk α :=
  ExceptT.mk fun before =>
    let (result, (s, j)) := walk.run before
    (result, (f s, j))

/-- A walk through the body of a loop in a scope of its own, in which the names
of a round are bound. -/
def inScope (head : LoopHead) (round : Value × Value) (body : Walk α) : Walk α := do
  change (.onContext .push)
  change (.onContext (·.bind head.item round.2))
  match head.index with
  | some name => change (.onContext (·.bind name round.1))
  | none => pure ()
  thenChange body (.onContext .pop)

/-- A walk through the body of a turn, which is marked as open for as long. Where
one is open already there is a failure instead. -/
def withinTurn (nested : Failure) (body : Walk α) : Walk α := do
  if ← ofRun fun s => pure s.inTurn then throw nested
  else
    change (.marked true)
    thenChange body (.marked false)

/-- A walk in a context of its own, which has nothing but this data. The mark of
a turn is shared. -/
def inData (data : Value) (body : Walk α) : Walk α :=
  ExceptT.mk fun (s, j) =>
    let (result, (inner, j')) := body.run ({ s with ctx := { root := data } }, j)
    (result, ({ inner with ctx := s.ctx }, j'))

/-! ## Walks that leave everything as it is -/

theorem run_ofRun (run : Stance → Run α) (s : Stance) (j : Journal) :
    (ofRun run).run (s, j) = (((run s).run j).1, (s, ((run s).run j).2)) := rfl

/-- Walks are the same that do the same from everywhere. -/
theorem ext {walk walk' : Walk α} (h : ∀ s j, walk.run (s, j) = walk'.run (s, j)) :
    walk = walk' :=
  funext fun (s, j) => h s j

theorem pure_eq_ofRun (a : α) : (pure a : Walk α) = ofRun fun _ => pure a := rfl

/-- One run after another, from the same place. -/
theorem ofRun_bind {walks : α → Walk β} {next : α → Stance → Run β}
    (h : ∀ a, walks a = ofRun (next a)) (run : Stance → Run α) :
    ofRun run >>= walks = ofRun fun s => run s >>= fun a => next a s := by
  refine ext fun s j => ?_
  rw [funext h, Tree.Effect.run_bind, run_ofRun, run_ofRun, Tree.Effect.run_bind]
  rcases (run s).run j with ⟨failure | a, j'⟩ <;> rfl

/-- A run whose result is made into another. -/
theorem bind_pure_eq_ofRun {walk : Walk α} {run : Stance → Run α} (h : walk = ofRun run)
    (f : α → β) :
    (walk >>= fun a => pure (f a)) = ofRun fun s => run s >>= fun a => pure (f a) := by
  rw [h]
  exact ofRun_bind (fun a => pure_eq_ofRun (f a)) run

/-- Where the walk stands decides how it goes on. -/
theorem run_choose_bind (choose : Stance → α) (walks : α → Walk β) (s : Stance) (j : Journal) :
    (ofRun (fun s => pure (choose s)) >>= walks).run (s, j) =
      (walks (choose s)).run (s, j) := rfl

/-- Closing the scope that was opened for a round takes back all that the round
has bound. -/
theorem pop_roundContext (ctx : Context) (head : LoopHead) (round : Value × Value) :
    (Engine.roundContext ctx head round).pop = ctx := by
  rw [Engine.roundContext]
  cases head.index <;> rfl

/-- **A scope is closed on every way out.** A body that leaves everything as it
is, is run in the context of the round, and so is left what was there. -/
theorem inScope_ofRun (head : LoopHead) (round : Value × Value) (body : Stance → Run α) :
    inScope head round (ofRun body) =
      ofRun fun s => body (s.onContext (Engine.roundContext · head round)) := by
  refine ext fun s j => ?_
  generalize hinner : s.onContext (Engine.roundContext · head round) = inner
  have hopened : (inScope head round (ofRun body)).run (s, j) =
      (thenChange (ofRun body) (.onContext .pop)).run (inner, j) := by
    rw [inScope, ← hinner, Stance.onContext, Engine.roundContext]
    cases head.index <;> rfl
  have hclosed : (thenChange (ofRun body) (.onContext .pop)).run (inner, j) =
      (((body inner).run j).1, (inner.onContext .pop, ((body inner).run j).2)) := rfl
  have hleft : inner.onContext .pop = s := by
    rw [← hinner, Stance.onContext, Stance.onContext, pop_roundContext]
  rw [hopened, hclosed, hleft, run_ofRun, hinner]

/-- **The mark of a turn is taken off on every way out.** A body that leaves
everything as it is, is run inside the turn unless one is open already. -/
theorem withinTurn_ofRun (nested : Failure) (body : Stance → Run α) :
    withinTurn nested (ofRun body) =
      ofRun fun s => if s.inTurn then throw nested else body (s.marked true) := by
  refine ext fun s j => ?_
  rw [withinTurn, run_choose_bind, run_ofRun]
  obtain ⟨ctx, _ | _⟩ := s <;> rfl

end Walk

open Walk

namespace Engine

/-! ## The walk -/

/-- Walks through the rounds of a loop, one after another. -/
def walkRounds (body : Walk Rendered) (head : LoopHead) : List (Value × Value) → Walk Rendered
  | [] => pure .nothing
  | round :: rest => do
    let first ← inScope head round body
    let more ← walkRounds body head rest
    pure (first.append more)

/-- What is left to the strategy of a node, wherever the walk stands. -/
def walkRecover (e : Engine) (page : Page) (info : NodeInfo) (tag : String) (failure : Failure) :
    Walk Rendered :=
  ofRun fun s => e.recover (page.place s.inTurn) info tag failure

/-- Walks through an included template: in the context there is, or in one of
its own with the data at a path. A turn that is open stays so. -/
def walkInclusion (e : Engine) (enter : Option Walker) (page : Page) (info : NodeInfo)
    (template : String) (data : Option String) : Walk Rendered :=
  let fails (found : RenderFault) : Walk Rendered :=
    e.walkRecover page info Tag.includeTag (fault info found)
  match enter with
  | none => fails (.includeTooDeep e.options.maxDepth template)
  | some enter => do
    match ← ofRun fun _ => e.load template with
    | none => fails (.includeNotFound template)
    | some t =>
      let nodes ← ofRun fun _ => e.effective t
      match data with
      | none => enter t.page nodes
      | some path =>
        match ← ofRun fun s => pure (s.ctx.lookup? path) with
        | some value => inData value (enter t.page nodes)
        | none => fails (.includeDataNotFound path)

mutual

/-- Walks through a node. One without bodies is rendered where the walk
stands. -/
def walkNode (e : Engine) (enter : Option Walker) (page : Page) : Node → Walk Rendered
  | .blockTag info name attrs body => do
    match ← ofRun fun s => pure (e.resolve (page.place s.inTurn) s.ctx info name attrs) with
    | .ok text =>
      let rest ← walkAll e enter page body
      pure ((Rendered.ofText text).append rest)
    | .error failure => e.walkRecover page info name failure
  | .choice info branches none => walkBranches e enter page info (pure .nothing) branches
  | .choice info branches (some body) =>
    walkBranches e enter page info (walkAll e enter page body) branches
  | .loop info head body => do
    match ← ofRun fun s => pure (rounds? head.limit (s.ctx.lookup? head.source)) with
    | .ok rounds => walkRounds (walkAll e enter page body) head rounds
    | .error kind =>
      e.walkRecover page info Tag.forTag (fault info (.notIterable head.source kind))
  | .inclusion info template data => e.walkInclusion enter page info template data
  | .block _ _ _ body => walkAll e enter page body
  | .message _ position role body => do
    let inner ← withinTurn (.render .nestedMessage none (some position))
      (walkAll e enter page body)
    pure (inner.asTurn role)
  | node => ofRun fun s => e.renderNode none (page.place s.inTurn) s.ctx node

/-- Walks through nodes, one after another. -/
def walkAll (e : Engine) (enter : Option Walker) (page : Page) : List Node → Walk Rendered
  | [] => pure .nothing
  | node :: rest => do
    let first ← walkNode e enter page node
    let more ← walkAll e enter page rest
    pure (first.append more)

/-- Walks through the first branch whose condition holds, or else through what
is there otherwise. -/
def walkBranches (e : Engine) (enter : Option Walker) (page : Page) (info : NodeInfo)
    (otherwise : Walk Rendered) : List Branch → Walk Rendered
  | [] => otherwise
  | .mk _ _ condition body :: rest => do
    match ← ofRun fun s => pure (condition.holds s.ctx e.functions) with
    | .ok true => walkAll e enter page body
    | .ok false => walkBranches e enter page info otherwise rest
    | .error failure => e.walkRecover page info Tag.ifTag (nodeFailure Tag.ifTag info failure)

end

/-- Walks through nodes in which templates may be included to the given
depth. -/
def walkAt (e : Engine) : Nat → Walker
  | 0 => e.walkAll none
  | depth + 1 => e.walkAll (some (e.walkAt depth))

/-- The way to walk through templates that are included, when so many may still
be opened inside one another. -/
def walkInto (e : Engine) : Nat → Option Walker
  | 0 => none
  | depth + 1 => some (e.walkAt depth)

/-! ## The walk is the render -/

variable {e : Engine} {enter : Option Renderer} {enter' : Option Walker}

/-- The rounds of a loop are rendered each in a context of its own. -/
theorem walkRounds_eq_ofRun {walk : Walk Rendered} {body : Stance → Run Rendered}
    (h : walk = ofRun body) (head : LoopHead) (rounds : List (Value × Value)) :
    walkRounds walk head rounds = ofRun fun s =>
      renderRounds (fun inner => body { s with ctx := inner }) s.ctx head rounds := by
  subst h
  induction rounds with
  | nil => rfl
  | cons round rest ih =>
    rw [walkRounds, inScope_ofRun]
    exact ofRun_bind (fun first => bind_pure_eq_ofRun ih (Rendered.append first)) _

/-- The templates that are entered are walked through as they are rendered. -/
def Enters (enter : Option Renderer) (enter' : Option Walker) : Prop :=
  enter' = enter.map fun render page nodes =>
    ofRun fun s => render (page.place s.inTurn) s.ctx nodes

theorem walkInclusion_ofRun (henter : Enters enter enter') (page : Page) (info : NodeInfo)
    (template : String) (data : Option String) :
    e.walkInclusion enter' page info template data = ofRun fun s =>
      e.renderInclusion enter (page.place s.inTurn) s.ctx info template data := by
  rw [henter]
  cases enter with
  | none => rfl
  | some render =>
    refine ofRun_bind (fun found => ?_) _
    cases found with
    | none => rfl
    | some t =>
      refine ofRun_bind (fun nodes => ?_) _
      cases data with
      | none => rfl
      | some path =>
        refine ext fun s j => ?_
        simp only [run_choose_bind]
        rw [run_ofRun]
        cases s.ctx.lookup? path <;> rfl

theorem walkBranches_ofRun {page : Page} {info : NodeInfo} {branches : List Branch}
    (inside : ∀ branch ∈ branches, e.walkAll enter' page branch.body =
      ofRun fun s => e.renderAll enter (page.place s.inTurn) s.ctx branch.body)
    (otherwise : Stance → Run Rendered) :
    e.walkBranches enter' page info (ofRun otherwise) branches = ofRun fun s =>
      e.renderBranches enter (page.place s.inTurn) s.ctx info (otherwise s) branches := by
  induction branches with
  | nil => rfl
  | cons branch rest ih =>
    obtain ⟨hbody, hrest⟩ := List.forall_mem_cons.1 inside
    obtain ⟨position, source, condition, body⟩ := branch
    refine ext fun s j => ?_
    rw [walkBranches, run_choose_bind, run_ofRun, renderBranches]
    rcases condition.holds s.ctx e.functions with failure | _ | _
    · rfl
    · exact congrArg (·.run (s, j)) (ih hrest)
    · exact congrArg (·.run (s, j)) hbody

/-- A node is walked through as it is rendered if its bodies are. -/
theorem walkNode_ofRun (henter : Enters enter enter') {node : Node} {page : Page}
    (inside : ∀ body ∈ node.bodies, e.walkAll enter' page body =
      ofRun fun s => e.renderAll enter (page.place s.inTurn) s.ctx body) :
    e.walkNode enter' page node =
      ofRun fun s => e.renderNode enter (page.place s.inTurn) s.ctx node := by
  cases node with
  | blockTag info name attrs body =>
    refine ext fun s j => ?_
    rw [walkNode, run_choose_bind, run_ofRun, renderNode]
    cases e.resolve (page.place s.inTurn) s.ctx info name attrs with
    | error failure => rfl
    | ok text =>
      have hbody := inside body (List.mem_singleton_self _)
      exact congrArg (·.run (s, j)) (bind_pure_eq_ofRun hbody (Rendered.ofText text).append)
  | choice info branches otherwise =>
    have hbranches : ∀ branch ∈ branches, e.walkAll enter' page branch.body =
        ofRun fun s => e.renderAll enter (page.place s.inTurn) s.ctx branch.body :=
      fun branch hbranch =>
        inside branch.body (Node.mem_bodies_choice.2 (.inl (List.mem_map_of_mem hbranch)))
    cases otherwise with
    | none =>
      rw [walkNode, pure_eq_ofRun]
      exact walkBranches_ofRun hbranches _
    | some body =>
      rw [walkNode, inside body (Node.mem_bodies_choice.2 (.inr rfl))]
      exact walkBranches_ofRun hbranches _
  | loop info head body =>
    refine ext fun s j => ?_
    rw [walkNode, run_choose_bind, run_ofRun, renderNode]
    cases rounds? head.limit (s.ctx.lookup? head.source) with
    | error kind => rfl
    | ok rounds =>
      have hbody := inside body (List.mem_singleton_self _)
      exact congrArg (·.run (s, j)) (walkRounds_eq_ofRun hbody head rounds)
  | inclusion info template data => exact walkInclusion_ofRun henter _ _ _ _
  | block span position name body => exact inside body (List.mem_singleton_self _)
  | message span position role body =>
    rw [walkNode, inside body (List.mem_singleton_self _), withinTurn_ofRun,
      bind_pure_eq_ofRun rfl]
    refine ext fun s j => ?_
    rw [run_ofRun, run_ofRun, renderNode]
    obtain ⟨ctx, _ | _⟩ := s <;> rfl
  | _ => rfl

/-- **Walking through nodes is rendering them**, and leaves everything as it
was. -/
theorem walkAll_ofRun (henter : Enters enter enter') (page : Page) (nodes : List Node) :
    e.walkAll enter' page nodes =
      ofRun fun s => e.renderAll enter (page.place s.inTurn) s.ctx nodes := by
  induction nodes using Node.inductionAll with
  | nil => rfl
  | cons node rest inside ih =>
    rw [walkAll, walkNode_ofRun henter inside]
    exact ofRun_bind (fun first => bind_pure_eq_ofRun ih (Rendered.append first)) _

theorem walkAt_eq_walkAll (e : Engine) (depth : Nat) :
    e.walkAt depth = e.walkAll (e.walkInto depth) := by
  cases depth <;> rfl

theorem enters_walkInto (e : Engine) (depth : Nat) :
    Enters (e.enterAt depth) (e.walkInto depth) := by
  induction depth with
  | zero => rfl
  | succ depth ih =>
    rw [Enters, enterAt, walkInto, Option.map_some, walkAt_eq_walkAll, renderAt_eq]
    exact congrArg some (funext fun page => funext fun nodes => walkAll_ofRun ih page nodes)

/-- **A render needs one stack of scopes and one mark.** Whatever it comes to and
however it ends, a walk does what the render does where it stands, and leaves
everything behind as it was. -/
theorem walkAt_eq (e : Engine) (depth : Nat) (page : Page) (nodes : List Node) :
    e.walkAt depth page nodes =
      ofRun fun s => e.renderAt depth (page.place s.inTurn) s.ctx nodes := by
  rw [walkAt_eq_walkAll, renderAt_eq]
  exact walkAll_ofRun (e.enters_walkInto depth) page nodes

/-- And so does a single node. -/
theorem walkNode_eq (e : Engine) (depth : Nat) (page : Page) (node : Node) :
    e.walkNode (e.walkInto depth) page node =
      ofRun fun s => e.renderNode (e.enterAt depth) (page.place s.inTurn) s.ctx node :=
  walkNode_ofRun (e.enters_walkInto depth) fun body _ =>
    walkAll_ofRun (e.enters_walkInto depth) page body

end Engine

end PromptMarkup
