import PromptMarkup.Proofs.Render.Available
import PromptMarkup.Proofs.Tree.Relocate
/-!
# Render — nodes in another place

What nodes render to does not depend on where they stand. A failure says where
it happened, and what is logged or read is noted with its place, so two
renders of the same nodes in different places need not be the same; but they
yield the same where they yield anything (`Engine.Agree`), because every node
takes the same course in both (`course_relocate`).
-/

namespace PromptMarkup

/-- The same course, taken by a node and by that node in its new place. -/
inductive Course.Beside (r : Relocation) : Course → Course → Prop
  | done (text : Rendered) : Beside r (.done text) (.done text)
  | fails (info : NodeInfo) (tag : String) {failure failure' : Failure}
      (hfatal : failure.isFatal = false) (hfatal' : failure'.isFatal = false) :
      Beside r (.fails info tag failure) (.fails (info.relocate r) tag failure')
  | refused (failure failure' : Failure) : Beside r (.refused failure) (.refused failure')
  | opens (inTurn : Bool) (parts : List (Context × List Node)) (finish : Rendered → Rendered) :
      Beside r (.opens inTurn parts finish)
        (.opens inTurn (parts.map (Prod.map id (Node.relocateAll r))) finish)
  | includes (info : NodeInfo) (template : String) (data : Option String) :
      Beside r (.includes info template data) (.includes (info.relocate r) template data)

namespace Engine

variable {e : Engine} {place : Place} {ctx : Context} {r : Relocation} {node : Node}

/-! ## Courses -/

/-- A resolver does not see where its tag stands. -/
theorem resolve_relocate (info : NodeInfo) (name : String) (attrs : Attributes) :
    (∃ text, e.resolve place ctx info name attrs = .ok text ∧
        e.resolve place ctx (info.relocate r) name attrs = .ok text) ∨
      ∃ failure failure', e.resolve place ctx info name attrs = .error failure ∧
        e.resolve place ctx (info.relocate r) name attrs = .error failure' := by
  rw [resolve, resolve]
  cases Keyed.find? e.resolvers name with
  | none => exact .inr ⟨_, _, rfl, rfl⟩
  | some resolver =>
    simp only
    cases resolver.resolve ctx ⟨place.template, place.config, e.functions, e.environment⟩ attrs with
    | ok text => exact .inl ⟨text, rfl, rfl⟩
    | error failure => exact .inr ⟨_, _, rfl, rfl⟩

/-- Nor does a condition see where its branch stands. -/
theorem pick_relocate (fs : Functions) (otherwise : Option (List Node)) (branches : List Branch) :
    pick ctx fs (otherwise.map (Node.relocateAll r)) (branches.map (Branch.relocate r)) =
      (pick ctx fs otherwise branches).map (Option.map (Node.relocateAll r)) := by
  induction branches with
  | nil => rfl
  | cons branch rest ih =>
    obtain ⟨position, source, condition, body⟩ := branch
    rw [List.map_cons, Branch.relocate, pick, pick]
    rcases condition.holds ctx fs with failure | _ | _
    · rfl
    · exact ih
    · rfl

/-- **A node takes the same course** wherever it stands. -/
theorem course_relocate (e : Engine) (place : Place) (ctx : Context) (r : Relocation)
    (node : Node) :
    Course.Beside r (e.course place ctx node) (e.course place ctx (node.relocate r)) := by
  cases node with
  | var info path =>
    have hsame : resolution ctx (info.relocate r) path = resolution ctx info path := rfl
    simp only [Node.relocate, course, hsame]
    split
    · exact .done _
    · exact .done _
    · exact .fails info Tag.var rfl rfl
  | tag info name attrs =>
    simp only [Node.relocate, course]
    obtain ⟨text, h, h'⟩ | ⟨failure, failure', h, h'⟩ := resolve_relocate (r := r) info name attrs
    · rw [h, h']
      exact .done _
    · rw [h, h']
      exact .fails info name (isFatal_of_resolve h) (isFatal_of_resolve h')
  | blockTag info name attrs body =>
    simp only [Node.relocate, course]
    obtain ⟨text, h, h'⟩ | ⟨failure, failure', h, h'⟩ := resolve_relocate (r := r) info name attrs
    · rw [h, h']
      exact .opens _ [(ctx, body)] _
    · rw [h, h']
      exact .fails info name (isFatal_of_resolve h) (isFatal_of_resolve h')
  | choice info branches otherwise =>
    rw [Node.relocate_choice, course, course, pick_relocate]
    rcases pick ctx e.functions otherwise branches with failure | _ | body
    · exact .fails info Tag.ifTag (isFatal_nodeFailure _ _ _) (isFatal_nodeFailure _ _ _)
    · exact .done _
    · exact .opens _ [(ctx, body)] _
  | loop info head body =>
    simp only [Node.relocate, course]
    cases rounds? head.limit (ctx.lookup? head.source) with
    | ok rounds =>
      have hrounds := Course.Beside.opens (r := r) place.inTurn
        (rounds.map fun round => (roundContext ctx head round, body)) id
      rwa [List.map_map] at hrounds
    | error kind => exact .fails info Tag.forTag rfl rfl
  | inclusion info template data => exact .includes info template data
  | block span position name body => exact .opens _ [(ctx, body)] _
  | message span position role body =>
    simp only [Node.relocate, course]
    split
    · exact .refused _ _
    · exact .opens _ [(ctx, body)] _
  | _ => exact .done _

/-! ## Runs that agree -/

/-- Where the same templates are available the runs yield the same or both
fail, and they leave the same available. -/
def Agree (e : Engine) (α : Type) (run run' : Run α) : Prop :=
  ∀ j j', e.available j.store = e.available j'.store →
    (run.run j).1.toOption = (run'.run j').1.toOption ∧
      e.available (run.run j).2.store = e.available j.store ∧
      e.available (run'.run j').2.store = e.available j'.store

variable {α β : Type} {run run' : Run α}

theorem Alike.agree (h : e.Alike α run run') : e.Agree α run run' := fun j j' hj =>
  ⟨congrArg Except.toOption (h j j' hj).1, (h j j' hj).2⟩

theorem agree_pure (a : α) : e.Agree α (pure a) (pure a) := fun _ _ _ => ⟨rfl, rfl, rfl⟩

theorem agree_throw (failure failure' : Failure) : e.Agree α (throw failure) (throw failure') :=
  fun _ _ _ => ⟨rfl, rfl, rfl⟩

/-- What is read may be noted with different places. -/
theorem agree_record (node : Node) :
    e.Agree Unit (record (node.read? ctx)) (record ((node.relocate r).read? ctx)) := by
  intro j j' _
  cases node with
  | choice info branches otherwise =>
    rw [Node.relocate_choice]
    exact ⟨rfl, rfl, rfl⟩
  | _ => exact ⟨rfl, rfl, rfl⟩

/-- Runs one after the other agree if they agree one by one. -/
theorem Agree.bind (hfirst : e.Agree α run run') {next next' : α → Run β}
    (hnext : ∀ a, e.Agree β (next a) (next' a)) :
    e.Agree β (run >>= next) (run' >>= next') := by
  intro j j' h
  have hstep := hfirst j j' h
  rw [Tree.Effect.run_bind, Tree.Effect.run_bind]
  revert hstep
  rcases run.run j with ⟨failure | a, s⟩ <;> rcases run'.run j' with ⟨failure' | a', s'⟩ <;>
    rintro ⟨hresult, hs, hs'⟩
  · exact ⟨rfl, hs, hs'⟩
  · cases hresult
  · cases hresult
  · obtain rfl : a = a' := Option.some.inj hresult
    obtain ⟨hlast, hl, hl'⟩ := hnext a s s' (hs.trans (h.trans hs'.symm))
    exact ⟨hlast, hl.trans hs, hl'.trans hs'⟩

theorem Agree.map (h : e.Agree α run run') (f : α → β) : e.Agree β (f <$> run) (f <$> run') := by
  rw [← bind_pure_comp, ← bind_pure_comp]
  exact h.bind fun a => agree_pure (f a)

/-- **The same is left of a failure** wherever the node stands. -/
theorem agree_recover (hr : r.Faithful) (place : Place) (info : NodeInfo) (tag : String)
    {failure failure' : Failure} (hfatal : failure.isFatal = false)
    (hfatal' : failure'.isFatal = false) :
    e.Agree _ (e.recover place info tag failure)
      (e.recover place (info.relocate r) tag failure') := by
  intro j j' _
  have hraw : (info.relocate r).raw = info.raw := congrFun hr info.raw
  rw [recover_run hfatal, recover_run hfatal']
  have hstrategy : e.options.strategyFor (info.relocate r).strategy =
      e.options.strategyFor info.strategy := rfl
  rw [hstrategy]
  cases e.options.strategyFor info.strategy with
  | keepRaw => exact ⟨by simp [Strategy.settle, hraw], rfl, rfl⟩
  | _ => exact ⟨rfl, rfl, rfl⟩

/-! ## Renders -/

section

variable (hr : r.Faithful)

include hr

theorem agree_inclusion (depth : Nat) (place : Place) (ctx : Context) (info : NodeInfo)
    (template : String) (data : Option String) :
    e.Agree _ (e.renderInclusion (e.enterAt depth) place ctx info template data)
      (e.renderInclusion (e.enterAt depth) place ctx (info.relocate r) template data) := by
  cases depth with
  | zero => exact agree_recover hr _ _ _ rfl rfl
  | succ depth =>
    have hinner : ∀ place ctx nodes, e.Agree _ (e.renderAt depth place ctx nodes)
        (e.renderAt depth place ctx nodes) := by
      intro place ctx nodes
      rw [renderAt_eq]
      exact (alike_renderAll e depth place ctx nodes).agree
    refine (alike_load e template).agree.bind fun found => ?_
    cases found with
    | none => exact agree_recover hr _ _ _ rfl rfl
    | some t =>
      refine (alike_effective e t).agree.bind fun nodes => ?_
      cases data with
      | none => exact hinner _ _ _
      | some path =>
        simp only
        split
        · exact hinner _ _ _
        · exact agree_recover hr _ _ _ rfl rfl

/-- So two courses beside one another are followed to the same, if what they
open is rendered to the same. -/
theorem agree_follow (depth : Nat) {course course' : Course} (h : Course.Beside r course course')
    (hfits : course.Fits place ctx node)
    (hparts : ∀ place (parts : List (Context × List Node)),
      (∀ part ∈ parts, part.2 ∈ node.bodies) →
      e.Agree _ (e.renderParts (e.enterAt depth) place parts)
        (e.renderParts (e.enterAt depth) place (parts.map (Prod.map id (Node.relocateAll r))))) :
    e.Agree _ (e.follow (e.enterAt depth) place ctx course)
      (e.follow (e.enterAt depth) place ctx course') := by
  cases h with
  | done text => exact agree_pure text
  | fails info tag hfatal hfatal' => exact agree_recover hr place info tag hfatal hfatal'
  | refused failure failure' => exact agree_throw failure failure'
  | opens inTurn parts finish => exact (hparts _ parts hfits.2).map finish
  | includes info template data => exact agree_inclusion hr depth place ctx info template data

/-- **Nodes render to the same wherever they stand.** -/
theorem agree_renderAll_relocate (depth : Nat) (nodes : List Node) (place : Place)
    (ctx : Context) :
    e.Agree _ (e.renderAll (e.enterAt depth) place ctx nodes)
      (e.renderAll (e.enterAt depth) place ctx (Node.relocateAll r nodes)) := by
  induction nodes using Node.inductionAll generalizing place ctx with
  | nil => exact agree_pure _
  | cons node rest inside ih =>
    have hparts : ∀ place (parts : List (Context × List Node)),
        (∀ part ∈ parts, part.2 ∈ node.bodies) →
        e.Agree _ (e.renderParts (e.enterAt depth) place parts)
          (e.renderParts (e.enterAt depth) place
            (parts.map (Prod.map id (Node.relocateAll r)))) := by
      intro place parts hmem
      induction parts with
      | nil => exact agree_pure _
      | cons part more ihparts =>
        refine (inside _ (hmem part List.mem_cons_self) _ _).bind fun first => ?_
        exact (ihparts fun p hp => hmem p (List.mem_cons_of_mem _ hp)).bind fun _ => agree_pure _
    have hnode : e.Agree _ (e.renderNode (e.enterAt depth) place ctx node)
        (e.renderNode (e.enterAt depth) place ctx (node.relocate r)) := by
      rw [renderNode_eq, renderNode_eq]
      refine (agree_record node).bind fun _ => ?_
      exact agree_follow hr depth (e.course_relocate place ctx r node)
        (e.course_fits place ctx node) hparts
    exact hnode.bind fun first => (ih _ _).bind fun more => agree_pure _

end

end Engine

end PromptMarkup
