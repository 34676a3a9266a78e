import PromptMarkup.Proofs.Render.Course
/-!
# Render — relations that renders keep

Two engines that differ in their strategy alone make the same moves until a
node fails. So a relation between runs that putting runs together keeps
(`Run.Congruence`) holds between their renders as soon as it holds between
their loads and between what their strategies leave of a failure
(`Congruence.render`). With the relation of a run to itself this is also the
way to what every single render keeps.
-/

namespace PromptMarkup

/-- The engine with another strategy for the nodes that name none. -/
def Engine.withStrategy (e : Engine) (s : Option Strategy) : Engine :=
  { e with options := { e.options with strategy := s } }

/-- A relation between runs that is kept when runs are put together. -/
structure Run.Congruence (R : ∀ α : Type, Run α → Run α → Prop) : Prop where
  /-- To do nothing is related to doing nothing. -/
  pure {α : Type} (a : α) : R α (pure a) (pure a)
  /-- To fail is related to failing alike. -/
  throw {α : Type} (failure : Failure) : R α (throw failure) (throw failure)
  /-- Recording an evaluation is related to recording it. -/
  record (read : Option VariableRead) : R Unit (Engine.record read) (Engine.record read)
  /-- Runs one after the other are related if they are related one by one. -/
  bind {α β : Type} {first first' : Run α} {next next' : α → Run β} (hfirst : R α first first')
    (hnext : ∀ a, R β (next a) (next' a)) : R β (first >>= next) (first' >>= next')

namespace Run.Congruence

variable {R : ∀ α : Type, Run α → Run α → Prop} {e : Engine} {s : Option Strategy}

theorem map (hR : Run.Congruence R) {α β : Type} {run run' : Run α} (f : α → β)
    (h : R α run run') : R β (f <$> run) (f <$> run') := by
  rw [← bind_pure_comp, ← bind_pure_comp]
  exact hR.bind h fun a => hR.pure (f a)

/-- Following a chain of parents keeps what loading keeps. -/
theorem inherited (hR : Run.Congruence R) {load load' : String → Run (Option Tree)}
    (hload : ∀ name, R _ (load name) (load' name)) (limit budget : Nat) (chain : List String)
    (t : Tree) :
    R _ (Tree.inherited load limit budget chain t) (Tree.inherited load' limit budget chain t) := by
  induction budget generalizing chain t with
  | zero =>
    rw [Tree.inherited, Tree.inherited]
    split
    · exact hR.pure _
    · split <;> exact hR.throw _
  | succ budget ih =>
    rw [Tree.inherited, Tree.inherited]
    split
    · exact hR.pure _
    · next parent _ =>
      split
      · exact hR.throw _
      · refine hR.bind (hload parent) fun found => ?_
        cases found with
        | none => exact hR.throw _
        | some above => exact hR.bind (ih _ _) fun nodes => hR.pure _

/-- Resolving inheritance keeps what loading keeps. -/
theorem effective (hR : Run.Congruence R) (hload : ∀ name, R _ (e.load name) (e.load name))
    (t : Template) : R _ (e.effective t) (e.effective t) :=
  hR.bind (hR.inherited (fun name => hR.map _ (hload name)) _ _ _ _) fun _ => hR.pure _

/-! ## Renders -/

/-- A course is the same under every strategy. -/
theorem course_withStrategy (place : Place) (ctx : Context) (node : Node) :
    (e.withStrategy s).course place ctx node = e.course place ctx node := by
  cases node <;> rfl

section

variable (hR : Run.Congruence R) (hload : ∀ name, R _ (e.load name) (e.load name))
  (hrecover : ∀ place info tag failure,
    R _ (e.recover place info tag failure) ((e.withStrategy s).recover place info tag failure))

include hR hload hrecover

theorem inclusion {enter enter' : Option Renderer}
    (henter : Option.Rel
      (fun r r' => ∀ place ctx nodes, R _ (r place ctx nodes) (r' place ctx nodes)) enter enter')
    (place : Place) (ctx : Context) (info : NodeInfo) (template : String) (data : Option String) :
    R _ (e.renderInclusion enter place ctx info template data)
      ((e.withStrategy s).renderInclusion enter' place ctx info template data) := by
  cases henter with
  | none => exact hrecover _ _ _ _
  | some hinner =>
    refine hR.bind (hload template) fun found => ?_
    cases found with
    | none => exact hrecover _ _ _ _
    | some t =>
      refine hR.bind (hR.effective hload t) fun nodes => ?_
      cases data with
      | none => exact hinner _ _ _
      | some path =>
        simp only
        split
        · exact hinner _ _ _
        · exact hrecover _ _ _ _

theorem renderAll {enter enter' : Option Renderer}
    (henter : Option.Rel
      (fun r r' => ∀ place ctx nodes, R _ (r place ctx nodes) (r' place ctx nodes)) enter enter')
    (nodes : List Node) (place : Place) (ctx : Context) :
    R _ (e.renderAll enter place ctx nodes)
      ((e.withStrategy s).renderAll enter' place ctx nodes) := by
  induction nodes using Node.inductionAll generalizing place ctx with
  | nil => exact hR.pure _
  | cons node rest inside ih =>
    -- whatever its course, a node renders nothing but bodies of its own or another template
    have hparts : ∀ place parts, (∀ part ∈ parts, part.2 ∈ node.bodies) →
        R _ (e.renderParts enter place parts)
          ((e.withStrategy s).renderParts enter' place parts) := by
      intro place parts hmem
      induction parts with
      | nil => exact hR.pure _
      | cons part more ihparts =>
        refine hR.bind (inside _ (hmem part List.mem_cons_self) _ _) fun first => ?_
        exact hR.bind (ihparts fun p hp => hmem p (List.mem_cons_of_mem _ hp)) fun _ => hR.pure _
    have hnode : R _ (e.renderNode enter place ctx node)
        ((e.withStrategy s).renderNode enter' place ctx node) := by
      rw [Engine.renderNode_eq, Engine.renderNode_eq, course_withStrategy]
      refine hR.bind (hR.record _) fun _ => ?_
      cases hcourse : e.course place ctx node with
      | done r => exact hR.pure _
      | fails info tag failure => exact hrecover _ _ _ _
      | refused failure => exact hR.throw _
      | opens inTurn parts finish =>
        exact hR.map _ (hparts _ _ (Engine.fits_of_course hcourse).2)
      | includes info template data => exact inclusion hR hload hrecover henter _ _ _ _ _
    exact hR.bind hnode fun first => hR.bind (ih _ _) fun more => hR.pure _

theorem renderAt (depth : Nat) (place : Place) (ctx : Context) (nodes : List Node) :
    R _ (e.renderAt depth place ctx nodes) ((e.withStrategy s).renderAt depth place ctx nodes) := by
  induction depth generalizing place ctx nodes with
  | zero => exact renderAll hR hload hrecover .none _ _ _
  | succ depth ih => exact renderAll hR hload hrecover (.some ih) _ _ _

/-- **A relation that holds of loads and of what strategies leave of failures
holds of renders.** -/
theorem render (t : Template) (data : Value) :
    R _ (e.render t data) ((e.withStrategy s).render t data) :=
  hR.bind (hR.effective hload t) fun _ => renderAt hR hload hrecover _ _ _ _

end

end Run.Congruence

end PromptMarkup
