import PromptMarkup.Proofs.Render.Course
/-!
# Render — the nodes a render comes to

A render goes through nodes one after another, into what a node opens, and
on only while all goes well. `Comes` says which nodes it comes to, and where
it then stands: how deep in inclusions, in which context and with what left
behind. A node it comes to may end it (`Raises`), through a strategy that
raises or regardless of the strategies. `renderFrom_error_iff` puts the two
together: **a render fails exactly where it comes to a node that ends it**,
and with that node's failure.
-/

namespace PromptMarkup

/-- Where a render stands when it comes to a node. -/
structure Stand where
  /-- So many inclusions may still be opened inside one another. -/
  depth : Nat
  place : Place
  ctx : Context
  journal : Journal

namespace Engine

/-- Renders a node where the stand is. -/
abbrev nodeFrom (e : Engine) (s : Stand) (node : Node) : Run Rendered :=
  e.renderNode (e.enterAt s.depth) s.place s.ctx node

/-- Renders nodes where the stand is. -/
abbrev renderFrom (e : Engine) (s : Stand) (nodes : List Node) : Run Rendered :=
  e.renderAll (e.enterAt s.depth) s.place s.ctx nodes

/-- From a stand a node opens other nodes, which are rendered from a stand
of their own. -/
inductive Opens (e : Engine) (s : Stand) (node : Node) : Stand → List Node → Prop
  /-- A body of the node, once those before it are rendered. -/
  | part {inTurn : Bool} {before after : List (Context × List Node)} {ctx : Context}
      {body : List Node} {finish : Rendered → Rendered} {r : Rendered} {j : Journal}
      (hcourse : e.course s.place s.ctx node =
        .opens inTurn (before ++ (ctx, body) :: after) finish)
      (hbefore : (e.renderParts (e.enterAt s.depth) { s.place with inTurn } before).run s.journal =
        (.ok r, j)) :
      Opens e s node ⟨s.depth, { s.place with inTurn }, ctx, j⟩ body
  /-- The nodes of a template that the node includes. -/
  | template {info : NodeInfo} {name : String} {data : Option String} {depth : Nat} {t : Template}
      {nodes : List Node} {ctx : Context} {j₁ j₂ : Journal}
      (hcourse : e.course s.place s.ctx node = .includes info name data)
      (hdepth : s.depth = depth + 1) (hload : (e.load name).run s.journal = (.ok (some t), j₁))
      (hnodes : (e.effective t).run j₁ = (.ok nodes, j₂))
      (hctx : s.ctx.forInclusion? data = some ctx) :
      Opens e s node ⟨depth, t.place s.place.inTurn, ctx, j₂⟩ nodes

/-- Rendering nodes from a stand comes to a node, and then stands where the
node is rendered from. -/
inductive Comes (e : Engine) : Stand → List Node → Stand → Node → Prop
  /-- It comes to the first node. -/
  | here {s : Stand} {node : Node} {rest : List Node} : Comes e s (node :: rest) s node
  /-- It comes to what follows a node that is rendered. -/
  | later {s s' : Stand} {first node : Node} {rest : List Node} {r : Rendered} {j : Journal}
      (hfirst : (e.nodeFrom s first).run s.journal = (.ok r, j))
      (hrest : Comes e { s with journal := j } rest s' node) :
      Comes e s (first :: rest) s' node
  /-- It comes to what the first node opens. -/
  | inside {s s₁ s' : Stand} {first node : Node} {rest body : List Node}
      (hopens : e.Opens s first s₁ body) (hbody : Comes e s₁ body s' node) :
      Comes e s (first :: rest) s' node

/-- A node fails where it stands, and its failure is left to the strategy of
its info. -/
inductive Fails (e : Engine) (s : Stand) (node : Node) :
    NodeInfo → String → Failure → Journal → Prop
  /-- It fails by itself. -/
  | own {info : NodeInfo} {tag : String} {failure : Failure}
      (hcourse : e.course s.place s.ctx node = .fails info tag failure) :
      Fails e s node info tag failure ((record (node.read? s.ctx)).run s.journal).2
  /-- It includes a template where no more may be opened. -/
  | tooDeep {info : NodeInfo} {name : String} {data : Option String}
      (hcourse : e.course s.place s.ctx node = .includes info name data) (hdepth : s.depth = 0) :
      Fails e s node info Tag.includeTag
        (fault info (.includeTooDeep e.options.maxDepth name)) s.journal
  /-- It includes a template that is not known. -/
  | unknown {info : NodeInfo} {name : String} {data : Option String} {depth : Nat} {j : Journal}
      (hcourse : e.course s.place s.ctx node = .includes info name data)
      (hdepth : s.depth = depth + 1) (hload : (e.load name).run s.journal = (.ok none, j)) :
      Fails e s node info Tag.includeTag (fault info (.includeNotFound name)) j
  /-- It includes a template with data that is not there. -/
  | noData {info : NodeInfo} {name path : String} {depth : Nat} {t : Template} {nodes : List Node}
      {j₁ j₂ : Journal} (hcourse : e.course s.place s.ctx node = .includes info name (some path))
      (hdepth : s.depth = depth + 1) (hload : (e.load name).run s.journal = (.ok (some t), j₁))
      (hnodes : (e.effective t).run j₁ = (.ok nodes, j₂)) (hdata : s.ctx.lookup? path = none) :
      Fails e s node info Tag.includeTag (fault info (.includeDataNotFound path)) j₂

/-- A node ends the render where it stands. -/
inductive Raises (e : Engine) (s : Stand) (node : Node) : Failure → Journal → Prop
  /-- It fails, and its strategy raises. -/
  | strategy {info : NodeInfo} {tag : String} {failure : Failure} {j : Journal}
      (hfails : e.Fails s node info tag failure j)
      (hraise : e.options.strategyFor info.strategy = .raise) :
      Raises e s node (failure.orAt info.position) j
  /-- It may not stand there. -/
  | refused {failure : Failure} (hcourse : e.course s.place s.ctx node = .refused failure) :
      Raises e s node failure s.journal
  /-- It includes a template that cannot be loaded. -/
  | load {info : NodeInfo} {name : String} {data : Option String} {depth : Nat} {failure : Failure}
      {j : Journal} (hcourse : e.course s.place s.ctx node = .includes info name data)
      (hdepth : s.depth = depth + 1) (hload : (e.load name).run s.journal = (.error failure, j)) :
      Raises e s node failure j
  /-- It includes a template whose inheritance cannot be resolved. -/
  | inheritance {info : NodeInfo} {name : String} {data : Option String} {depth : Nat}
      {t : Template} {failure : Failure} {j₁ j₂ : Journal}
      (hcourse : e.course s.place s.ctx node = .includes info name data)
      (hdepth : s.depth = depth + 1) (hload : (e.load name).run s.journal = (.ok (some t), j₁))
      (hresolve : (e.effective t).run j₁ = (.error failure, j₂)) :
      Raises e s node failure j₂

variable {e : Engine} {s : Stand} {node : Node} {failure : Failure} {j : Journal}

/-! ## What is rendered together -/

/-- Nodes fail to render where the first does, or where the others do after
it. -/
theorem renderFrom_cons_error_iff {rest : List Node} :
    (e.renderFrom s (node :: rest)).run s.journal = (.error failure, j) ↔
      (e.nodeFrom s node).run s.journal = (.error failure, j) ∨
        ∃ r j₁, (e.nodeFrom s node).run s.journal = (.ok r, j₁) ∧
          (e.renderFrom s rest).run j₁ = (.error failure, j) := by
  simp only [renderAll, Run.bind_eq_error_iff, Run.pure_ne_error, and_false, exists_false,
    or_false]

/-- Parts fail to render where one of them does after those before it. -/
theorem renderParts_error_iff {enter : Option Renderer} {place : Place}
    {parts : List (Context × List Node)} {j₀ : Journal} :
    (e.renderParts enter place parts).run j₀ = (.error failure, j) ↔
      ∃ before ctx body after r j₁, parts = before ++ (ctx, body) :: after ∧
        (e.renderParts enter place before).run j₀ = (.ok r, j₁) ∧
        (e.renderAll enter place ctx body).run j₁ = (.error failure, j) := by
  induction parts generalizing j₀ with
  | nil =>
    constructor
    · exact fun h => absurd h Run.pure_ne_error
    · rintro ⟨before, ctx, body, after, r, j₁, hparts, _, _⟩
      exact absurd hparts (by simp)
  | cons part rest ih =>
    obtain ⟨ctx, body⟩ := part
    simp only [renderParts, Run.bind_eq_error_iff, Run.pure_ne_error, and_false, exists_false,
      or_false, ih]
    constructor
    · rintro (h | ⟨r, j₁, hfirst, before, ctx', body', after, r', j₂, rfl, hbefore, hbody⟩)
      · exact ⟨[], ctx, body, rest, .nothing, j₀, rfl, rfl, h⟩
      · refine ⟨(ctx, body) :: before, ctx', body', after, r.append r', j₂, rfl, ?_, hbody⟩
        simp only [renderParts, Run.bind_eq_ok_iff, Run.pure_eq_ok_iff]
        exact ⟨r, j₁, hfirst, r', j₂, hbefore, rfl, rfl⟩
    · rintro ⟨before, ctx', body', after, r, j₁, hparts, hbefore, hbody⟩
      cases before with
      | nil =>
        cases hparts
        cases hbefore
        exact .inl hbody
      | cons first before =>
        cases hparts
        simp only [renderParts, Run.bind_eq_ok_iff, Run.pure_eq_ok_iff] at hbefore
        obtain ⟨r₁, j₂, hfirst, r₂, _, hmore, _, rfl⟩ := hbefore
        exact .inr ⟨r₁, j₂, hfirst, before, ctx', body', after, r₂, _, rfl, hmore, hbody⟩

/-! ## One node -/

/-- What a strategy leaves of a failure is a failure if the strategy raises,
and then the failure itself. -/
theorem recover_error_iff {place : Place} {info : NodeInfo} {tag : String} {own : Failure}
    (hown : own.isFatal = false) {j₀ : Journal} :
    (e.recover place info tag own).run j₀ = (.error failure, j) ↔
      e.options.strategyFor info.strategy = .raise ∧ failure = own.orAt info.position ∧ j = j₀ := by
  rw [recover_run hown]
  constructor
  · intro h
    cases hstrategy : e.options.strategyFor info.strategy <;> rw [hstrategy] at h <;> cases h
    exact ⟨rfl, rfl, rfl⟩
  · rintro ⟨hraise, rfl, rfl⟩
    rw [hraise]
    rfl

/-- An inclusion renders the template it includes, and records nothing
itself. -/
theorem nodeFrom_of_includes {info : NodeInfo} {name : String} {data : Option String}
    (hcourse : e.course s.place s.ctx node = .includes info name data) :
    e.nodeFrom s node =
      e.renderInclusion (e.enterAt s.depth) s.place s.ctx info name data := by
  obtain rfl := fits_of_course hcourse
  rw [nodeFrom, renderNode_eq, hcourse]
  rfl

/-- What a node fails with is not fatal, -/
theorem Fails.isFatal {info : NodeInfo} {tag : String} {own : Failure}
    (h : e.Fails s node info tag own j) : own.isFatal = false := by
  cases h with
  | own hcourse => exact (fits_of_course hcourse).2
  | _ => rfl

/-- and is all that its rendering leaves to its strategy. -/
theorem Fails.run {info : NodeInfo} {tag : String} {own : Failure}
    (h : e.Fails s node info tag own j) :
    (e.nodeFrom s node).run s.journal = (e.recover s.place info tag own).run j := by
  cases h with
  | own hcourse =>
    rw [nodeFrom, renderNode_eq, hcourse, Tree.Effect.run_bind]
    cases node.read? s.ctx <;> rfl
  | tooDeep hcourse hdepth =>
    rw [nodeFrom_of_includes hcourse, hdepth]
    rfl
  | unknown hcourse hdepth hload =>
    rw [nodeFrom_of_includes hcourse, hdepth]
    simp only [enterAt, renderInclusion, Tree.Effect.run_bind, hload]
  | noData hcourse hdepth hload hnodes hdata =>
    rw [nodeFrom_of_includes hcourse, hdepth]
    simp only [enterAt, renderInclusion, Tree.Effect.run_bind, hload, hnodes, hdata]

/-- A node that ends the render does so. -/
theorem Raises.run (h : e.Raises s node failure j) :
    (e.nodeFrom s node).run s.journal = (.error failure, j) := by
  cases h with
  | strategy hfails hraise =>
    rw [hfails.run]
    exact (recover_error_iff hfails.isFatal).2 ⟨hraise, rfl, rfl⟩
  | refused hcourse =>
    obtain ⟨_, _, _, _, rfl, _⟩ := fits_of_course hcourse
    rw [nodeFrom, renderNode_eq, hcourse]
    rfl
  | load hcourse hdepth hload =>
    rw [nodeFrom_of_includes hcourse, hdepth]
    simp only [enterAt, renderInclusion, Tree.Effect.run_bind, hload]
  | inheritance hcourse hdepth hload hresolve =>
    rw [nodeFrom_of_includes hcourse, hdepth]
    simp only [enterAt, renderInclusion, Tree.Effect.run_bind, hload, hresolve]

/-- A template that a node includes is rendered in its place, with fewer
inclusions to go. -/
theorem Opens.run_of_includes {info : NodeInfo} {name : String} {data : Option String}
    (hcourse : e.course s.place s.ctx node = .includes info name data) {s₁ : Stand}
    {nodes : List Node} (h : e.Opens s node s₁ nodes) :
    s₁.depth < s.depth ∧
      (e.nodeFrom s node).run s.journal = (e.renderFrom s₁ nodes).run s₁.journal := by
  cases h with
  | part hpart =>
    rw [hcourse] at hpart
    cases hpart
  | template hincludes hdepth hload hnodes hctx =>
    rw [hcourse] at hincludes
    cases hincludes
    refine ⟨by rw [hdepth]; exact Nat.lt_succ_self _, ?_⟩
    rw [nodeFrom_of_includes hcourse, hdepth, renderFrom, ← renderAt_eq]
    simp only [enterAt, renderInclusion, Tree.Effect.run_bind, hload, hnodes]
    cases data with
    | none =>
      cases hctx
      rfl
    | some path =>
      rw [Context.forInclusion?] at hctx
      obtain ⟨value, hvalue, rfl⟩ := Option.map_eq_some_iff.1 hctx
      simp only [hvalue]

/-- A node fails to render where something does that it opens. -/
theorem Opens.run_error {s₁ : Stand} {body : List Node} (h : e.Opens s node s₁ body)
    (hbody : (e.renderFrom s₁ body).run s₁.journal = (.error failure, j)) :
    (e.nodeFrom s node).run s.journal = (.error failure, j) := by
  cases h with
  | part hcourse hbefore =>
    rw [nodeFrom, renderNode_eq, (fits_of_course hcourse).1, hcourse]
    exact Run.map_eq_error_iff.2
      (renderParts_error_iff.2 ⟨_, _, _, _, _, _, rfl, hbefore, hbody⟩)
  | template hcourse hdepth hload hnodes hctx =>
    have hopens : e.Opens s node _ _ := .template hcourse hdepth hload hnodes hctx
    rw [(hopens.run_of_includes hcourse).2]
    exact hbody

/-- An inclusion fails as a node, or because the template cannot be had, or
in the template. -/
theorem inclusion_error {info : NodeInfo} {name : String} {data : Option String}
    (hcourse : e.course s.place s.ctx node = .includes info name data)
    (h : (e.renderInclusion (e.enterAt s.depth) s.place s.ctx info name data).run s.journal =
      (.error failure, j)) :
    e.Raises s node failure j ∨
      ∃ s₁ body, e.Opens s node s₁ body ∧
        (e.renderFrom s₁ body).run s₁.journal = (.error failure, j) := by
  cases hdepth : s.depth with
  | zero =>
    rw [hdepth] at h
    obtain ⟨hraise, rfl, rfl⟩ := (recover_error_iff rfl).1 h
    exact .inl (.strategy (.tooDeep hcourse hdepth) hraise)
  | succ depth =>
    rw [hdepth] at h
    simp only [enterAt, renderInclusion] at h
    obtain hload | ⟨found, j₁, hload, h⟩ := Run.bind_eq_error_iff.1 h
    · exact .inl (.load hcourse hdepth hload)
    cases found with
    | none =>
      obtain ⟨hraise, rfl, rfl⟩ := (recover_error_iff rfl).1 h
      exact .inl (.strategy (.unknown hcourse hdepth hload) hraise)
    | some t =>
      obtain hresolve | ⟨nodes, j₂, hnodes, h⟩ := Run.bind_eq_error_iff.1 h
      · exact .inl (.inheritance hcourse hdepth hload hresolve)
      cases data with
      | none =>
        rw [renderAt_eq] at h
        exact .inr ⟨_, _, .template hcourse hdepth hload hnodes rfl, h⟩
      | some path =>
        cases hdata : s.ctx.lookup? path with
        | none =>
          simp only [hdata] at h
          obtain ⟨hraise, rfl, rfl⟩ := (recover_error_iff rfl).1 h
          exact .inl (.strategy (.noData hcourse hdepth hload hnodes hdata) hraise)
        | some value =>
          simp only [hdata, renderAt_eq] at h
          refine .inr ⟨_, _, .template hcourse hdepth hload hnodes ?_, h⟩
          rw [Context.forInclusion?, hdata]
          rfl

/-- **A node fails to render where it ends the render**, or where something
that it opens fails. -/
theorem nodeFrom_error_iff :
    (e.nodeFrom s node).run s.journal = (.error failure, j) ↔
      e.Raises s node failure j ∨
        ∃ s₁ body, e.Opens s node s₁ body ∧
          (e.renderFrom s₁ body).run s₁.journal = (.error failure, j) := by
  constructor
  · intro h
    cases hcourse : e.course s.place s.ctx node with
    | done r =>
      rw [nodeFrom, renderNode_eq, hcourse, Tree.Effect.run_bind] at h
      cases hread : node.read? s.ctx <;> rw [hread] at h <;> cases h
    | fails info tag own =>
      have hfails : e.Fails s node info tag own _ := .own hcourse
      rw [hfails.run] at h
      obtain ⟨hraise, rfl, rfl⟩ := (recover_error_iff hfails.isFatal).1 h
      exact .inl (.strategy hfails hraise)
    | refused own =>
      have hrefused : e.Raises s node own s.journal := .refused hcourse
      rw [hrefused.run] at h
      cases h
      exact .inl hrefused
    | opens inTurn parts finish =>
      rw [nodeFrom, renderNode_eq, (fits_of_course hcourse).1, hcourse] at h
      obtain ⟨before, ctx, body, after, r, j₁, rfl, hbefore, hbody⟩ :=
        renderParts_error_iff.1 (Run.map_eq_error_iff.1 h)
      exact .inr ⟨_, body, .part hcourse hbefore, hbody⟩
    | includes info name data =>
      rw [nodeFrom_of_includes hcourse] at h
      exact inclusion_error hcourse h
  · rintro (h | ⟨s₁, body, hopens, hbody⟩)
    · exact h.run
    · exact hopens.run_error hbody

/-! ## A whole render -/

/-- **A render fails exactly where it comes to a node that ends it**, and
with the failure of that node. -/
theorem renderFrom_error_iff {nodes : List Node} :
    (e.renderFrom s nodes).run s.journal = (.error failure, j) ↔
      ∃ s' node, e.Comes s nodes s' node ∧ e.Raises s' node failure j := by
  constructor
  · intro h
    -- each inclusion that is opened takes one from the depth
    induction hdepth : s.depth using Nat.strongRecOn generalizing s nodes with
    | ind depth ihdepth =>
    induction nodes using Node.inductionAll generalizing s with
    | nil => cases h
    | cons node rest inside ih =>
      obtain h | ⟨r, j₁, hfirst, h⟩ := renderFrom_cons_error_iff.1 h
      · obtain hraises | ⟨s₁, body, hopens, hbody⟩ := nodeFrom_error_iff.1 h
        · exact ⟨s, node, .here, hraises⟩
        · have hcomes : ∃ s' node', e.Comes s₁ body s' node' ∧ e.Raises s' node' failure j := by
            cases hopens with
            | @part _ _ _ ctx _ _ _ _ hcourse hbefore =>
              exact inside _ ((fits_of_course hcourse).2 (ctx, body) (by simp)) hbody hdepth
            | template hcourse hopen hload hnodes hctx =>
              -- these nodes are no part of the sequence, so only the depth carries the induction
              exact ihdepth _ (by rw [← hdepth, hopen]; exact Nat.lt_succ_self _) hbody rfl
          obtain ⟨s', node', hcomes, hraises⟩ := hcomes
          exact ⟨s', node', .inside hopens hcomes, hraises⟩
      · obtain ⟨s', node', hcomes, hraises⟩ := ih (s := { s with journal := j₁ }) h hdepth
        exact ⟨s', node', .later hfirst hcomes, hraises⟩
  · rintro ⟨s', node, hcomes, hraises⟩
    induction hcomes with
    | here => exact renderFrom_cons_error_iff.2 (.inl hraises.run)
    | later hfirst _ ih => exact renderFrom_cons_error_iff.2 (.inr ⟨_, _, hfirst, ih hraises⟩)
    | inside hopens _ ih => exact renderFrom_cons_error_iff.2 (.inl (hopens.run_error (ih hraises)))

/-- Where the render of a template starts once its nodes are known. -/
def start (e : Engine) (t : Template) (data : Value) (j : Journal) : Stand :=
  ⟨e.options.maxDepth, t.place false, { root := data }, j⟩

/-- **A template fails to render where its inheritance cannot be resolved**,
or where its render comes to a node that ends it. -/
theorem execute_error_iff {t : Template} {data : Value} {j₀ : Journal} :
    (e.execute t data).run j₀ = (.error failure, j) ↔
      (e.effective t).run j₀ = (.error failure, j) ∨
        ∃ nodes j₁ s node, (e.effective t).run j₀ = (.ok nodes, j₁) ∧
          e.Comes (e.start t data j₁) nodes s node ∧ e.Raises s node failure j := by
  rw [execute, Run.map_eq_error_iff, render, Run.bind_eq_error_iff]
  refine or_congr_right ⟨?_, ?_⟩
  · rintro ⟨nodes, j₁, hnodes, h⟩
    rw [renderAt_eq] at h
    obtain ⟨s, node, hcomes, hraises⟩ := renderFrom_error_iff (s := e.start t data j₁).1 h
    exact ⟨nodes, j₁, s, node, hnodes, hcomes, hraises⟩
  · rintro ⟨nodes, j₁, s, node, hnodes, hcomes, hraises⟩
    refine ⟨nodes, j₁, hnodes, ?_⟩
    rw [renderAt_eq]
    exact renderFrom_error_iff (s := e.start t data j₁).2 ⟨s, node, hcomes, hraises⟩

end Engine

end PromptMarkup
