import PromptMarkup.Proofs.Engine.Lineage
import PromptMarkup.Proofs.Render.Reached
/-!
# Render — the variables a render evaluates

Each time a render comes to a variable it records what the variable is
replaced by, and it records nothing else. So what a render adds to the reads
of a journal is an account of the evaluations it comes to (`InOrder`): every
one of them, each once and in the order in which they come, up to the node
that ends the render if there is one (`recounts_renderFrom`). There is but one
such account (`InOrder.unique`).
-/

namespace PromptMarkup

/-- The evaluation of a variable: where a render stands when it comes to the
variable. -/
structure Evaluation where
  stand : Stand
  info : NodeInfo
  path : String

namespace Evaluation

/-- What an evaluation finds, with the place of the variable. -/
def read (evaluation : Evaluation) : VariableRead :=
  ⟨evaluation.path, evaluation.info.position.line, evaluation.info.position.column,
    Engine.resolution evaluation.stand.ctx evaluation.info evaluation.path⟩

/-- Evaluations come one after another: each when what those before it found
was recorded, and nothing else. -/
def Successive : List VariableRead → List Evaluation → Prop
  | _, [] => True
  | before, first :: rest =>
    first.stand.journal.reads.toList = before ∧ Successive (before ++ [first.read]) rest

theorem successive_append {before : List VariableRead} {xs ys : List Evaluation} :
    Successive before (xs ++ ys) ↔
      Successive before xs ∧ Successive (before ++ xs.map read) ys := by
  induction xs generalizing before with
  | nil => simp [Successive]
  | cons first rest ih =>
    rw [List.cons_append, Successive, Successive, ih, and_assoc, List.map_cons,
      List.append_assoc, List.singleton_append]

/-- What was recorded before the first of them was recorded before each. -/
theorem Successive.length_le {before : List VariableRead} {evaluations : List Evaluation}
    (h : Successive before evaluations) :
    ∀ evaluation ∈ evaluations, before.length ≤ evaluation.stand.journal.reads.size := by
  induction evaluations generalizing before with
  | nil => exact fun _ hmem => absurd hmem List.not_mem_nil
  | cons first rest ih =>
    obtain ⟨hfirst, hrest⟩ := h
    intro evaluation hmem
    obtain rfl | hmem := List.mem_cons.1 hmem
    · have hsize : before.length = evaluation.stand.journal.reads.size := by
        rw [← hfirst, Array.length_toList]
      exact Nat.le_of_eq hsize
    · have hlater := ih hrest evaluation hmem
      rw [List.length_append, List.length_singleton] at hlater
      omega

/-- **None of them comes twice.** -/
theorem Successive.nodup {before : List VariableRead} {evaluations : List Evaluation}
    (h : Successive before evaluations) : evaluations.Nodup := by
  induction evaluations generalizing before with
  | nil => exact List.nodup_nil
  | cons first rest ih =>
    obtain ⟨hfirst, hrest⟩ := h
    refine List.nodup_cons.2 ⟨fun hmem => ?_, ih hrest⟩
    have hlater := hrest.length_le first hmem
    rw [← hfirst, List.length_append, List.length_singleton, Array.length_toList] at hlater
    omega

/-- **There is one order in which the same evaluations come.** -/
theorem Successive.unique {before : List VariableRead} {xs ys : List Evaluation}
    (hxs : Successive before xs) (hys : Successive before ys)
    (hmem : ∀ evaluation, evaluation ∈ xs ↔ evaluation ∈ ys) : xs = ys := by
  induction xs generalizing before ys with
  | nil =>
    have hnone : ∀ y, y ∉ ys := fun y hy => List.not_mem_nil ((hmem y).2 hy)
    exact (List.eq_nil_iff_forall_not_mem.2 hnone).symm
  | cons x rest ih =>
    cases ys with
    | nil => exact absurd ((hmem x).1 List.mem_cons_self) List.not_mem_nil
    | cons y rest' =>
      obtain ⟨hnew, _⟩ := List.nodup_cons.1 hxs.nodup
      obtain ⟨hnew', _⟩ := List.nodup_cons.1 hys.nodup
      obtain ⟨hx, hrest⟩ := hxs
      obtain ⟨_, hrest'⟩ := hys
      -- an evaluation that is not the first comes when more was recorded
      have hfirst : x = y := by
        obtain hsame | hlater := List.mem_cons.1 ((hmem x).1 List.mem_cons_self)
        · exact hsame
        · have hlength := hrest'.length_le x hlater
          rw [← hx, List.length_append, List.length_singleton, Array.length_toList] at hlength
          omega
      subst hfirst
      have hothers : ∀ evaluation, evaluation ∈ rest ↔ evaluation ∈ rest' := by
        intro evaluation
        have hboth := hmem evaluation
        rw [List.mem_cons, List.mem_cons] at hboth
        by_cases hsame : evaluation = x
        · rw [hsame]
          exact iff_of_false hnew hnew'
        · simpa only [hsame, false_or] using hboth
      rw [ih hrest hrest' hothers]

end Evaluation

open Evaluation

/-- These are the evaluations of all variables that are met, in the order in
which they come. -/
structure InOrder (Met : Stand → Node → Prop) (before : List VariableRead)
    (evaluations : List Evaluation) : Prop where
  mem_iff : ∀ s info path, ⟨s, info, path⟩ ∈ evaluations ↔ Met s (.var info path)
  successive : Successive before evaluations

/-- They are determined by what is met and what was recorded before. -/
theorem InOrder.unique {Met : Stand → Node → Prop} {before : List VariableRead}
    {xs ys : List Evaluation} (hxs : InOrder Met before xs) (hys : InOrder Met before ys) :
    xs = ys := by
  refine hxs.successive.unique hys.successive fun evaluation => ?_
  exact (hxs.mem_iff _ _ _).trans (hys.mem_iff _ _ _).symm

/-- What is recorded between two journals are the evaluations of the
variables that are met. -/
def Recounts (Met : Stand → Node → Prop) (j j' : Journal) : Prop :=
  ∃ evaluations, InOrder Met j.reads.toList evaluations ∧
    j'.reads.toList = j.reads.toList ++ evaluations.map Evaluation.read

namespace Recounts

variable {Met Met' : Stand → Node → Prop} {j j₁ j₂ : Journal}

/-- Where no variable is met nothing is recorded. -/
theorem nothing (hmet : ∀ s info path, ¬ Met s (.var info path)) (hreads : j₁.reads = j.reads) :
    Recounts Met j j₁ := by
  refine ⟨[], ⟨fun s info path => ?_, trivial⟩, ?_⟩
  · exact ⟨fun hmem => absurd hmem List.not_mem_nil, fun h => absurd h (hmet s info path)⟩
  · rw [hreads, List.map_nil, List.append_nil]

/-- What is recorded first and what is recorded then make what is recorded in
all. -/
theorem append (h : Recounts Met j j₁) (h' : Recounts Met' j₁ j₂) :
    Recounts (fun s node => Met s node ∨ Met' s node) j j₂ := by
  obtain ⟨xs, ⟨hmem, hxs⟩, hreads⟩ := h
  obtain ⟨ys, ⟨hmem', hys⟩, hreads'⟩ := h'
  refine ⟨xs ++ ys, ⟨fun s info path => ?_, ?_⟩, ?_⟩
  · rw [List.mem_append, hmem, hmem']
  · rw [hreads] at hys
    exact successive_append.2 ⟨hxs, hys⟩
  · rw [hreads', hreads, List.map_append, List.append_assoc]

theorem congr (h : Recounts Met j j₁)
    (hmet : ∀ s info path, Met' s (.var info path) ↔ Met s (.var info path)) :
    Recounts Met' j j₁ := by
  obtain ⟨evaluations, ⟨hmem, hsuccessive⟩, hreads⟩ := h
  exact ⟨evaluations, ⟨fun s info path => (hmem s info path).trans (hmet s info path).symm,
    hsuccessive⟩, hreads⟩

/-- Only the reads of the journal count from which it is told. -/
theorem of_reads {j' : Journal} (h : Recounts Met j' j₁) (hreads : j'.reads = j.reads) :
    Recounts Met j j₁ := by
  rwa [Recounts, ← hreads]

/-- One run after another recounts what is met in the first and, if that
succeeds, in the second. -/
theorem andThen {first next : Run Rendered} {Rest : Journal → Stand → Node → Prop}
    (hfirst : Recounts Met j (first.run j).2)
    (hnext : ∀ k, Recounts (Rest k) k (next.run k).2) :
    Recounts (fun s node => Met s node ∨ ∃ r k, first.run j = (.ok r, k) ∧ Rest k s node) j
      ((do
        let r ← first
        let more ← next
        pure (r.append more)).run j).2 := by
  rw [Tree.Effect.run_bind]
  rcases hrun : first.run j with ⟨failure | r, k⟩
  · rw [hrun] at hfirst
    refine hfirst.congr fun s info path => or_iff_left ?_
    rintro ⟨_, _, hok, _⟩
    cases hok
  · rw [hrun] at hfirst
    simp only [bind_pure_comp, Run.run_map]
    refine (hfirst.append (hnext k)).congr fun s info path => or_congr_right ?_
    constructor
    · rintro ⟨_, _, hok, hmet⟩
      cases hok
      exact hmet
    · exact fun hmet => ⟨r, k, rfl, hmet⟩

end Recounts

namespace Engine

variable {e : Engine} {s : Stand} {node : Node}

/-- Rendering a node comes to the node itself and to what it opens. -/
def Meets (e : Engine) (s : Stand) (node : Node) (s' : Stand) (node' : Node) : Prop :=
  s' = s ∧ node' = node ∨ ∃ s₁ body, e.Opens s node s₁ body ∧ e.Comes s₁ body s' node'

/-- Rendering nodes comes to what rendering the first does, and if that
succeeds to what rendering the others does. -/
theorem comes_cons_iff {rest : List Node} {s' : Stand} {node' : Node} :
    e.Comes s (node :: rest) s' node' ↔
      e.Meets s node s' node' ∨ ∃ r j, (e.nodeFrom s node).run s.journal = (.ok r, j) ∧
        e.Comes { s with journal := j } rest s' node' := by
  constructor
  · intro h
    cases h with
    | here => exact .inl (.inl ⟨rfl, rfl⟩)
    | later hfirst hrest => exact .inr ⟨_, _, hfirst, hrest⟩
    | inside hopens hbody => exact .inl (.inr ⟨_, _, hopens, hbody⟩)
  · rintro ((⟨rfl, rfl⟩ | ⟨s₁, body, hopens, hbody⟩) | ⟨r, j, hfirst, hrest⟩)
    · exact .here
    · exact .inside hopens hbody
    · exact .later hfirst hrest

/-- Rendering parts comes to what rendering one of them does, once those
before it are rendered. -/
def MeetsIn (e : Engine) (depth : Nat) (place : Place) (parts : List (Context × List Node))
    (j : Journal) (s' : Stand) (node' : Node) : Prop :=
  ∃ before ctx body after r j₁, parts = before ++ (ctx, body) :: after ∧
    (e.renderParts (e.enterAt depth) place before).run j = (.ok r, j₁) ∧
    e.Comes ⟨depth, place, ctx, j₁⟩ body s' node'

theorem meetsIn_cons_iff {depth : Nat} {place : Place} {ctx : Context} {body : List Node}
    {rest : List (Context × List Node)} {j : Journal} {s' : Stand} {node' : Node} :
    e.MeetsIn depth place ((ctx, body) :: rest) j s' node' ↔
      e.Comes ⟨depth, place, ctx, j⟩ body s' node' ∨
        ∃ r j₁, (e.renderAll (e.enterAt depth) place ctx body).run j = (.ok r, j₁) ∧
          e.MeetsIn depth place rest j₁ s' node' := by
  constructor
  · rintro ⟨before, ctx', body', after, r, j₁, hparts, hbefore, hcomes⟩
    cases before with
    | nil =>
      cases hparts
      cases hbefore
      exact .inl hcomes
    | cons first before =>
      cases hparts
      simp only [renderParts, Run.bind_eq_ok_iff, Run.pure_eq_ok_iff] at hbefore
      obtain ⟨r₁, j₂, hfirst, r₂, _, hmore, _, rfl⟩ := hbefore
      exact .inr ⟨r₁, j₂, hfirst, before, ctx', body', after, r₂, _, rfl, hmore, hcomes⟩
  · rintro (hcomes | ⟨r, j₁, hfirst, before, ctx', body', after, r', j₂, rfl, hbefore, hcomes⟩)
    · exact ⟨[], ctx, body, rest, .nothing, j, rfl, rfl, hcomes⟩
    · refine ⟨(ctx, body) :: before, ctx', body', after, r.append r', j₂, rfl, ?_, hcomes⟩
      simp only [renderParts, Run.bind_eq_ok_iff, Run.pure_eq_ok_iff]
      exact ⟨r, j₁, hfirst, r', j₂, hbefore, rfl, rfl⟩

/-- What is left of a failure records nothing. -/
theorem reads_recover (e : Engine) (place : Place) (info : NodeInfo) (tag : String)
    (failure : Failure) (j : Journal) :
    ((e.recover place info tag failure).run j).2.reads = j.reads := by
  cases hfatal : failure.isFatal with
  | true =>
    rw [recover_of_isFatal hfatal]
    rfl
  | false =>
    rw [recover_run hfatal]
    cases e.options.strategyFor info.strategy <;> rfl

/-- Parts recount their evaluations if each of them does. -/
theorem recounts_renderParts {depth : Nat} {place : Place} {parts : List (Context × List Node)}
    (inside : ∀ part ∈ parts, ∀ s : Stand, s.depth = depth →
      Recounts (e.Comes s part.2) s.journal ((e.renderFrom s part.2).run s.journal).2)
    (j : Journal) :
    Recounts (e.MeetsIn depth place parts j) j
      ((e.renderParts (e.enterAt depth) place parts).run j).2 := by
  induction parts generalizing j with
  | nil =>
    refine .nothing ?_ rfl
    rintro s info path ⟨before, ctx, body, after, _, _, hparts, _⟩
    exact absurd hparts (by simp)
  | cons part rest ih =>
    obtain ⟨ctx, body⟩ := part
    have hbody := inside (ctx, body) List.mem_cons_self ⟨depth, place, ctx, j⟩ rfl
    have hrest := ih fun part hpart => inside part (List.mem_cons_of_mem _ hpart)
    exact (hbody.andThen hrest).congr fun s info path => meetsIn_cons_iff

/-- A node that opens nothing recounts its own evaluation, if it is a
variable. -/
theorem recounts_of_closed {j : Journal} (hclosed : ∀ s₁ body, ¬ e.Opens s node s₁ body)
    (hreads : j.reads = ((record (node.read? s.ctx)).run s.journal).2.reads) :
    Recounts (e.Meets s node) s.journal j := by
  have hmeets : ∀ s' node', e.Meets s node s' node' ↔ s' = s ∧ node' = node := by
    refine fun s' node' => or_iff_left ?_
    rintro ⟨s₁, body, hopens, _⟩
    exact hclosed s₁ body hopens
  cases node with
  | var info path =>
    refine ⟨[⟨s, info, path⟩], ⟨fun s' info' path' => ?_, rfl, trivial⟩, ?_⟩
    · rw [hmeets, List.mem_singleton]
      simp
    · have hpush : j.reads.toList =
          (s.journal.reads.push (Evaluation.read ⟨s, info, path⟩)).toList :=
        congrArg Array.toList hreads
      rw [hpush, Array.toList_push, List.map_singleton]
  | _ =>
    refine .nothing (fun s' info path hmet => ?_) hreads
    obtain ⟨_, hnode⟩ := (hmeets _ _).1 hmet
    cases hnode

/-- A node that is no variable comes to the variables in what it opens. -/
theorem meets_iff_of_read (hread : node.read? s.ctx = none) {s' : Stand} {info : NodeInfo}
    {path : String} : e.Meets s node s' (.var info path) ↔
      ∃ s₁ body, e.Opens s node s₁ body ∧ e.Comes s₁ body s' (.var info path) := by
  refine or_iff_right ?_
  rintro ⟨_, rfl⟩
  cases hread

/-- **What a node opens** are its parts, if its course opens parts, -/
theorem opens_iff_of_opens {inTurn : Bool} {parts : List (Context × List Node)}
    {finish : Rendered → Rendered}
    (hcourse : e.course s.place s.ctx node = .opens inTurn parts finish) {s' : Stand}
    {node' : Node} :
    (∃ s₁ body, e.Opens s node s₁ body ∧ e.Comes s₁ body s' node') ↔
      e.MeetsIn s.depth { s.place with inTurn } parts s.journal s' node' := by
  constructor
  · rintro ⟨s₁, body, hopens, hcomes⟩
    cases hopens with
    | part hpart hbefore =>
      rw [hcourse] at hpart
      cases hpart
      exact ⟨_, _, _, _, _, _, rfl, hbefore, hcomes⟩
    | template hincludes =>
      rw [hcourse] at hincludes
      cases hincludes
  · rintro ⟨before, ctx, body, after, r, j, rfl, hbefore, hcomes⟩
    exact ⟨_, body, .part hcourse hbefore, hcomes⟩

/-- and else it is one template that it includes, -/
theorem Opens.unique_of_includes {info : NodeInfo} {name : String} {data : Option String}
    (hcourse : e.course s.place s.ctx node = .includes info name data) {s₁ s₂ : Stand}
    {nodes nodes' : List Node} (h : e.Opens s node s₁ nodes) (h' : e.Opens s node s₂ nodes') :
    s₂ = s₁ ∧ nodes' = nodes := by
  cases h with
  | part hpart =>
    rw [hcourse] at hpart
    cases hpart
  | template hincludes hdepth hload hnodes hctx =>
    cases h' with
    | part hpart =>
      rw [hcourse] at hpart
      cases hpart
    | template hincludes' hdepth' hload' hnodes' hctx' =>
      -- each step from the name to the nodes has one outcome
      rw [hincludes] at hincludes'
      cases hincludes'
      rw [hdepth] at hdepth'
      cases hdepth'
      rw [hload] at hload'
      cases hload'
      rw [hnodes] at hnodes'
      cases hnodes'
      rw [hctx] at hctx'
      cases hctx'
      exact ⟨rfl, rfl⟩

/-- before which nothing was recorded. -/
theorem Opens.reads_of_includes {info : NodeInfo} {name : String} {data : Option String}
    (hcourse : e.course s.place s.ctx node = .includes info name data) {s₁ : Stand}
    {nodes : List Node} (h : e.Opens s node s₁ nodes) : s₁.journal.reads = s.journal.reads := by
  cases h with
  | part hpart =>
    rw [hcourse] at hpart
    cases hpart
  | @template _ name _ _ t _ _ j₁ _ _ _ hload hnodes _ =>
    have hloaded := (grown_load e name s.journal).reads
    have hresolved := (grown_effective e t j₁).reads
    rw [hload] at hloaded
    rw [hnodes] at hresolved
    exact hresolved.trans hloaded

/-- An inclusion that comes to no template records nothing. -/
theorem reads_of_not_opens {info : NodeInfo} {name : String} {data : Option String}
    (hcourse : e.course s.place s.ctx node = .includes info name data)
    (hclosed : ∀ s₁ nodes, ¬ e.Opens s node s₁ nodes) :
    ((e.nodeFrom s node).run s.journal).2.reads = s.journal.reads := by
  cases hdepth : s.depth with
  | zero =>
    have hfails : e.Fails s node info Tag.includeTag _ s.journal := .tooDeep hcourse hdepth
    rw [hfails.run, reads_recover]
  | succ depth =>
    have hloaded := (grown_load e name s.journal).reads
    rcases hload : (e.load name).run s.journal with ⟨failure | _ | t, j₁⟩ <;> rw [hload] at hloaded
    · have hraises : e.Raises s node failure j₁ := .load hcourse hdepth hload
      rw [hraises.run, hloaded]
    · have hfails : e.Fails s node info Tag.includeTag _ j₁ := .unknown hcourse hdepth hload
      rw [hfails.run, reads_recover, hloaded]
    · have hresolved := (grown_effective e t j₁).reads
      rcases hnodes : (e.effective t).run j₁ with ⟨failure | nodes, j₂⟩ <;> rw [hnodes] at hresolved
      · have hraises : e.Raises s node failure j₂ := .inheritance hcourse hdepth hload hnodes
        rw [hraises.run, hresolved, hloaded]
      · cases hctx : s.ctx.forInclusion? data with
        | some ctx => exact absurd (.template hcourse hdepth hload hnodes hctx) (hclosed _ _)
        | none =>
          cases data with
          | none => cases hctx
          | some path =>
            have hdata : s.ctx.lookup? path = none := Option.map_eq_none_iff.1 hctx
            have hfails : e.Fails s node info Tag.includeTag _ j₂ :=
              .noData hcourse hdepth hload hnodes hdata
            rw [hfails.run, reads_recover, hresolved, hloaded]

/-- A node recounts the evaluations it comes to if its bodies do, and nodes
with fewer inclusions to go. -/
theorem recounts_nodeFrom
    (inside : ∀ body ∈ node.bodies, ∀ s₁ : Stand, s₁.depth = s.depth →
      Recounts (e.Comes s₁ body) s₁.journal ((e.renderFrom s₁ body).run s₁.journal).2)
    (below : ∀ s₁ : Stand, s₁.depth < s.depth → ∀ nodes,
      Recounts (e.Comes s₁ nodes) s₁.journal ((e.renderFrom s₁ nodes).run s₁.journal).2) :
    Recounts (e.Meets s node) s.journal ((e.nodeFrom s node).run s.journal).2 := by
  -- what opens neither parts nor a template has at most its own evaluation to tell of
  have hclosed : ∀ c, e.course s.place s.ctx node = c → (∀ inTurn parts finish,
      c ≠ .opens inTurn parts finish) → (∀ info name data, c ≠ .includes info name data) →
      ∀ s₁ body, ¬ e.Opens s node s₁ body := by
    rintro c rfl hopens hincludes s₁ body h
    cases h with
    | part hpart => exact hopens _ _ _ hpart
    | template hother => exact hincludes _ _ _ hother
  cases hcourse : e.course s.place s.ctx node with
  | done r =>
    refine recounts_of_closed (hclosed _ hcourse (by rintro _ _ _ ⟨⟩) (by rintro _ _ _ ⟨⟩)) ?_
    rw [nodeFrom, renderNode_eq, hcourse, Tree.Effect.run_bind]
    cases node.read? s.ctx <;> rfl
  | fails info tag failure =>
    have hfails : e.Fails s node info tag failure _ := .own hcourse
    refine recounts_of_closed (hclosed _ hcourse (by rintro _ _ _ ⟨⟩) (by rintro _ _ _ ⟨⟩)) ?_
    rw [hfails.run, reads_recover]
  | refused failure =>
    have hrefused : e.Raises s node failure s.journal := .refused hcourse
    obtain ⟨_, _, _, _, rfl, _⟩ := fits_of_course hcourse
    refine recounts_of_closed (hclosed _ hcourse (by rintro _ _ _ ⟨⟩) (by rintro _ _ _ ⟨⟩)) ?_
    rw [hrefused.run]
    rfl
  | opens inTurn parts finish =>
    obtain ⟨hread, hbodies⟩ := fits_of_course hcourse
    have hparts := @recounts_renderParts e s.depth { s.place with inTurn } parts
      (fun part hpart s₁ hdepth => inside part.2 (hbodies part hpart) s₁ hdepth) s.journal
    have hrun : e.nodeFrom s node =
        finish <$> e.renderParts (e.enterAt s.depth) { s.place with inTurn } parts := by
      rw [nodeFrom, renderNode_eq, hread, hcourse]
      rfl
    rw [hrun, Run.run_map]
    exact hparts.congr fun s' info path =>
      (meets_iff_of_read hread).trans (opens_iff_of_opens hcourse)
  | includes info name data =>
    have hread : node.read? s.ctx = none := by
      rw [fits_of_course hcourse]
      rfl
    by_cases hopened : ∃ s₁ nodes, e.Opens s node s₁ nodes
    · obtain ⟨s₁, nodes, hopens⟩ := hopened
      obtain ⟨hdepth, hrun⟩ := hopens.run_of_includes hcourse
      have hreads := hopens.reads_of_includes hcourse
      rw [hrun]
      refine ((below s₁ hdepth nodes).of_reads hreads).congr fun s' info path => ?_
      rw [meets_iff_of_read hread]
      constructor
      · rintro ⟨s₂, body, hother, hcomes⟩
        obtain ⟨rfl, rfl⟩ := hopens.unique_of_includes hcourse hother
        exact hcomes
      · exact fun hcomes => ⟨s₁, nodes, hopens, hcomes⟩
    · have hnone : ∀ s₁ nodes, ¬ e.Opens s node s₁ nodes :=
        fun s₁ nodes hopens => hopened ⟨s₁, nodes, hopens⟩
      refine recounts_of_closed hnone ?_
      rw [reads_of_not_opens hcourse hnone, hread]
      rfl

/-- **Rendering recounts the evaluations it comes to.** -/
theorem recounts_renderFrom (s : Stand) (nodes : List Node) :
    Recounts (e.Comes s nodes) s.journal ((e.renderFrom s nodes).run s.journal).2 := by
  -- each inclusion that is opened takes one from the depth
  induction hdepth : s.depth using Nat.strongRecOn generalizing s nodes with
  | ind depth ihdepth =>
  induction nodes using Node.inductionAll generalizing s with
  | nil => exact .nothing (fun _ _ _ h => by cases h) rfl
  | cons node rest inside ih =>
    have hnode : Recounts (e.Meets s node) s.journal ((e.nodeFrom s node).run s.journal).2 :=
      recounts_nodeFrom (fun body hbody s₁ hsame => inside body hbody s₁ (hsame.trans hdepth))
        fun s₁ hless nodes => ihdepth s₁.depth (hdepth ▸ hless) s₁ nodes rfl
    have hrest : ∀ k, Recounts (e.Comes { s with journal := k } rest) k
        ((e.renderAll (e.enterAt s.depth) s.place s.ctx rest).run k).2 :=
      fun k => ih { s with journal := k } hdepth
    exact (hnode.andThen hrest).congr fun s' info path => comes_cons_iff

end Engine

end PromptMarkup
