import PromptMarkup.Proofs.DryRun.Listing
import PromptMarkup.Proofs.DryRun.Prediction
import PromptMarkup.Proofs.Engine.Involved
import PromptMarkup.Proofs.Render.Literal
import PromptMarkup.Proofs.Tree.Branches
/-!
# Render — where a condition is said to fail

A choice leaves the failure of a condition to its strategy, and places it first
if it has no place. It places it where the choice stands, whichever of its
branches the condition belongs to, while a dry run warns of the condition where
its branch stands. The two are one place for the first branch and for no other
(`Engine.condition_placed_iff`).
-/

namespace PromptMarkup

/-! ## Branches of written choices -/

/-- The branches of a choice. -/
def Node.branches : Node → List Branch
  | .choice _ branches _ => branches
  | _ => []

/-- The conditions in nodes, at any depth and in document order. -/
def Node.conditions (nodes : List Node) : List Branch :=
  (withinAll nodes).flatMap branches

theorem Node.eq_choice_of_branches {node : Node} {branch : Branch} {rest : List Branch}
    (h : node.branches = branch :: rest) :
    ∃ info otherwise, node = .choice info (branch :: rest) otherwise := by
  cases node with
  | choice info branches otherwise =>
    obtain rfl : branches = branch :: rest := h
    exact ⟨info, otherwise, rfl⟩
  | _ => cases h

@[simp] theorem Node.staggered_bare (node : Node) : node.bare.Staggered ↔ node.Staggered := by
  cases node with
  | choice info branches otherwise =>
    have hplaces : (branches.map (·.mapBody fun _ => [])).map Branch.position =
        branches.map Branch.position := by
      rw [List.map_map]
      refine List.map_congr_left fun branch _ => ?_
      cases branch
      rfl
    rw [bare, mapBodies, Staggered, Staggered, hplaces]
  | _ => rfl

/-- **Only the first branch stands where its choice does**, if the choice was
written in an accepted template. -/
theorem Template.same_place_iff {d d' : Delimiters} {rs : Resolvers} {name source : String}
    {t : Template} {origin : Node} {info : NodeInfo} {before after : List Branch} {branch : Branch}
    {otherwise : Option (List Node)} (hcheck : d.check = .ok d')
    (h : Template.parse d rs name source = .ok t) (horigin : origin ∈ Node.withinAll t.tree.nodes)
    (hbare : origin.bare = (Node.choice info (before ++ branch :: after) otherwise).bare) :
    branch.position.line = info.position.line ∧ branch.position.column = info.position.column ↔
      before = [] := by
  have hopening := Delimiters.opening_ne_nil_of_check hcheck
  have hwritten : (Node.choice info (before ++ branch :: after) otherwise).Staggered := by
    rw [← Node.staggered_bare, ← hbare, Node.staggered_bare]
    exact Template.staggered_of_parse hopening h origin horigin
  rw [Node.Staggered, List.map_append, List.map_cons] at hwritten
  rw [hwritten.same_iff, List.map_eq_nil_iff]

/-! ## Warnings -/

namespace DryRun

theorem lists_warnings : Lists Survey.warnings := ⟨rfl, fun _ _ => rfl, fun _ => rfl⟩

/-- **A survey warns of the conditions** of its nodes, of one after another. -/
theorem warnings_of_surveyAll {g : Ground} {inTurn : Bool} {nodes : List Node} {survey : Survey}
    (h : surveyAll g inTurn nodes = .ok survey) :
    survey.warnings = (Node.conditions nodes).flatMap (branchWarnings g) := by
  have hlist : survey.warnings.map id =
      (Node.withinAll nodes).flatMap fun node => node.branches.flatMap (branchWarnings g) := by
    refine lists_warnings.surveyAll (fun node => ?_) h
    rw [List.map_id]
    cases node with
    | choice info branches otherwise => exact lists_warnings.conditions branches
    | _ => rfl
  rw [← List.map_id survey.warnings, hlist, Node.conditions, List.flatMap_assoc]

/-- A survey warns of every condition that could not be evaluated, where its
branch stands. -/
theorem unevaluated_of_surveyAll {g : Ground} {inTurn : Bool} {nodes : List Node}
    {survey : Survey} (h : surveyAll g inTurn nodes = .ok survey) {info : NodeInfo}
    {branches : List Branch} {otherwise : Option (List Node)}
    (hchoice : .choice info branches otherwise ∈ Node.withinAll nodes) {branch : Branch}
    (hbranch : branch ∈ branches) {failure : Failure}
    (hfails : branchHolds g branch = .error failure) :
    unevaluated branch failure ∈ survey.warnings := by
  rw [warnings_of_surveyAll h]
  refine List.mem_flatMap.2 ⟨branch, List.mem_flatMap.2 ⟨_, hchoice, hbranch⟩, ?_⟩
  rw [branchWarnings_of_error hfails]
  exact List.mem_singleton_self _

end DryRun

/-- A failure that has a place keeps it. -/
theorem Failure.orAt_of_position? {failure : Failure} {p q : Position}
    (h : failure.position? = some q) : failure.orAt p = failure := by
  cases failure with
  | eval fault position =>
    obtain rfl : position = some q := h
    rfl
  | render fault cause position =>
    obtain rfl : position = some q := h
    rfl
  | _ => rfl

namespace Engine

variable {e : Engine} {place : Place} {ctx : Context} {info : NodeInfo}
  {before after : List Branch} {branch : Branch} {otherwise : Option (List Node)}
  {failure : Failure}

/-- So does a dry run. -/
theorem unevaluated_of_dryRun {t : Template} {data : Value} {j j₁ j₂ : Journal}
    {nodes : List Node} {report : DryRun.Report} (hnodes : (e.effective t).run j = (.ok nodes, j₁))
    (h : (e.dryRun t data).run j = (.ok report, j₂)) {branches : List Branch}
    (hchoice : .choice info branches otherwise ∈ Node.withinAll nodes) (hbranch : branch ∈ branches)
    (hfails : branch.condition.holds { root := data } e.functions = .error failure) :
    DryRun.unevaluated branch failure ∈ report.warnings := by
  obtain ⟨_, survey, heffective, hsurvey, rfl⟩ := of_dryRun h
  rw [hnodes] at heffective
  cases heffective
  refine List.mem_append_left _ (List.mem_append_left _ ?_)
  exact DryRun.unevaluated_of_surveyAll hsurvey hchoice hbranch hfails

/-! ## Failures of conditions -/

/-- The first condition that does not come out false decides; if it fails, no
body is picked. -/
theorem pick_of_fails (hbefore : ∀ earlier ∈ before,
      earlier.condition.holds ctx e.functions = .ok false)
    (hfails : branch.condition.holds ctx e.functions = .error failure) :
    pick ctx e.functions otherwise (before ++ branch :: after) = .error failure := by
  induction before with
  | nil =>
    obtain ⟨position, source, condition, body⟩ := branch
    rw [Branch.condition] at hfails
    rw [List.nil_append, pick, hfails]
  | cons first rest ih =>
    obtain ⟨hfirst, hrest⟩ := List.forall_mem_cons.1 hbefore
    obtain ⟨position, source, condition, body⟩ := first
    rw [Branch.condition] at hfirst
    rw [List.cons_append, pick, hfirst]
    exact ih hrest

/-- A choice that picks no body leaves the failure to its strategy. -/
theorem renderNode_choice_of_pick_error {enter : Option Renderer} {branches : List Branch}
    (hpick : pick ctx e.functions otherwise branches = .error failure) :
    e.renderNode enter place ctx (.choice info branches otherwise) =
      e.recover place info Tag.ifTag (nodeFailure Tag.ifTag info failure) := by
  rw [renderNode_eq, course, hpick]
  rfl

/-- A failure without a place is placed where the node stands. -/
theorem position?_nodeFailure (tag : String) (info : NodeInfo) (h : failure.position? = none) :
    (nodeFailure tag info failure).position? = some info.position := by
  cases failure with
  | eval fault position =>
    obtain rfl : position = none := h
    rfl
  | render fault cause position =>
    obtain rfl : position = none := h
    rfl
  | _ => rfl

/-- **The failure of a condition is placed where its choice stands.** Let the
conditions before a branch be false and its own fail without a place. What is
left to the strategy of the choice, and raised if the strategy raises, has the
place of the choice. A dry run on the same data warns of the condition where
its branch stands. That is the same line and column for the first branch of a
choice that was written in an accepted template, and another one for each of
the others. -/
theorem condition_placed_iff
    (hbefore : ∀ earlier ∈ before, earlier.condition.holds ctx e.functions = .ok false)
    (hfails : branch.condition.holds ctx e.functions = .error failure)
    (hplace : failure.position? = none) :
    (∃ handed : Failure, handed.isFatal = false ∧ handed.position? = some info.position ∧
      ∀ enter place,
        e.renderNode enter place ctx (.choice info (before ++ branch :: after) otherwise) =
          e.recover place info Tag.ifTag handed ∧
        (e.options.strategyFor info.strategy = .raise → ∀ j,
          (e.renderNode enter place ctx
            (.choice info (before ++ branch :: after) otherwise)).run j = (.error handed, j))) ∧
    (∀ (t : Template) (data : Value) (nodes : List Node) (report : DryRun.Report)
      (j j₁ j₂ : Journal), ctx = { root := data } → (e.effective t).run j = (.ok nodes, j₁) →
      .choice info (before ++ branch :: after) otherwise ∈ Node.withinAll nodes →
      (e.dryRun t data).run j = (.ok report, j₂) →
      DryRun.unevaluated branch failure ∈ report.warnings) ∧
    ∀ (d d' : Delimiters) (rs : Resolvers) (name source : String) (t : Template) (origin : Node),
      d.check = .ok d' → Template.parse d rs name source = .ok t →
      origin ∈ Node.withinAll t.tree.nodes →
      origin.bare = (Node.choice info (before ++ branch :: after) otherwise).bare →
      (branch.position.line = info.position.line ∧ branch.position.column = info.position.column ↔
        before = []) := by
  have hposition := position?_nodeFailure Tag.ifTag info hplace
  refine ⟨⟨_, isFatal_nodeFailure _ _ _, hposition, fun enter place => ?_⟩, ?_, ?_⟩
  · have hrender :
        e.renderNode enter place ctx (.choice info (before ++ branch :: after) otherwise) =
          e.recover place info Tag.ifTag (nodeFailure Tag.ifTag info failure) :=
      renderNode_choice_of_pick_error (pick_of_fails hbefore hfails)
    refine ⟨hrender, fun hraise j => ?_⟩
    -- it has its place, so the strategy gives it no other
    rw [hrender, recover_run (isFatal_nodeFailure _ _ _), hraise,
      Failure.orAt_of_position? hposition]
    rfl
  · rintro t data nodes report j j₁ j₂ rfl hnodes hchoice hdry
    have hmem : branch ∈ before ++ branch :: after :=
      List.mem_append_right _ List.mem_cons_self
    exact unevaluated_of_dryRun hnodes hdry hchoice hmem hfails
  · intro d d' rs name source t origin hcheck hparse horigin hbare
    exact Template.same_place_iff hcheck hparse horigin hbare

end Engine

namespace Sample

/-- A choice whose second condition calls a function that there is not. -/
def fork : String :=
  tagged "prompty.if eval=\"x\"" ++ "a" ++ tagged "prompty.elseif eval=\"nope()\"" ++ "b" ++
    tagged "/prompty.if"

/-- The template of it, which an engine accepts. -/
def crossroads : { t : Template // ({} : Engine).parse "crossroads" fork = .ok t } :=
  ⟨template {} "crossroads" fork, parse_template (by decide +kernel)⟩

/-- What the condition of a branch comes to without data and functions. -/
def verdict (branch : Branch) : Bool ⊕ Failure :=
  match branch.condition.holds { root := .record [] } [] with
  | .ok held => .inl held
  | .error failure => .inr failure

theorem holds_of_verdict {branch : Branch} {held : Bool} (h : verdict branch = .inl held) :
    branch.condition.holds { root := .record [] } [] = .ok held := by
  rw [verdict] at h
  cases hholds : branch.condition.holds { root := .record [] } [] with
  | ok found => rw [hholds] at h; cases h; rfl
  | error failure => rw [hholds] at h; cases h

theorem fails_of_verdict {branch : Branch} {failure : Failure} (h : verdict branch = .inr failure) :
    branch.condition.holds { root := .record [] } [] = .error failure := by
  rw [verdict] at h
  cases hholds : branch.condition.holds { root := .record [] } [] with
  | ok found => rw [hholds] at h; cases h
  | error found => rw [hholds] at h; cases h; rfl

/-- The template is a choice of two branches. The first condition is false, and
the second fails. -/
theorem crossroads_nodes :
    ∃ info first second otherwise,
      crossroads.1.tree.nodes = [.choice info [first, second] otherwise] ∧
      info.strategy = none ∧ first.position = ⟨1, 1, 0⟩ ∧ second.position = ⟨1, 25, 24⟩ ∧
      first.condition.holds { root := .record [] } [] = .ok false ∧
      second.condition.holds { root := .record [] } [] =
        .error (.eval (.unknownFunction "nope") none) := by
  have hnodes : crossroads.1.tree.nodes.map (fun node => (node.strategy?, node.branches.map
      fun branch => (branch.position, verdict branch))) =
      [(none, [(⟨1, 1, 0⟩, .inl false),
        (⟨1, 25, 24⟩, .inr (.eval (.unknownFunction "nope") none))])] := by decide +kernel
  obtain ⟨node, hnode, hshape⟩ := List.map_eq_singleton_iff.1 hnodes
  obtain ⟨hstrategy, hbranches⟩ := Prod.mk.inj hshape
  obtain ⟨first, rest, hlist, hfirst, hrest⟩ := List.map_eq_cons_iff.1 hbranches
  obtain ⟨second, rfl, hsecond⟩ := List.map_eq_singleton_iff.1 hrest
  obtain ⟨info, otherwise, rfl⟩ := Node.eq_choice_of_branches hlist
  obtain ⟨hplace, hfalse⟩ := Prod.mk.inj hfirst
  obtain ⟨hplace', hfails⟩ := Prod.mk.inj hsecond
  exact ⟨info, first, second, otherwise, hnode, hstrategy, hplace, hplace',
    holds_of_verdict hfalse, fails_of_verdict hfails⟩

/-- **The second condition fails where the first one stands.** Its own tag, and
the warning of a dry run, are 24 columns further right. -/
theorem condition_of_second_branch :
    (∃ j', (({} : Engine).execute crossroads.1 (.record [])).run {} =
      (.error (.eval (.unknownFunction "nope") (some ⟨1, 1, 0⟩)), j')) ∧
    (∃ info first second otherwise,
      crossroads.1.tree.nodes = [.choice info [first, second] otherwise] ∧
      first.position = ⟨1, 1, 0⟩ ∧ second.position = ⟨1, 25, 24⟩) ∧
    ∃ report j', (({} : Engine).dryRun crossroads.1 (.record [])).run {} = (.ok report, j') ∧
      report.warnings = ["condition \"nope()\" at line 1, column 25 could not be evaluated: " ++
        "unknown function \"nope\""] := by
  refine ⟨run_error _ _ (by decide +kernel), ?_, ?_⟩
  · obtain ⟨info, first, second, otherwise, hnodes, -, hfirst, hsecond, -⟩ := crossroads_nodes
    exact ⟨info, first, second, otherwise, hnodes, hfirst, hsecond⟩
  · exact run_ok (({} : Engine).dryRun crossroads.1 (.record [])) {} _ (by decide +kernel)

/-- It is left to the strategy where the choice stands, by which its own place
is another one. -/
theorem condition_placed_iff_crossroads :
    ∃ info first second otherwise,
      crossroads.1.tree.nodes = [.choice info [first, second] otherwise] ∧
      second.condition.holds { root := .record [] } [] =
        .error (.eval (.unknownFunction "nope") none) ∧
      (∃ handed : Failure, handed.position? = some info.position ∧ ∀ enter place j,
        (({} : Engine).renderNode enter place { root := .record [] }
          (.choice info [first, second] otherwise)).run j = (.error handed, j)) ∧
      ¬ (second.position.line = info.position.line ∧
        second.position.column = info.position.column) := by
  obtain ⟨info, first, second, otherwise, hnodes, hstrategy, -, -, hfalse, hfails⟩ :=
    crossroads_nodes
  have hbefore : ∀ earlier ∈ [first],
      earlier.condition.holds { root := .record [] } ({} : Engine).functions = .ok false :=
    List.forall_mem_singleton.2 hfalse
  have hraise : ({} : Engine).options.strategyFor info.strategy = .raise := by
    rw [hstrategy]
    rfl
  obtain ⟨⟨handed, -, hposition, hrender⟩, -, hsame⟩ :=
    @Engine.condition_placed_iff {} { root := .record [] } info [first] [] second otherwise _
      hbefore hfails rfl
  have hmem : .choice info [first, second] otherwise ∈ Node.withinAll crossroads.1.tree.nodes :=
    Node.mem_withinAll_of_mem (hnodes ▸ List.mem_cons_self)
  refine ⟨info, first, second, otherwise, hnodes, hfails, ⟨handed, hposition, ?_⟩, ?_⟩
  · exact fun enter place j => (hrender enter place).2 hraise j
  · rw [hsame .standard .standard _ _ _ _ _ rfl crossroads.2 hmem rfl]
    exact List.cons_ne_nil _ _

end Sample

end PromptMarkup
