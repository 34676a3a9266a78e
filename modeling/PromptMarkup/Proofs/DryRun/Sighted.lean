import PromptMarkup.Proofs.DryRun.Listing
import PromptMarkup.Proofs.Render.Explained
import PromptMarkup.Proofs.Value.Lookup
/-!
# DryRun — variables that the data has

A dry run looks every variable up in the data alone; a render looks it up from
its scopes, and outside of loops there are none. One would have the two agree:
a variable is in the data just where a render finds it. They part over paths
that begin with a point. The data is asked for the field of the empty name
there as for any other, while a context refuses every path whose first segment
is empty. So a variable may be reported as in the data that no render finds
(`Engine.sighted_iff_found`), and that is all that can go wrong.
-/

namespace PromptMarkup

/-- The path begins with a point, so that its first segment is empty. -/
def Path.IsPointed (path : String) : Prop :=
  path.toList.head? = some '.'

/-- The first segment of a path that begins with a point is empty. -/
theorem Path.exists_segments_of_isPointed {path : String} (h : IsPointed path) :
    ∃ rest, segments path = "" :: rest := by
  obtain ⟨after, hpath⟩ : ∃ after, path.toList = '.' :: after := by
    cases hlist : path.toList with
    | nil => rw [IsPointed, hlist] at h; cases h
    | cons c after =>
      rw [IsPointed, hlist] at h
      cases h
      exact ⟨after, rfl⟩
  have hbreak : Text.breakOn ".".toList path.toList = some ([], after) := by
    rw [hpath]
    rfl
  refine ⟨(Text.splitOn ".".toList after).map String.ofList, ?_⟩
  rw [segments, Text.split, Text.splitOn_eq (by decide), hbreak]
  rfl

/-- A context refuses such a path, whatever it holds. -/
theorem Context.lookup?_of_isPointed {path : String} (h : Path.IsPointed path) (ctx : Context) :
    ctx.lookup? path = none := by
  obtain ⟨rest, hsegments⟩ := Path.exists_segments_of_isPointed h
  rw [lookup?, hsegments]
  rfl

/-- **A context without scopes has what the data has**, but for a path that
begins with a point and leads somewhere in the data. -/
theorem Context.lookup?_root_eq_iff (data : Value) (path : String) :
    ({ root := data } : Context).lookup? path = data.lookup? path ↔
      (Path.IsPointed path → data.lookup? path = none) := by
  constructor
  · intro hsame hpointed
    rw [← hsame, lookup?_of_isPointed hpointed]
  · intro hnowhere
    by_cases hpointed : Path.IsPointed path
    · rw [lookup?_of_isPointed hpointed, hnowhere hpointed]
    · exact lookup?_root hpointed

/-- Behind the first segment an empty name is a name like any other. -/
example : (({ root := .ofFields [("a", .ofFields [("", .ofNat 1)])] } : Context).lookup?
    "a.").isSome = true := by
  decide +kernel

namespace DryRun

variable {g : Ground} {inTurn : Bool} {nodes : List Node} {survey : Survey} {use : VariableUse}

/-- Every entry on a variable is that of a node. -/
theorem exists_var_of_surveyAll (h : surveyAll g inTurn nodes = .ok survey)
    (huse : use ∈ survey.vars) :
    ∃ info path, .var info path ∈ Node.withinAll nodes ∧ (surveyVar g info path).vars = [use] := by
  have hlist : survey.vars.map id =
      (Node.withinAll nodes).flatMap fun node => (ownSurvey g node).vars :=
    lists_vars.surveyAll (fun _ => List.map_id _) h
  rw [List.map_id] at hlist
  rw [hlist] at huse
  obtain ⟨node, hnode, hown⟩ := List.mem_flatMap.1 huse
  cases node with
  | var info path =>
    obtain rfl := List.mem_singleton.1 hown
    exact ⟨info, path, hnode, rfl⟩
  | choice info branches otherwise =>
    rw [lists_vars.ownSurvey_choice fun _ => rfl] at hown
    exact absurd hown List.not_mem_nil
  | _ => exact absurd hown List.not_mem_nil

/-- A variable is met where the data has it or has it not. -/
theorem inData_of_surveyAll (h : surveyAll g inTurn nodes = .ok survey)
    (huse : use ∈ survey.vars) : use.inData = (g.data.lookup? use.name).isSome := by
  obtain ⟨info, path, _, hown⟩ := exists_var_of_surveyAll h huse
  cases hown
  rfl

/-- Advice leaves the rest of an entry. -/
theorem VariableUse.inData_advised (candidates : List String) (use : VariableUse) :
    (use.advised candidates).inData = use.inData ∧ (use.advised candidates).name = use.name := by
  rw [advised]
  split <;> exact ⟨rfl, rfl⟩

end DryRun

/-- Binding a name leaves the data as they are. -/
@[simp] theorem Context.root_bind (ctx : Context) (name : String) (value : Value) :
    (ctx.bind name value).root = ctx.root := by
  rw [bind]
  cases ctx.scopes <;> rfl

namespace Engine

variable {e : Engine} {t : Template} {data : Value}

/-! ## Where a render finds its data -/

/-- A round of a loop has the data of the loop. -/
theorem root_roundContext (ctx : Context) (head : LoopHead) (round : Value × Value) :
    (roundContext ctx head round).root = ctx.root := by
  rw [roundContext]
  cases head.index <;> simp only [Context.root_bind, Context.push]

/-- What a node opens of its own has the data of the node. -/
theorem root_of_course {place : Place} {ctx : Context} {node : Node} {inTurn : Bool}
    {parts : List (Context × List Node)} {finish : Rendered → Rendered}
    (h : e.course place ctx node = .opens inTurn parts finish) :
    ∀ part ∈ parts, part.1.root = ctx.root := by
  cases node with
  | loop info head body =>
    rw [course] at h
    split at h
    · cases h
      exact List.forall_mem_map.2 fun round _ => root_roundContext ctx head round
    · cases h
  | _ =>
    simp only [course] at h
    -- of the others each that opens a body opens it in the context of the node
    repeat' split at h
    all_goals first
      | (cases h; exact List.forall_mem_singleton.2 rfl)
      | cases h

/-- **Outside of included templates a render has the data it was given.** -/
theorem Comes.root_eq {s s' : Stand} {nodes : List Node} {node : Node}
    (h : e.Comes s nodes s' node) :
    s'.depth ≤ s.depth ∧ (s'.depth = s.depth → s'.ctx.root = s.ctx.root) := by
  induction h with
  | here => exact ⟨Nat.le_refl _, fun _ => rfl⟩
  | later _ _ ih => exact ih
  | inside hopens _ ih =>
    obtain ⟨hle, hroot⟩ := ih
    cases hopens with
    | part hcourse =>
      have hpart := root_of_course hcourse _ (List.mem_append_right _ List.mem_cons_self)
      exact ⟨hle, fun hdepth => (hroot hdepth).trans hpart⟩
    | template _ hdepth =>
      -- an inclusion has taken one from the depth
      simp only [hdepth] at hle ⊢
      exact ⟨by omega, fun hsame => by omega⟩

/-- The evaluations of the template itself have its data. -/
theorem Evaluates.root_eq {j : Journal} {evaluations : List Evaluation}
    (h : e.Evaluates t data j evaluations) {evaluation : Evaluation}
    (hmem : evaluation ∈ evaluations) (hdepth : evaluation.stand.depth = e.options.maxDepth) :
    evaluation.stand.ctx.root = data := by
  obtain ⟨nodes, j₁, _, hcomes⟩ := (h.mem_iff _ _ _).1 hmem
  exact hcomes.root_eq.2 hdepth

/-! ## What is said of a variable, and what is found -/

/-- A dry run looks variables up in the data alone. -/
theorem inData_of_dryRun {j j' : Journal} {report : DryRun.Report}
    (h : (e.dryRun t data).run j = (.ok report, j')) {use : DryRun.VariableUse}
    (huse : use ∈ report.vars) : use.inData = (data.lookup? use.name).isSome := by
  obtain ⟨nodes, survey, _, hsurvey, rfl⟩ := of_dryRun h
  obtain ⟨met, hmet, rfl⟩ := List.mem_map.1 huse
  obtain ⟨hinData, hname⟩ := met.inData_advised data.paths
  rw [hinData, hname]
  exact DryRun.inData_of_surveyAll hsurvey hmet

/-- A render finds a variable just where its context has it. -/
theorem isFound_read (evaluation : Evaluation) :
    evaluation.read.resolution.isFound =
      (evaluation.stand.ctx.lookup? evaluation.path).isSome := by
  rw [Evaluation.read, resolution]
  cases evaluation.stand.ctx.lookup? evaluation.path with
  | some value => rfl
  | none => cases evaluation.info.fallback <;> rfl

/-- **The data and a context that has nothing else agree on a path** unless it
begins with a point and leads somewhere in the data; then the data has a value
and no context has one. So what a dry run says of a variable, that it is in the
data, holds of each evaluation of it in the template outside of loops if its
path does not do that, and is wrong of each if it does. -/
theorem sighted_iff_found (data : Value) (path : String) :
    (({ root := data } : Context).lookup? path = data.lookup? path ↔
      ¬ (Path.IsPointed path ∧ (data.lookup? path).isSome)) ∧
    (Path.IsPointed path → ∀ ctx : Context, ctx.lookup? path = none) ∧
    ∀ (e : Engine) (t : Template) (j j' j₁ : Journal) (report : DryRun.Report)
      (evaluations : List Evaluation),
      (e.dryRun t data).run j = (.ok report, j') → e.Evaluates t data j₁ evaluations →
      ∀ use ∈ report.vars, ∀ evaluation ∈ evaluations,
        use.name = path → evaluation.path = path →
        evaluation.stand.depth = e.options.maxDepth → evaluation.stand.ctx.scopes = [] →
        ((use.inData = true ↔ evaluation.read.resolution.isFound = true) ↔
          ¬ (Path.IsPointed path ∧ (data.lookup? path).isSome)) := by
  have hcond : ¬ (Path.IsPointed path ∧ (data.lookup? path).isSome) ↔
      (Path.IsPointed path → data.lookup? path = none) := by
    rw [not_and, Option.not_isSome_iff_eq_none]
  refine ⟨(Context.lookup?_root_eq_iff data path).trans hcond.symm,
    fun hpointed ctx => Context.lookup?_of_isPointed hpointed ctx, ?_⟩
  intro e t j j' j₁ report evaluations hdry hevaluates use huse evaluation hmem hname hpath
    hdepth hscopes
  have hctx : evaluation.stand.ctx = { root := data } := by
    have hroot := hevaluates.root_eq hmem hdepth
    cases hstand : evaluation.stand.ctx with
    | mk root scopes =>
      rw [hstand] at hroot hscopes
      rw [← hroot, ← hscopes]
  rw [inData_of_dryRun hdry huse, hname, isFound_read, hctx, hpath, hcond]
  constructor
  · intro hsame hpointed
    rw [Context.lookup?_of_isPointed hpointed] at hsame
    exact Option.not_isSome_iff_eq_none.1 fun hsome => nomatch hsame.1 hsome
  · intro hnowhere
    rw [(Context.lookup?_root_eq_iff data path).2 hnowhere]

end Engine

namespace Sample

/-- A field of the empty name, and one of the same name below it and beside
it. -/
def unnamed : Value :=
  .ofFields [("", .ofFields [("a", .ofNat 1)]), ("a", .ofNat 2)]

/-- One variable. -/
def lone (path : String) : Template :=
  template {} "lone" (tagged ("prompty.var name=\"" ++ path ++ "\" /"))

/-- **A path that begins with a point is in the data and is not found.** -/
theorem pointed_unseen :
    (unnamed.lookup? ".a").isSome = true ∧
      ({ root := unnamed } : Context).lookup? ".a" = none ∧
      (∃ report j', (({} : Engine).dryRun (lone ".a") unnamed).run {} = (.ok report, j') ∧
        report.valid = true ∧ report.text = "1" ∧ report.vars.map (·.inData) = [true]) ∧
      ∃ info j', (({} : Engine).execute (lone ".a") unnamed).run {} =
        (.error (Engine.fault info (.variableNotFound ".a")), j') := by
  have hdry := run_ok (({} : Engine).dryRun (lone ".a") unnamed) {}
    (fun report => report.valid = true ∧ report.text = "1" ∧ report.vars.map (·.inData) = [true])
    (by decide +kernel)
  refine ⟨by decide +kernel, Context.lookup?_of_isPointed (by simp [Path.IsPointed]) _, ?_, ?_⟩
  · obtain ⟨report, j', hrun, hreport⟩ := hdry
    exact ⟨report, j', hrun, hreport⟩
  · exact ⟨⟨⟨0, 0⟩, ⟨1, 1, 0⟩, "", none, none⟩, run_error _ _ (by decide +kernel)⟩

/-- Without the point both find the field beside it. -/
theorem sighted_iff_found_lone :
    ∃ report j' evaluations evaluation, ∃ use ∈ report.vars,
      (({} : Engine).dryRun (lone "a") unnamed).run {} = (.ok report, j') ∧
        ({} : Engine).Evaluates (lone "a") unnamed {} evaluations ∧ evaluation ∈ evaluations ∧
        use.inData = true ∧ evaluation.read.resolution.isFound = true := by
  obtain ⟨nodes, j₁, heffective, hnodes⟩ := run_ok (({} : Engine).effective (lone "a")) {}
    (fun nodes => nodes.map Node.varEntry? = [some ⟨"a", 1, 1⟩]) (by decide +kernel)
  obtain ⟨report, j', hdry, hvars⟩ := run_ok (({} : Engine).dryRun (lone "a") unnamed) {}
    (fun report => report.vars.map (fun use => (use.name, use.inData)) = [("a", true)])
    (by decide +kernel)
  obtain ⟨use, huses, huse⟩ := List.map_eq_singleton_iff.1 hvars
  obtain ⟨hname, hinData⟩ := Prod.mk.inj huse
  have hmem : use ∈ report.vars := huses ▸ List.mem_singleton_self use
  obtain ⟨evaluations, hevaluates, _⟩ :=
    Engine.exists_evaluates ({} : Engine) (lone "a") unnamed {}
  obtain ⟨node, rfl, hentry⟩ := List.map_eq_singleton_iff.1 hnodes
  cases node with
  | var info path =>
    obtain rfl : path = "a" := congrArg DryRun.Entry.subject (Option.some.inj hentry)
    -- the render begins at the variable, in the data alone
    have hmet : ⟨({} : Engine).start (lone "a") unnamed j₁, info, "a"⟩ ∈ evaluations :=
      (hevaluates.mem_iff _ _ _).2 ⟨_, _, heffective, .here⟩
    have hagree := (Engine.sighted_iff_found unnamed "a").2.2 {} (lone "a") {} j' {} report
      evaluations hdry hevaluates use hmem _ hmet hname rfl rfl rfl
    have hplain : ¬ (Path.IsPointed "a" ∧ (unnamed.lookup? "a").isSome) :=
      fun h => absurd h.1 (by simp [Path.IsPointed])
    exact ⟨report, j', evaluations, _, use, hmem, hdry, hevaluates, hmet, hinData,
      (hagree.2 hplain).1 hinData⟩
  | _ => cases hentry

end Sample

end PromptMarkup
