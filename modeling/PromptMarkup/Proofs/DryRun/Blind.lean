import PromptMarkup.DryRun
import PromptMarkup.Proofs.Engine.Lineage
import PromptMarkup.Proofs.Inherit.Effective
/-!
# DryRun — what a dry run does not see

A survey takes from an engine its functions, the names of its resolvers and
which templates there are (`Ground.Alike`). It calls no resolver and enters
no template that is included, so what these would give makes no difference
to it (`surveyAll_congr`). A dry run adds to this the resolution of
inheritance, which sees the lineage of the template alone
(`Engine.dryRun_congr`).
-/

namespace PromptMarkup

namespace DryRun

/-- Surveys of two grounds consult the same: the data, the functions, and
which resolvers and templates there are. -/
structure Ground.Alike (g g' : Ground) : Prop where
  data : g.data = g'.data
  exist : g.exist = g'.exist
  functions : g.engine.functions = g'.engine.functions
  resolvers : ∀ name, Keyed.has g.engine.resolvers name = Keyed.has g'.engine.resolvers name

variable {g g' : Ground} (h : g.Alike g')

include h

theorem branchHolds_congr : branchHolds g = branchHolds g' := by
  funext branch
  rw [branchHolds, branchHolds, h.data, h.functions]

theorem surveyVar_congr (info : NodeInfo) (path : String) :
    surveyVar g info path = surveyVar g' info path := by
  simp only [surveyVar, h.data]

theorem surveyTag_congr (info : NodeInfo) (name : String) :
    surveyTag g info name = surveyTag g' info name := by
  rw [surveyTag, surveyTag, h.resolvers]

theorem surveyInclusion_congr (info : NodeInfo) (template : String) (data : Option String) :
    surveyInclusion g info template data = surveyInclusion g' info template data := by
  rw [surveyInclusion, surveyInclusion, h.exist]

theorem surveyLoop_congr (info : NodeInfo) (head : LoopHead) :
    surveyLoop g info head = surveyLoop g' info head := by
  rw [surveyLoop, surveyLoop, h.data]

theorem surveyConditions_congr (branches : List Branch) :
    surveyConditions g branches = surveyConditions g' branches := by
  have hcondition : surveyCondition g = surveyCondition g' := by
    funext branch
    rw [surveyCondition, surveyCondition, branchWarnings, branchWarnings, branchHolds_congr h,
      h.functions]
  rw [surveyConditions, surveyConditions, hcondition]

theorem selected?_congr (branches : List Branch) :
    selected? g branches = selected? g' branches := by
  rw [selected?, selected?, branchHolds_congr h]

omit h in
theorem surveyBranches_congr {inTurn : Bool} {branches : List Branch}
    (inside : ∀ branch ∈ branches, surveyAll g inTurn branch.body = surveyAll g' inTurn branch.body)
    (selected : Option Nat) :
    surveyBranches g inTurn selected branches = surveyBranches g' inTurn selected branches := by
  induction branches generalizing selected with
  | nil => rfl
  | cons branch rest ih =>
    obtain ⟨position, source, condition, body⟩ := branch
    have hbody : surveyAll g inTurn body = surveyAll g' inTurn body :=
      inside (.mk position source condition body) List.mem_cons_self
    have hrest := ih fun branch hbranch => inside branch (List.mem_cons_of_mem _ hbranch)
    simp only [surveyBranches, hbody, hrest]

/-- **Surveys of grounds that are alike are the same.** -/
theorem surveyAll_congr (inTurn : Bool) (nodes : List Node) :
    surveyAll g inTurn nodes = surveyAll g' inTurn nodes := by
  induction nodes using Node.inductionAll generalizing inTurn with
  | nil => rfl
  | cons node rest inside ih =>
    have hnode : surveyNode g inTurn node = surveyNode g' inTurn node := by
      cases node with
      | var info path => rw [surveyNode, surveyNode, surveyVar_congr h]
      | tag info name attrs => rw [surveyNode, surveyNode, surveyTag_congr h]
      | inclusion info template data => rw [surveyNode, surveyNode, surveyInclusion_congr h]
      | blockTag info name attrs body =>
        rw [surveyNode, surveyNode, surveyTag_congr h, inside body (List.mem_singleton_self _)]
      | loop info head body =>
        rw [surveyNode, surveyNode, surveyLoop_congr h, inside body (List.mem_singleton_self _)]
      | block span position name body =>
        rw [surveyNode, surveyNode, inside body (List.mem_singleton_self _)]
      | message span position role body =>
        rw [surveyNode, surveyNode, inside body (List.mem_singleton_self _)]
      | choice info branches otherwise =>
        have hinside : ∀ branch ∈ branches,
            surveyAll g inTurn branch.body = surveyAll g' inTurn branch.body :=
          fun branch hbranch => inside branch.body
            (Node.mem_bodies_choice.2 (.inl (List.mem_map_of_mem hbranch))) inTurn
        have hbranches := surveyBranches_congr hinside (selected? g' branches)
        cases otherwise with
        | none =>
          rw [surveyNode, surveyNode, selected?_congr h, surveyConditions_congr h, hbranches]
        | some body =>
          have hbody := inside body (Node.mem_bodies_choice.2 (.inr rfl)) inTurn
          simp only [surveyNode, selected?_congr h, surveyConditions_congr h, hbranches, hbody]
      | _ => rfl
    rw [surveyAll, surveyAll, hnode, ih]

end DryRun

namespace Engine

variable {e e' : Engine} {j j' : Journal}

/-- A dry run surveys what the template stands for, on the ground that is
left then. -/
theorem dryRun_run (e : Engine) (t : Template) (data : Value) (j : Journal) :
    (e.dryRun t data).run j =
      let resolved := (e.effective t).run j
      (resolved.1.bind fun nodes =>
        (DryRun.surveyAll ⟨e, data, e.has resolved.2.store⟩ false nodes).map fun survey =>
          { survey.report data with
            warnings := (survey.report data).warnings ++
              (t.issues.filter (!·.isError)).map Issue.text }, resolved.2) := by
  rw [dryRun, Tree.Effect.run_bind]
  rcases (e.effective t).run j with ⟨failure | nodes, k⟩
  · rfl
  · simp only [Tree.Effect.run_bind, Run.run_get, Run.run_liftM]
    cases hsurvey : DryRun.surveyAll ⟨e, data, e.has k.store⟩ false nodes <;>
      simp only [Except.bind, hsurvey] <;> rfl

/-- **A dry run has no use for resolvers and inclusions.** Engines that know
the same names, demand the same of tags and have the same templates as far as
the lineage of a template goes report the same on it, or fail alike, whatever
their resolvers resolve tags to and whatever they have under other names. And
a dry run leaves everything as it was, but for templates of the lineage that
it put into the store. -/
theorem dryRun_congr {t : Template} {data : Value} (hengines : e.Counterpart e')
    (hnames : ∀ name, e.has j.store name = e'.has j'.store name)
    (hlineage : ∀ name, e.Lineage j.store t.tree name →
      Keyed.find? j.store name = Keyed.find? j'.store name ∧
        (Keyed.find? j.store name = none → e.provider name = e'.provider name)) :
    ((e.dryRun t data).run j).1 = ((e'.dryRun t data).run j').1 ∧
      e.Grown (e.Lineage j.store t.tree) j ((e.dryRun t data).run j).2 ∧
      e'.Grown (e.Lineage j.store t.tree) j' ((e'.dryRun t data).run j').2 := by
  have hsame : e.SameLineage e' j.store j'.store t.tree := fun name hname =>
    hengines.available_eq (hlineage name hname).1 (hlineage name hname).2
  have hresolved := hsame.effective_eq (t := t) (congrArg Options.maxDepth hengines.options)
  have hgrown := grown_effective e t j
  have hgrown' := grown_effective e' t j'
  have hground : DryRun.Ground.Alike ⟨e, data, e.has ((e.effective t).run j).2.store⟩
      ⟨e', data, e'.has ((e'.effective t).run j').2.store⟩ := by
    refine ⟨rfl, ?_, hengines.functions, fun name => hengines.resolvers.has_eq name⟩
    rw [hgrown.has_eq, hgrown'.has_eq]
    exact funext hnames
  refine ⟨?_, ?_, ?_⟩
  · simp only [dryRun_run, hresolved]
    cases ((e'.effective t).run j').1 with
    | error failure => rfl
    | ok nodes => simp only [Except.bind, DryRun.surveyAll_congr hground]
  · rw [dryRun_run]
    exact hgrown
  · rw [dryRun_run]
    exact hgrown'.imp fun name hname => hsame.of_lineage hname

end Engine

namespace Sample

/-- An engine with a resolver for the weather, which is provided with a page
and a footer. -/
def reporter (weather : Except Failure String) (footer : String) : Engine where
  resolvers :=
    Keyed.insert "weather" { tag := "weather", resolve := fun _ _ _ => weather } Resolvers.builtin
  provider name :=
    if name = "page" then some (tagged "prompty.block name=\"a\"" ++ tagged "/prompty.block")
    else if name = "footer" then some footer
    else none

/-- An engine whose weather is sunny. -/
def sunny : Engine :=
  reporter (.ok "sunny") "bye"

/-- An engine that fails to tell the weather, with a footer that it cannot
read. -/
def clouded : Engine :=
  reporter (.error (.render (.environmentUnset "WEATHER") none none)) "\x7b~"

/-- A page with the weather and a footer. -/
def forecast : Template :=
  template sunny "forecast" (tagged "prompty.extends template=\"page\" /" ++
    tagged "prompty.block name=\"a\"" ++ tagged "weather /" ++
    tagged "prompty.include template=\"footer\" /" ++ tagged "/prompty.block")

/-- Its lineage is the page alone. -/
theorem lineage_forecast {name : String} (h : sunny.Lineage [] forecast.tree name) :
    name = "page" := by
  have hpage : forecast.tree.parent? = some "page" := by decide +kernel
  have hroot : ((sunny.available [] "page").toOption.all fun found =>
      found.all fun above => above.tree.parent?.isNone) = true := by decide +kernel
  cases h with
  | parent hparent => exact Option.some.inj (hparent.symm.trans hpage)
  | beyond hparent hfound hbeyond =>
    obtain rfl := Option.some.inj (hparent.symm.trans hpage)
    rw [hfound] at hroot
    -- the page extends nothing
    have hnone := Option.isNone_iff_eq_none.1 hroot
    cases hbeyond with
    | parent hparent' | beyond hparent' =>
      rw [hnone] at hparent'
      cases hparent'

/-- A resolver that fails and a footer that cannot be read make no difference
to a dry run. -/
theorem dryRun_congr_forecast :
    ∃ report, ((sunny.dryRun forecast .null).run {}).1 = .ok report ∧
      ((clouded.dryRun forecast .null).run {}).1 = .ok report := by
  have hrun : (match ((sunny.dryRun forecast .null).run {}).1 with
      | .ok report => report.valid
      | .error _ => false) = true := by decide +kernel
  have hengines : sunny.Counterpart clouded := by
    refine ⟨rfl, rfl, fun tag => ?_⟩
    simp only [sunny, clouded, reporter, Keyed.find?_insert]
    split <;> rfl
  have hnames : ∀ name, sunny.has [] name = clouded.has [] name := by
    intro name
    simp only [Engine.has, sunny, clouded, reporter]
    split
    · rfl
    · split <;> rfl
  have hsame := (@Engine.dryRun_congr sunny clouded {} {} forecast .null hengines hnames
    fun name hname => by
      obtain rfl := lineage_forecast hname
      exact ⟨rfl, fun _ => rfl⟩).1
  split at hrun
  · next report hreport => exact ⟨report, hreport, hsame ▸ hreport⟩
  · cases hrun

end Sample

end PromptMarkup
