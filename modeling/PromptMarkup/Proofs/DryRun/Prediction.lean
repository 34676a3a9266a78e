import PromptMarkup.Proofs.DryRun.Survey
import PromptMarkup.Proofs.Inherit.Effective
import PromptMarkup.Proofs.Render.Available
import PromptMarkup.Proofs.Value.Lookup
/-!
# DryRun — when a dry run foretells the render

A dry run goes through every branch and a render through one, but both
select it by the same conditions, and the dry run keeps the text of no other.
So where nodes are simple (`Node.Foreseeable`) and the survey of them is clean,
that is where all variables have a value or a default and all conditions can
be evaluated, no node can fail and the render has the text of the survey
(`foretold`), under every strategy.
-/

namespace PromptMarkup

/-- A node whose text the data settles: a text, a comment, a variable whose
path does not begin with a point, a choice or a turn. -/
def Node.Foreseeable : Node → Prop
  | .text .. | .comment .. | .choice .. | .message .. => True
  | .var _ path => path.toList.head? ≠ some '.'
  | .tag .. | .blockTag .. | .loop .. | .inclusion .. | .extending .. | .block .. | .parent .. =>
    False

instance : DecidablePred Node.Foreseeable
  | .text .. | .comment .. | .choice .. | .message .. => .isTrue trivial
  | .var _ path => inferInstanceAs (Decidable (path.toList.head? ≠ some '.'))
  | .tag .. | .blockTag .. | .loop .. | .inclusion .. | .extending .. | .block .. | .parent .. =>
    .isFalse not_false

namespace DryRun

/-- The warning that the condition of a branch could not be evaluated. -/
def unevaluated (branch : Branch) (failure : Failure) : String :=
  let p := branch.position
  let place := s!"condition \"{branch.source}\" at line {p.line}, column {p.column}"
  s!"{place} could not be evaluated: {failure.message}"

/-- What cannot be evaluated is warned of with what went wrong, and with nothing
else. -/
theorem branchWarnings_of_error {g : Ground} {branch : Branch} {failure : Failure}
    (h : branchHolds g branch = .error failure) :
    branchWarnings g branch = [unevaluated branch failure] := by
  simp only [branchWarnings, h]
  rfl

/-- Every variable that was met has a value or a default, and every condition
could be evaluated. -/
structure Survey.Clean (s : Survey) : Prop where
  vars : ∀ use ∈ s.vars, use.inData = true ∨ use.fallback.isSome = true
  conditions : ∀ branch failure, unevaluated branch failure ∉ s.warnings

namespace Survey

variable {a b : Survey}

/-- Two surveys are clean together if each is. -/
theorem clean_append : (a.append b).Clean ↔ a.Clean ∧ b.Clean := by
  constructor
  · intro h
    have hvars := List.forall_mem_append.1 h.vars
    refine ⟨⟨hvars.1, fun branch failure hmem => ?_⟩, ⟨hvars.2, fun branch failure hmem => ?_⟩⟩
    · exact h.conditions branch failure (List.mem_append_left _ hmem)
    · exact h.conditions branch failure (List.mem_append_right _ hmem)
  · rintro ⟨ha, hb⟩
    refine ⟨List.forall_mem_append.2 ⟨ha.vars, hb.vars⟩, fun branch failure hmem => ?_⟩
    exact (List.mem_append.1 hmem).elim (ha.conditions branch failure)
      (hb.conditions branch failure)

end Survey

/-! ## What a clean survey says -/

variable {g : Ground} {inTurn : Bool} {branches : List Branch} {survey bodies : Survey}

/-- A clean survey of conditions is of conditions that can be evaluated. -/
theorem holds_of_clean (h : (surveyConditions g branches).Clean) :
    ∀ branch ∈ branches, ∃ b, branchHolds g branch = .ok b := by
  induction branches with
  | nil => exact fun _ hbranch => absurd hbranch List.not_mem_nil
  | cons first rest ih =>
    obtain ⟨hfirst, hrest⟩ := Survey.clean_append.1 h
    intro branch hbranch
    rcases List.mem_cons.1 hbranch with rfl | hbranch
    · cases hholds : branchHolds g branch with
      | ok b => exact ⟨b, rfl⟩
      | error failure =>
        refine absurd ?_ (hfirst.conditions branch failure)
        rw [surveyCondition, branchWarnings_of_error hholds]
        exact List.mem_singleton_self _
    · exact ih hrest branch hbranch

/-- **The dry run selects the branch that the render picks**, and keeps the
text of its body alone. -/
theorem pick_of_surveyBranches (hholds : ∀ branch ∈ branches, ∃ b, branchHolds g branch = .ok b)
    (h : surveyBranches g inTurn (selected? g branches) branches = .ok bodies)
    (hclean : bodies.Clean) (otherwise : Option (List Node)) :
    (selected? g branches = none ∧ bodies.text = "" ∧
      Engine.pick { root := g.data } g.engine.functions otherwise branches = .ok otherwise) ∨
    ∃ branch ∈ branches, ∃ body, selected? g branches ≠ none ∧
      surveyAll g inTurn branch.body = .ok body ∧ body.Clean ∧ bodies.text = body.text ∧
      Engine.pick { root := g.data } g.engine.functions otherwise branches =
        .ok (some branch.body) := by
  induction branches generalizing bodies with
  | nil =>
    cases h
    exact .inl ⟨rfl, rfl, rfl⟩
  | cons first rest ih =>
    obtain ⟨b, hb⟩ := hholds first List.mem_cons_self
    have hpick : Engine.pick { root := g.data } g.engine.functions otherwise (first :: rest) =
        if b then .ok (some first.body)
        else Engine.pick { root := g.data } g.engine.functions otherwise rest := by
      obtain ⟨position, source, condition, body⟩ := first
      rw [branchHolds, Branch.condition] at hb
      rw [Engine.pick, hb]
      cases b <;> rfl
    have hselected : selected? g (first :: rest) =
        if b then some 0 else (selected? g rest).map (· + 1) := by
      rw [selected?, List.findIdx?_cons, hb]
      rfl
    obtain ⟨own, more, hown, hrest, rfl⟩ := surveyBranches_cons_eq_ok_iff.1 h
    obtain ⟨hcleanOwn, hcleanMore⟩ := Survey.clean_append.1 hclean
    cases b with
    | true =>
      simp only [hselected, if_true] at hrest hcleanOwn ⊢
      refine .inr ⟨first, List.mem_cons_self, own, Option.some_ne_none 0, hown, hcleanOwn, ?_,
        hpick⟩
      rw [Survey.text_append, text_of_surveyBranches_none hrest, String.append_empty]
    | false =>
      simp only [hselected, Bool.false_eq_true, if_false] at hrest hpick ⊢
      -- the number counts one down for each branch that is passed over
      have hnext : ((selected? g rest).map (· + 1)).bind
          (fun n => if n = 0 then none else some (n - 1)) = selected? g rest := by
        cases selected? g rest <;> rfl
      have hlater : (selected? g rest).map (· + 1) ≠ some 0 := by
        cases selected? g rest <;> simp
      rw [hnext] at hrest
      rw [if_neg hlater, Survey.text_append, Survey.text_silent, String.empty_append, hpick]
      obtain ⟨hnone, htext, hrestPick⟩ | ⟨branch, hbranch, body, hsome, hbody⟩ :=
        ih (fun branch hbranch => hholds branch (List.mem_cons_of_mem _ hbranch)) hrest hcleanMore
      · exact .inl ⟨by rw [hnone]; rfl, htext, hrestPick⟩
      · refine .inr ⟨branch, List.mem_cons_of_mem _ hbranch, body, ?_, hbody⟩
        exact fun hnone => hsome (Option.map_eq_none_iff.1 hnone)

/-! ## The render -/

/-- Rendered where the data alone is seen, the nodes have the text of any
clean survey of them. -/
def Foretold (e : Engine) (g : Ground) (nodes : List Node) : Prop :=
  ∀ (enter : Option Renderer) (place : Place) (survey : Survey) (j : Journal),
    surveyAll g place.inTurn nodes = .ok survey → survey.Clean →
      ∃ r j', (e.renderAll enter place { root := g.data } nodes).run j = (.ok r, j') ∧
        r.text = survey.text

variable {e : Engine} {enter : Option Renderer} {place : Place} {j : Journal}

/-- **A variable has the text that was foretold.** -/
theorem renderNode_var {info : NodeInfo} {path : String} (hpath : path.toList.head? ≠ some '.')
    (hclean : (surveyVar g info path).Clean) :
    ∃ r j', (e.renderNode enter place { root := g.data } (.var info path)).run j = (.ok r, j') ∧
      r.text = (surveyVar g info path).text := by
  have hfound := hclean.vars _ (List.mem_singleton_self _)
  rw [Engine.renderNode_eq, Engine.course, Engine.resolution, Context.lookup?_root hpath]
  cases hvalue : g.data.lookup? path with
  | some value => exact ⟨_, _, rfl, by simp only [surveyVar, hvalue]; rfl⟩
  | none =>
    cases hfallback : info.fallback with
    | some text => exact ⟨_, _, rfl, by simp only [surveyVar, hvalue, hfallback]; rfl⟩
    | none => simp [hvalue, hfallback] at hfound

/-- **So has a choice** if the bodies of its branches have. -/
theorem renderNode_choice {info : NodeInfo} {otherwise : Option (List Node)}
    (hfunctions : e.functions = g.engine.functions)
    (inside : ∀ body ∈ (Node.choice info branches otherwise).bodies, Foretold e g body)
    (h : surveyNode g place.inTurn (.choice info branches otherwise) = .ok survey)
    (hclean : survey.Clean) :
    ∃ r j', (e.renderNode enter place { root := g.data } (.choice info branches otherwise)).run j =
      (.ok r, j') ∧ r.text = survey.text := by
  obtain ⟨bodies, last, hbodies, hlast, hnone, rfl⟩ := of_surveyNode_choice h
  obtain ⟨hconditions, hclean⟩ := Survey.clean_append.1 hclean
  obtain ⟨hcleanBodies, hcleanLast⟩ := Survey.clean_append.1 hclean
  have hpicked := pick_of_surveyBranches (holds_of_clean hconditions) hbodies hcleanBodies otherwise
  rw [← hfunctions] at hpicked
  simp only [Survey.text_append, text_surveyConditions, String.empty_append]
  obtain ⟨hselected, htext, hpick⟩ |
    ⟨branch, hbranch, body, hselected, hbody, hcleanBody, htext, hpick⟩ := hpicked
  · rw [Engine.renderNode_choice_of_pick hpick, htext, String.empty_append]
    rw [hselected] at hcleanLast ⊢
    cases otherwise with
    | none =>
      rw [hnone rfl]
      exact ⟨_, _, rfl, rfl⟩
    | some own =>
      refine inside own ?_ enter place last j (hlast own rfl) hcleanLast
      exact Node.mem_bodies_choice.2 (.inr rfl)
  · rw [Engine.renderNode_choice_of_pick hpick, htext]
    have hsilent : (if (selected? g branches).isNone then last else last.silent).text = "" := by
      rw [if_neg (by simpa using hselected), Survey.text_silent]
    rw [hsilent, String.append_empty]
    refine inside branch.body ?_ enter place body j hbody hcleanBody
    exact Node.mem_bodies_choice.2 (.inl (List.mem_map_of_mem hbranch))

/-- **Where a dry run is clean the render has the text of the survey.** -/
theorem foretold (hfunctions : e.functions = g.engine.functions) {nodes : List Node}
    (hnodes : Node.Throughout Node.Foreseeable nodes) : Foretold e g nodes := by
  induction nodes using Node.inductionAll with
  | nil =>
    intro enter place survey j h _
    cases h
    exact ⟨_, _, rfl, rfl⟩
  | cons node rest inside ih =>
    obtain ⟨⟨hnode, hbodies⟩, hrest⟩ := Node.throughout_cons.1 hnodes
    intro enter place survey j h hclean
    obtain ⟨first, more, hfirst, hmore, rfl⟩ := surveyAll_cons_eq_ok_iff.1 h
    obtain ⟨hcleanFirst, hcleanMore⟩ := Survey.clean_append.1 hclean
    have hrendered : ∃ r j',
        (e.renderNode enter place { root := g.data } node).run j = (.ok r, j') ∧
          r.text = first.text := by
      cases node with
      | text span body =>
        cases hfirst
        exact ⟨_, _, rfl, rfl⟩
      | comment span body =>
        cases hfirst
        exact ⟨_, _, rfl, rfl⟩
      | var info path =>
        cases hfirst
        exact renderNode_var hnode hcleanFirst
      | choice info branches otherwise =>
        exact renderNode_choice hfunctions
          (fun body hbody => inside body hbody (hbodies body hbody)) hfirst hcleanFirst
      | message span position role body =>
        rw [surveyNode] at hfirst
        split at hfirst
        · cases hfirst
        · next hturn =>
          -- the survey refuses a turn just where the render would
          obtain ⟨r, j', hrun, htext⟩ :=
            inside body (List.mem_singleton_self _) (hbodies body (List.mem_singleton_self _)) enter
              { place with inTurn := true } first j hfirst hcleanFirst
          refine ⟨r.asTurn role, j', ?_, htext⟩
          rw [Engine.renderNode, if_neg hturn]
          exact Run.bind_eq_ok_iff.2 ⟨r, j', hrun, rfl⟩
      | _ => exact hnode.elim
    obtain ⟨r, j₁, hr, htext⟩ := hrendered
    obtain ⟨r', j₂, hr', htext'⟩ := ih hrest enter place more j₁ hmore hcleanMore
    refine ⟨r.append r', j₂, ?_, ?_⟩
    · rw [Engine.renderAll]
      exact Run.bind_eq_ok_iff.2 ⟨r, j₁, hr, Run.bind_eq_ok_iff.2 ⟨r', j₂, hr', rfl⟩⟩
    · rw [Rendered.append, htext, htext', Survey.text_append]

/-! ## The report -/

/-- A survey is clean if its report misses no variable and warns of no
condition. -/
theorem Survey.clean_of_report {data : Value} (hmissing : (survey.report data).missing = [])
    (hwarnings : ∀ branch failure, unevaluated branch failure ∉ (survey.report data).warnings) :
    survey.Clean := by
  refine ⟨fun use huse => ?_, fun branch failure hmem => ?_⟩
  · by_contra hneither
    rw [not_or, Bool.not_eq_true, Bool.not_eq_true, Option.isSome_eq_false_iff,
      Option.isNone_iff_eq_none] at hneither
    have hmet : use.name ∈ (survey.report data).missing :=
      mem_missingOf.2 ⟨use, huse, hneither.1, hneither.2, rfl⟩
    rw [hmissing] at hmet
    exact List.not_mem_nil hmet
  · exact hwarnings branch failure (List.mem_append_left _ hmem)

end DryRun

/-- **A clean dry run foretells the render.** If the nodes that a template
stands for are foreseeable, and the dry run misses no variable and warns of
no condition that could not be evaluated, then the template renders to
the text of the report, before the dry run and after it, under every strategy. -/
theorem Engine.execute_of_dryRun {e : Engine} {t : Template} {data : Value} {j j₀ j₁ : Journal}
    {nodes : List Node} {report : DryRun.Report} (hnodes : (e.effective t).run j = (.ok nodes, j₀))
    (hsimple : Node.Throughout Node.Foreseeable nodes)
    (hrun : (e.dryRun t data).run j = (.ok report, j₁)) (hmissing : report.missing = [])
    (hconditions : ∀ branch failure, DryRun.unevaluated branch failure ∉ report.warnings) :
    e.available j₁.store = e.available j.store ∧
      ∀ (s : Option Strategy) (k : Journal), e.available k.store = e.available j.store →
        ∃ k', ((e.withStrategy s).execute t data).run k = (.ok report.text, k') := by
  obtain ⟨_, survey, heffective, hsurvey, rfl⟩ := of_dryRun hrun
  rw [hnodes] at heffective
  cases heffective
  refine ⟨(alike_effective e t).available_eq hnodes, fun s k hk => ?_⟩
  have hclean : survey.Clean := DryRun.Survey.clean_of_report hmissing fun branch failure hmem =>
    hconditions branch failure (List.mem_append_left _ hmem)
  -- the strategy takes no part in the resolution of inheritance
  obtain ⟨k₁, hstart⟩ : ∃ k₁, ((e.withStrategy s).effective t).run k = (.ok nodes, k₁) :=
    (alike_effective e t).eq_ok hk hnodes
  have hfunctions : (e.withStrategy s).functions = e.functions := rfl
  have hforetold : DryRun.Foretold (e.withStrategy s) ⟨e, data, e.has j₀.store⟩ nodes :=
    DryRun.foretold hfunctions hsimple
  obtain ⟨r, k', hrender, htext⟩ :=
    hforetold ((e.withStrategy s).enterAt e.options.maxDepth) (t.place false) survey k₁ hsurvey
      hclean
  refine ⟨k', Run.map_eq_ok_iff.2 ⟨r, Run.bind_eq_ok_iff.2 ⟨nodes, k₁, hstart, ?_⟩, htext⟩⟩
  rw [renderAt_eq]
  exact hrender

namespace Sample

/-- A turn that greets by name or else by default, and takes leave if that is
asked for. -/
def welcome : Template :=
  template {} "welcome" (tagged "prompty.message role=\"user\"" ++ "Hello " ++
    tagged "prompty.var name=\"name\" default=\"you\" /" ++
    tagged "prompty.if eval=\"leaving\"" ++ ", bye" ++ tagged "prompty.else" ++ "!" ++
    tagged "/prompty.if" ++ tagged "/prompty.message")

theorem execute_of_dryRun_welcome :
    ∃ k', ((({} : Engine).withStrategy (some .keepRaw)).execute welcome
      (.ofFields [("leaving", .boolean false)])).run {} = (.ok "Hello you!", k') := by
  have hnodes : (match (({} : Engine).effective welcome).run {} with
      | (.ok nodes, _) => decide (∀ node ∈ Node.withinAll nodes, node.Foreseeable)
      | (.error _, _) => false) = true := by decide +kernel
  have hreport : (match
        (({} : Engine).dryRun welcome (.ofFields [("leaving", .boolean false)])).run {} with
      | (.ok report, _) =>
        decide (report.missing = [] ∧ report.warnings = [] ∧ report.text = "Hello you!")
      | (.error _, _) => false) = true := by decide +kernel
  split at hnodes
  · next nodes j₀ heffective =>
    have hsimple : ∀ node ∈ Node.withinAll nodes, node.Foreseeable := of_decide_eq_true hnodes
    split at hreport
    · next report j₁ hdry =>
      obtain ⟨hmissing, hwarnings, htext⟩ := of_decide_eq_true hreport
      rw [← htext]
      refine (Engine.execute_of_dryRun heffective hsimple hdry hmissing ?_).2 (some .keepRaw) {}
        rfl
      rw [hwarnings]
      exact fun _ _ => List.not_mem_nil
    · cases hreport
  · cases hnodes

end Sample

end PromptMarkup
