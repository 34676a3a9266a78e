import PromptMarkup.Proofs.DryRun.Inventory
import PromptMarkup.Proofs.DryRun.Nested
/-!
# DryRun — the lists of a report

A report has five lists of what stands in a template. They can be read off
the nodes that the template stands for, one entry for each node in document
order (`Listing.of`), and a dry run on any data comes to the same ones
(`Engine.dryRun_lists`). The data decide only what is said about an entry.
-/

namespace PromptMarkup

namespace DryRun

/-- An entry of a list: what is listed, and where it stands. -/
structure Entry (α : Type) where
  subject : α
  line : Nat
  column : Nat
  deriving DecidableEq, Repr

/-- The entry of what stands at a position. -/
def Entry.at {α : Type} (subject : α) (position : Position) : Entry α :=
  ⟨subject, position.line, position.column⟩

/-- The lists of what stands in a template. -/
structure Listing where
  vars : List (Entry String)
  tags : List (Entry String)
  loops : List (Entry LoopHead)
  inclusions : List (Entry String)
  /-- The conditions, as they are written. -/
  conditions : List (Entry String)
  deriving DecidableEq, Repr

/-- The lists of a report, without what is said about their entries. -/
def Report.listing (report : Report) : Listing where
  vars := report.vars.map fun use => ⟨use.name, use.line, use.column⟩
  tags := report.resolvers.map fun use => ⟨use.name, use.line, use.column⟩
  loops := report.loops.map fun use => ⟨use.head, use.line, use.column⟩
  inclusions := report.inclusions.map fun use => ⟨use.template, use.line, use.column⟩
  conditions := report.conditions.map fun use => ⟨use.source, use.line, use.column⟩

end DryRun

namespace Node

open DryRun

/-- The entry of a variable. -/
def varEntry? : Node → Option (Entry String)
  | .var info path => some (.at path info.position)
  | _ => none

/-- The entry of a tag left to a resolver, with or without a body. -/
def tagEntry? : Node → Option (Entry String)
  | .tag info name _ | .blockTag info name _ _ => some (.at name info.position)
  | _ => none

/-- The entry of a loop. -/
def loopEntry? : Node → Option (Entry LoopHead)
  | .loop info head _ => some (.at head info.position)
  | _ => none

/-- The entry of an inclusion. -/
def inclusionEntry? : Node → Option (Entry String)
  | .inclusion info template _ => some (.at template info.position)
  | _ => none

/-- The entries of the branches of a choice, in their order. -/
def conditionEntries : Node → List (Entry String)
  | .choice _ branches _ => branches.map fun branch => .at branch.source branch.position
  | _ => []

end Node

namespace DryRun

/-- What stands in nodes, at any depth and in document order. A node comes
before what is in its bodies, so the branches of a choice are together, and
those of the choices inside it come after them. -/
def Listing.of (nodes : List Node) : Listing where
  vars := (Node.withinAll nodes).filterMap Node.varEntry?
  tags := (Node.withinAll nodes).filterMap Node.tagEntry?
  loops := (Node.withinAll nodes).filterMap Node.loopEntry?
  inclusions := (Node.withinAll nodes).filterMap Node.inclusionEntry?
  conditions := (Node.withinAll nodes).flatMap Node.conditionEntries

/-- What is listed in a survey: surveys one after another have their lists one
after another, and the text has nothing to do with it. -/
structure Lists {α : Type} (list : Survey → List α) : Prop where
  nil : list {} = []
  append : ∀ a b, list (a.append b) = list a ++ list b
  silent : ∀ s, list s.silent = list s

theorem lists_vars : Lists Survey.vars := ⟨rfl, fun _ _ => rfl, fun _ => rfl⟩

theorem lists_resolvers : Lists Survey.resolvers := ⟨rfl, fun _ _ => rfl, fun _ => rfl⟩

theorem lists_loops : Lists Survey.loops := ⟨rfl, fun _ _ => rfl, fun _ => rfl⟩

theorem lists_inclusions : Lists Survey.inclusions := ⟨rfl, fun _ _ => rfl, fun _ => rfl⟩

theorem lists_conditions : Lists Survey.conditions := ⟨rfl, fun _ _ => rfl, fun _ => rfl⟩

variable {g : Ground} {inTurn : Bool} {nodes : List Node} {survey : Survey} {α β : Type}
  {list : Survey → List α}

theorem Lists.joined (hlist : Lists list) (parts : List Survey) :
    list (.joined parts) = parts.flatMap list := by
  induction parts with
  | nil => exact hlist.nil
  | cons first rest ih => rw [Survey.joined_cons, hlist.append, ih, List.flatMap_cons]

/-- What the conditions of a choice add is what each of them adds. -/
theorem Lists.conditions (hlist : Lists list) (branches : List Branch) :
    list (surveyConditions g branches) =
      branches.flatMap fun branch => list (surveyCondition g branch) := by
  have hjoined : surveyConditions g branches = .joined (branches.map (surveyCondition g)) := rfl
  rw [hjoined, hlist.joined, List.flatMap_map]

/-- **A survey lists what the nodes have of their own**, if that is what each
of them adds. -/
theorem Lists.surveyAll (hlist : Lists list) {f : α → β} {own : Node → List β}
    (hown : ∀ node, (list (ownSurvey g node)).map f = own node)
    (h : surveyAll g inTurn nodes = .ok survey) :
    (list survey).map f = (Node.withinAll nodes).flatMap own := by
  rw [← hlist.silent, silent_of_surveyAll h, inventory, hlist.joined, List.flatMap_map,
    List.map_flatMap]
  exact List.flatMap_congr fun node _ => hown node

/-- A choice has nothing of its own in a list that its conditions do not add
to. -/
theorem Lists.ownSurvey_choice (hlist : Lists list)
    (hcondition : ∀ branch, list (surveyCondition g branch) = []) (info : NodeInfo)
    (branches : List Branch) (otherwise : Option (List Node)) :
    list (ownSurvey g (.choice info branches otherwise)) = [] := by
  rw [ownSurvey, hlist.conditions]
  exact List.flatMap_eq_nil_iff.2 fun branch _ => hcondition branch

/-- **A report lists what stands in the nodes** that were surveyed. -/
theorem listing_of_surveyAll (h : surveyAll g inTurn nodes = .ok survey) (data : Value) :
    (survey.report data).listing = .of nodes := by
  have hvars : (survey.report data).vars.map (fun use => Entry.mk use.name use.line use.column) =
      survey.vars.map fun use => ⟨use.name, use.line, use.column⟩ := by
    rw [Survey.report, List.map_map]
    refine List.map_congr_left fun use _ => ?_
    simp only [Function.comp_apply, VariableUse.advised]
    split <;> rfl
  simp only [Report.listing, hvars, Listing.of, List.filterMap_eq_flatMap_toList]
  congr 1
  · refine lists_vars.surveyAll (fun node => ?_) h
    cases node with
    | choice info branches otherwise => rw [lists_vars.ownSurvey_choice fun _ => rfl]; rfl
    | _ => rfl
  · refine lists_resolvers.surveyAll (fun node => ?_) h
    cases node with
    | choice info branches otherwise => rw [lists_resolvers.ownSurvey_choice fun _ => rfl]; rfl
    | _ => rfl
  · refine lists_loops.surveyAll (fun node => ?_) h
    cases node with
    | choice info branches otherwise => rw [lists_loops.ownSurvey_choice fun _ => rfl]; rfl
    | _ => rfl
  · refine lists_inclusions.surveyAll (fun node => ?_) h
    cases node with
    | choice info branches otherwise => rw [lists_inclusions.ownSurvey_choice fun _ => rfl]; rfl
    | _ => rfl
  · refine lists_conditions.surveyAll (fun node => ?_) h
    cases node with
    | choice info branches otherwise =>
      rw [ownSurvey, lists_conditions.conditions, List.map_flatMap, Node.conditionEntries,
        List.map_eq_flatMap]
      rfl
    | _ => rfl

end DryRun

/-- **A dry run lists what stands in its template**: the variables, tags, loops,
inclusions and conditions of the nodes that the template stands for, each once
and in document order. On other data it lists the same. -/
theorem Engine.dryRun_lists {e : Engine} {t : Template} {data : Value} {j j' : Journal}
    {report : DryRun.Report} (h : (e.dryRun t data).run j = (.ok report, j')) :
    ∃ nodes, (e.effective t).run j = (.ok nodes, j') ∧ report.listing = .of nodes ∧
      ∀ other, ∃ report', (e.dryRun t other).run j = (.ok report', j') ∧
        report'.listing = report.listing := by
  have hlisting : ∀ {data report j'}, (e.dryRun t data).run j = (.ok report, j') →
      ∃ nodes, (e.effective t).run j = (.ok nodes, j') ∧ report.listing = .of nodes := by
    intro data report j' h
    obtain ⟨nodes, survey, hnodes, hsurvey, rfl⟩ := Engine.of_dryRun h
    exact ⟨nodes, hnodes, DryRun.listing_of_surveyAll hsurvey data⟩
  obtain ⟨nodes, hnodes, hof⟩ := hlisting h
  refine ⟨nodes, hnodes, hof, fun other => ?_⟩
  cases hrun : (e.dryRun t other).run j with
  | mk result j₁ =>
    cases result with
    | ok report' =>
      obtain ⟨nodes', hnodes', hof'⟩ := hlisting hrun
      rw [hnodes] at hnodes'
      cases hnodes'
      exact ⟨report', rfl, hof'.trans hof.symm⟩
    | error failure =>
      -- what makes one dry run fail makes all of them fail
      have herror : (e.dryRun t data).run j = (.error failure, j₁) :=
        Engine.dryRun_eq_error_iff.2 (Engine.dryRun_eq_error_iff.1 hrun)
      rw [h] at herror
      cases herror

namespace Sample

/-- A programme of concerts: in a loop a condition with another one in each of
its branches, and a tag around an inclusion. -/
def season : Template :=
  template {} "season" (tagged "prompty.for item=\"day\" in=\"days\"" ++
    tagged "prompty.if eval=\"day.open\"" ++ tagged "prompty.if eval=\"day.late\"" ++
    tagged "prompty.var name=\"day.hour\" /" ++ tagged "/prompty.if" ++
    tagged "prompty.elseif eval=\"day.moved\"" ++ tagged "prompty.if eval=\"day.where\"" ++
    tagged "prompty.var name=\"day.place\" /" ++ tagged "/prompty.if" ++ tagged "/prompty.if" ++
    tagged "/prompty.for" ++ tagged "frame" ++ tagged "prompty.include template=\"legend\" /" ++
    tagged "/frame")

/-- Without a single day in the data everything is listed. The conditions of
one choice stand together, before those inside it. -/
theorem dryRun_lists_season :
    ∃ report j' nodes, (({} : Engine).dryRun season .null).run {} = (.ok report, j') ∧
      (({} : Engine).effective season).run {} = (.ok nodes, j') ∧ report.listing = .of nodes ∧
      report.listing.conditions.map (·.subject) =
        ["day.open", "day.moved", "day.late", "day.where"] ∧
      report.listing.vars.map (·.subject) = ["day.hour", "day.place"] := by
  have hrun : (match (({} : Engine).dryRun season .null).run {} with
      | (.ok report, _) =>
        decide (report.listing.conditions.map (·.subject) =
            ["day.open", "day.moved", "day.late", "day.where"] ∧
          report.listing.vars.map (·.subject) = ["day.hour", "day.place"])
      | (.error _, _) => false) = true := by decide +kernel
  split at hrun
  · next report j' hreport =>
    obtain ⟨nodes, hnodes, hof, _⟩ := Engine.dryRun_lists hreport
    exact ⟨report, j', nodes, hreport, hnodes, hof, of_decide_eq_true hrun⟩
  · cases hrun

end Sample

end PromptMarkup
