import PromptMarkup.Engine.Blueprint
import PromptMarkup.Proofs.Render.Conditions
/-!
# DryRun — functions that do not exist

A dry run evaluates every condition on the data it is given. Where that
succeeds it goes through all calls of the condition, so the functions that do
not exist are reported whether or not they were reached. Where it fails the
failure is reported alone: of the functions that do not exist then only one
can be told, the one that the evaluation came to
(`Engine.dryRun_reportsUnknown_iff`).
-/

namespace PromptMarkup

namespace DryRun

/-- What every warning about a condition begins with. -/
def conditionPlace (branch : Branch) : String :=
  let p := branch.position
  s!"condition \"{branch.source}\" at line {p.line}, column {p.column}"

/-- The warning that a condition calls a function that does not exist. -/
def callsUnknown (branch : Branch) (name : String) : String :=
  s!"{conditionPlace branch} calls unknown function \"{name}\""

/-- The warning reports a function of a condition as unknown: as one that is
called, or as what the evaluation failed with. -/
inductive ReportsUnknown (branch : Branch) (name : String) : String → Prop
  | called : ReportsUnknown branch name (callsUnknown branch name)
  | failed {failure : Failure}
      (hmessage : failure.message = (EvalFault.unknownFunction name).message) :
      ReportsUnknown branch name (unevaluated branch failure)

variable {g : Ground} {branch : Branch} {name : String}

/-- What can be evaluated is warned of for every call of a function that does not
exist. -/
theorem branchWarnings_of_ok {held : Bool} (h : branchHolds g branch = .ok held) :
    branchWarnings g branch =
      (branch.condition.calls.filter (!g.engine.functions.has ·)).map (callsUnknown branch) := by
  simp only [branchWarnings, h]
  rfl

theorem unevaluated_eq (branch : Branch) (failure : Failure) :
    unevaluated branch failure =
      conditionPlace branch ++ (" could not be evaluated: " ++ failure.message) := by
  rw [← String.append_assoc]
  rfl

theorem callsUnknown_eq (branch : Branch) (name : String) :
    callsUnknown branch name =
      conditionPlace branch ++ (" calls unknown function \"" ++ (name ++ "\"")) := by
  rw [← String.append_assoc, ← String.append_assoc]
  rfl

theorem unevaluated_injective {failure failure' : Failure}
    (h : unevaluated branch failure = unevaluated branch failure') :
    failure.message = failure'.message := by
  rw [unevaluated_eq, unevaluated_eq] at h
  simpa using h

theorem callsUnknown_ne_unevaluated (failure : Failure) :
    callsUnknown branch name ≠ unevaluated branch failure := by
  rw [callsUnknown_eq, unevaluated_eq, ne_eq, String.append_right_inj]
  intro h
  -- behind the place they differ at the third character
  have hthird := congrArg (fun text => text.toList[2]?) h
  simp [String.toList_append] at hthird

/-- **Which functions are reported as unknown**: all of a condition that can be
evaluated, and of one that cannot the one that its failure is about. -/
theorem reportsUnknown_iff (hcalled : name ∈ branch.condition.calls)
    (hunknown : g.engine.functions.has name = false) :
    (∃ warning ∈ branchWarnings g branch, ReportsUnknown branch name warning) ↔
      (∃ held, branchHolds g branch = .ok held) ∨
      ∃ failure, branchHolds g branch = .error failure ∧
        failure.message = (EvalFault.unknownFunction name).message := by
  cases hholds : branchHolds g branch with
  | ok held =>
    rw [branchWarnings_of_ok hholds]
    refine iff_of_true ⟨_, List.mem_map_of_mem ?_, .called⟩ (.inl ⟨held, rfl⟩)
    exact List.mem_filter.2 ⟨hcalled, by rw [hunknown]; rfl⟩
  | error failure =>
    rw [branchWarnings_of_error hholds]
    constructor
    · rintro ⟨warning, hwarning, hreports⟩
      have hwords := List.mem_singleton.1 hwarning
      cases hreports with
      | called => exact absurd hwords (callsUnknown_ne_unevaluated failure)
      | failed hmessage =>
        exact .inr ⟨failure, rfl, (unevaluated_injective hwords).symm.trans hmessage⟩
    · rintro (⟨held, hsuccess⟩ | ⟨_, hfailure, hmessage⟩)
      · cases hsuccess
      · cases hfailure
        exact ⟨_, List.mem_singleton_self _, .failed hmessage⟩

end DryRun

/-- **When a dry run reports a function that does not exist**, for every
condition of the nodes that the template stands for and every such function in
a call of it, reached or not: where the condition can be evaluated on the data,
and otherwise where its evaluation failed for want of that very function. The
report warns of each condition by itself, of what it did not find, and of what
was remarked on the source. -/
theorem Engine.dryRun_reportsUnknown_iff {e : Engine} {t : Template} {data : Value}
    {j j' : Journal} {report : DryRun.Report}
    (h : (e.dryRun t data).run j = (.ok report, j')) :
    ∃ nodes survey, (e.effective t).run j = (.ok nodes, j') ∧
      DryRun.surveyAll ⟨e, data, e.has j'.store⟩ false nodes = .ok survey ∧
      report.warnings =
        (Node.conditions nodes).flatMap (DryRun.branchWarnings ⟨e, data, e.has j'.store⟩) ++
          DryRun.absenceWarnings survey ++ (t.issues.filter (!·.isError)).map Issue.text ∧
      ∀ branch ∈ Node.conditions nodes, ∀ name ∈ branch.condition.calls,
        e.functions.has name = false →
        ((∃ warning ∈ DryRun.branchWarnings ⟨e, data, e.has j'.store⟩ branch,
            DryRun.ReportsUnknown branch name warning) ↔
          (∃ held, branch.condition.holds { root := data } e.functions = .ok held) ∨
          ∃ failure, branch.condition.holds { root := data } e.functions = .error failure ∧
            failure.message = (EvalFault.unknownFunction name).message) := by
  obtain ⟨nodes, survey, hnodes, hsurvey, rfl⟩ := of_dryRun h
  refine ⟨nodes, survey, hnodes, hsurvey, ?_, fun branch _ name hcalled hunknown =>
    DryRun.reportsUnknown_iff hcalled hunknown⟩
  rw [← DryRun.warnings_of_surveyAll hsurvey]
  rfl

namespace Sample

open DryRun

/-- What a template with a single condition has of it. -/
theorem exists_condition {t : Template} {data : Value} {calls : List String} {place : String}
    {outcome : Except Failure Bool}
    (h : (((Engine.standard.effective t).run {}).1.toOption.any fun nodes =>
      decide ((Node.conditions nodes).map (fun branch => (branch.condition.calls,
        conditionPlace branch, branch.condition.holds { root := data }
          Engine.standard.functions)) = [(calls, place, outcome)])) = true) :
    ∃ nodes j branch, (Engine.standard.effective t).run {} = (.ok nodes, j) ∧
      Node.conditions nodes = [branch] ∧ branch.condition.calls = calls ∧
      conditionPlace branch = place ∧
      branch.condition.holds { root := data } Engine.standard.functions = outcome := by
  obtain ⟨nodes, j, hnodes, hshape⟩ := run_ok (Engine.standard.effective t) {} _ h
  obtain ⟨branch, hbranch, hparts⟩ := List.map_eq_singleton_iff.1 hshape
  obtain ⟨hcalls, hrest⟩ := Prod.mk.inj hparts
  obtain ⟨hplace, hholds⟩ := Prod.mk.inj hrest
  exact ⟨nodes, j, branch, hnodes, hbranch, hcalls, hplace, hholds⟩

/-- A condition that is settled before it comes to a function that does not
exist. -/
def shortcut : Template :=
  template .standard "shortcut" (tagged "prompty.if eval=\"ready || missing(x)\"" ++ "yes" ++
    tagged "/prompty.if")

/-- The function is reported all the same. -/
theorem dryRun_reportsUnknown_shortcut :
    ∃ nodes j branch report j', (Engine.standard.effective shortcut).run {} = (.ok nodes, j) ∧
      Node.conditions nodes = [branch] ∧ branch.condition.calls = ["missing"] ∧
      (Engine.standard.dryRun shortcut (.ofFields [("ready", .boolean true)])).run {} =
        (.ok report, j') ∧
      ∃ warning ∈ report.warnings, ReportsUnknown branch "missing" warning := by
  obtain ⟨nodes, j, branch, hnodes, hbranch, hcalls, -, hholds⟩ :=
    @exists_condition shortcut (.ofFields [("ready", .boolean true)]) ["missing"]
      "condition \"ready || missing(x)\" at line 1, column 1" (.ok true) (by decide +kernel)
  obtain ⟨report, j', hrun, -⟩ := run_ok (Engine.standard.dryRun shortcut
    (.ofFields [("ready", .boolean true)])) {} (fun _ => True) (by decide +kernel)
  obtain ⟨_, survey, hsame, -, hwarnings, hreports⟩ := Engine.dryRun_reportsUnknown_iff hrun
  rw [hnodes] at hsame
  cases hsame
  have hmem : branch ∈ Node.conditions nodes := hbranch ▸ List.mem_singleton_self _
  have hcalled : "missing" ∈ branch.condition.calls := hcalls ▸ List.mem_singleton_self _
  obtain ⟨warning, hwarning, hreported⟩ :=
    (hreports branch hmem "missing" hcalled (by decide +kernel)).2 (.inl ⟨true, hholds⟩)
  refine ⟨nodes, j, branch, report, _, hnodes, hbranch, hcalls, hrun, warning, ?_, hreported⟩
  rw [hwarnings]
  exact List.mem_append_left _ (List.mem_append_left _
    (List.mem_flatMap.2 ⟨branch, hmem, hwarning⟩))

/-- A condition that calls two functions that do not exist. -/
def twofold : Template :=
  template .standard "twofold" (tagged "prompty.if eval=\"f() && g()\"" ++ "x" ++
    tagged "/prompty.if")

/-- **The second one is not reported.** -/
theorem second_unknown_unreported :
    ∃ nodes j branch report j', (Engine.standard.effective twofold).run {} = (.ok nodes, j) ∧
      Node.conditions nodes = [branch] ∧ branch.condition.calls = ["f", "g"] ∧
      Engine.standard.functions.has "g" = false ∧
      (Engine.standard.dryRun twofold (.record [])).run {} = (.ok report, j') ∧
      report.warnings = ["condition \"f() && g()\" at line 1, column 1 could not be evaluated: " ++
        "unknown function \"f\""] ∧
      ∀ warning ∈ report.warnings, ¬ ReportsUnknown branch "g" warning := by
  obtain ⟨nodes, j, branch, hnodes, hbranch, hcalls, hplace, -⟩ :=
    @exists_condition twofold (.record []) ["f", "g"] "condition \"f() && g()\" at line 1, column 1"
      (.error (.eval (.unknownFunction "f") none)) (by decide +kernel)
  obtain ⟨report, j', hrun, hwarnings⟩ := run_ok (Engine.standard.dryRun twofold (.record [])) {}
    (fun report => report.warnings =
      ["condition \"f() && g()\" at line 1, column 1 could not be evaluated: " ++
        "unknown function \"f\""]) (by decide +kernel)
  refine ⟨nodes, j, branch, report, j', hnodes, hbranch, hcalls, by decide +kernel, hrun, hwarnings,
    fun warning hwarning hreports => ?_⟩
  have hwords : warning = unevaluated branch (.eval (.unknownFunction "f") none) := by
    rw [hwarnings] at hwarning
    rw [List.mem_singleton.1 hwarning, unevaluated_eq, hplace]
    rfl
  cases hreports with
  | called => exact callsUnknown_ne_unevaluated _ hwords
  | failed hmessage =>
    have hsame := (unevaluated_injective hwords).symm.trans hmessage
    revert hsame
    decide +kernel

end Sample

end PromptMarkup
