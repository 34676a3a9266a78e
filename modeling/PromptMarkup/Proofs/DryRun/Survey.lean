import Mathlib.Data.List.Basic
import PromptMarkup.DryRun
import PromptMarkup.Proofs.Engine.Load
/-!
# DryRun — surveys part by part

A survey is put together from those of the nodes one after another, of the
bodies of branches and of the conditions. The lemmas here take a survey
that was made apart again, down to the bodies; `mem_missingOf` and
`Engine.of_dryRun` say what a report is made of.
-/

namespace PromptMarkup

namespace DryRun

namespace Survey

variable {a b : Survey}

/-- A survey of nothing adds nothing. -/
@[simp] theorem append_empty (a : Survey) : a.append {} = a := by
  simp [append]

@[simp] theorem text_append : (a.append b).text = a.text ++ b.text := rfl

@[simp] theorem text_silent : a.silent.text = "" := rfl

end Survey

variable {g : Ground} {inTurn : Bool} {branches : List Branch} {survey bodies : Survey}

/-! ## Surveys of several nodes -/

theorem map_append_eq_ok_iff {first : Survey} {rest : Except Failure Survey} :
    rest.map first.append = .ok survey ↔ ∃ more, rest = .ok more ∧ survey = first.append more := by
  cases rest with
  | error failure => exact ⟨nofun, nofun⟩
  | ok more =>
    constructor
    · intro h
      cases h
      exact ⟨more, rfl, rfl⟩
    · rintro ⟨_, hmore, rfl⟩
      cases hmore
      rfl

/-- Nodes are surveyed one after another, -/
theorem surveyAll_cons_eq_ok_iff {node : Node} {rest : List Node} :
    surveyAll g inTurn (node :: rest) = .ok survey ↔
      ∃ first more, surveyNode g inTurn node = .ok first ∧ surveyAll g inTurn rest = .ok more ∧
        survey = first.append more := by
  rw [surveyAll]
  cases surveyNode g inTurn node with
  | error failure => exact ⟨nofun, nofun⟩
  | ok first => simp [map_append_eq_ok_iff]

/-- and so are the bodies of branches, of which the selected one keeps its
text. -/
theorem surveyBranches_cons_eq_ok_iff {branch : Branch} {rest : List Branch}
    {selected : Option Nat} :
    surveyBranches g inTurn selected (branch :: rest) = .ok bodies ↔
      ∃ first more, surveyAll g inTurn branch.body = .ok first ∧
        surveyBranches g inTurn (selected.bind fun n => if n = 0 then none else some (n - 1)) rest =
          .ok more ∧
        bodies = (if selected = some 0 then first else first.silent).append more := by
  obtain ⟨position, source, condition, body⟩ := branch
  rw [surveyBranches, Branch.body]
  cases surveyAll g inTurn body with
  | error failure => exact ⟨nofun, nofun⟩
  | ok first => simp [map_append_eq_ok_iff]

/-- Where no branch is selected the bodies have no text. -/
theorem text_of_surveyBranches_none (h : surveyBranches g inTurn none branches = .ok bodies) :
    bodies.text = "" := by
  induction branches generalizing bodies with
  | nil =>
    cases h
    rfl
  | cons branch rest ih =>
    obtain ⟨first, more, _, hrest, rfl⟩ := surveyBranches_cons_eq_ok_iff.1 h
    rw [if_neg nofun, Survey.text_append, Survey.text_silent, ih hrest, String.append_empty]

/-- The survey of conditions is without text. -/
theorem text_surveyConditions (g : Ground) (branches : List Branch) :
    (surveyConditions g branches).text = "" := by
  induction branches with
  | nil => rfl
  | cons branch rest ih =>
    simp only [surveyConditions, List.map_cons, List.foldr_cons, Survey.text_append] at ih ⊢
    rw [ih]
    rfl

/-- The survey of a choice has those of its conditions and of its bodies. Of
the last body the text is kept if no branch is selected. -/
theorem of_surveyNode_choice {info : NodeInfo} {otherwise : Option (List Node)}
    (h : surveyNode g inTurn (.choice info branches otherwise) = .ok survey) :
    ∃ bodies last, surveyBranches g inTurn (selected? g branches) branches = .ok bodies ∧
      (∀ body, otherwise = some body → surveyAll g inTurn body = .ok last) ∧
      (otherwise = none → last = {}) ∧
      survey = (surveyConditions g branches).append
        (bodies.append (if (selected? g branches).isNone then last else last.silent)) := by
  cases otherwise with
  | none =>
    rw [surveyNode] at h
    obtain ⟨bodies, hbodies, rfl⟩ := map_append_eq_ok_iff.1 h
    have hempty :
        (if (selected? g branches).isNone then ({} : Survey) else Survey.silent {}) = {} :=
      ite_self _
    exact ⟨bodies, {}, hbodies, nofun, fun _ => rfl, by rw [hempty, Survey.append_empty]⟩
  | some body =>
    rw [surveyNode] at h
    cases hbodies : surveyBranches g inTurn (selected? g branches) branches with
    | error failure => simp only [hbodies] at h; cases h
    | ok bodies =>
      cases hlast : surveyAll g inTurn body with
      | error failure => simp only [hbodies, hlast] at h; cases h
      | ok last =>
        simp only [hbodies, hlast] at h
        cases h
        refine ⟨bodies, last, rfl, fun other hother => ?_, nofun, rfl⟩
        rw [← Option.some.inj hother, hlast]

/-! ## The report -/

/-- Names that are kept once are those there were. -/
theorem mem_foldl_once {names seen : List String} {name : String} :
    name ∈ names.foldl (fun seen name => if seen.contains name then seen else name :: seen) seen ↔
      name ∈ seen ∨ name ∈ names := by
  induction names generalizing seen with
  | nil => simp
  | cons first rest ih =>
    rw [List.foldl_cons, ih, List.mem_cons]
    by_cases hseen : first ∈ seen
    · rw [if_pos (List.contains_iff_mem.2 hseen)]
      constructor
      · exact Or.imp_right .inr
      · rintro (h | rfl | h)
        exacts [.inl h, .inl hseen, .inr h]
    · rw [if_neg (mt List.contains_iff_mem.1 hseen), List.mem_cons, or_left_comm, or_assoc]

/-- **A variable is missing** where it was met with neither a value nor a
default. -/
theorem mem_missingOf {uses : List VariableUse} {name : String} :
    name ∈ missingOf uses ↔
      ∃ use ∈ uses, use.inData = false ∧ use.fallback = none ∧ use.name = name := by
  simp only [missingOf, List.mem_reverse, mem_foldl_once, List.not_mem_nil, false_or, List.mem_map,
    List.mem_filter, Bool.and_eq_true, Bool.not_eq_true', Option.isNone_iff_eq_none, and_assoc]

end DryRun

/-- **A dry run reports on the survey of what the template stands for.** -/
theorem Engine.of_dryRun {e : Engine} {t : Template} {data : Value} {j j₁ : Journal}
    {report : DryRun.Report} (h : (e.dryRun t data).run j = (.ok report, j₁)) :
    ∃ nodes survey, (e.effective t).run j = (.ok nodes, j₁) ∧
      DryRun.surveyAll ⟨e, data, e.has j₁.store⟩ false nodes = .ok survey ∧
      report = { survey.report data with
        warnings := (survey.report data).warnings ++
          (t.issues.filter (!·.isError)).map Issue.text } := by
  rw [dryRun] at h
  obtain ⟨nodes, j₀, hnodes, h⟩ := Run.bind_eq_ok_iff.1 h
  obtain ⟨_, _, hget, h⟩ := Run.bind_eq_ok_iff.1 h
  cases hget
  obtain ⟨survey, j₂, hlifted, h⟩ := Run.bind_eq_ok_iff.1 h
  rw [Run.run_liftM] at hlifted
  obtain ⟨hsurvey, rfl⟩ := Prod.mk.inj hlifted
  obtain ⟨rfl, rfl⟩ := Run.pure_eq_ok_iff.1 h
  exact ⟨nodes, survey, hnodes, hsurvey, rfl⟩

end PromptMarkup
