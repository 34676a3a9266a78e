import PromptMarkup.Explain
import PromptMarkup.Proofs.Inherit.Effective
import PromptMarkup.Proofs.Render.Additions
import PromptMarkup.Proofs.Render.Evaluations
/-!
# Render — explanations

An explanation resolves the inheritance of its template once before it
renders, for the outline, and starts a record of its own. Neither makes a
difference to the render (`Engine.echoes_execute`), so the explanation has the
result of executing the template and logs the same failures, and its reads are
the evaluations of that execution (`Engine.explain_faithful`).
-/

namespace PromptMarkup

namespace Engine

variable {e : Engine}

/-- Executing a template evaluates these variables, in this order. -/
def Evaluates (e : Engine) (t : Template) (data : Value) (j : Journal)
    (evaluations : List Evaluation) : Prop :=
  InOrder
    (fun s node => ∃ nodes j₁, (e.effective t).run j = (.ok nodes, j₁) ∧
      e.Comes (e.start t data j₁) nodes s node)
    j.reads.toList evaluations

/-- **An execution records the variables that it evaluates.** -/
theorem exists_evaluates (e : Engine) (t : Template) (data : Value) (j : Journal) :
    ∃ evaluations, e.Evaluates t data j evaluations ∧
      ((e.execute t data).run j).2.reads.toList =
        j.reads.toList ++ evaluations.map Evaluation.read := by
  have hresolved := (grown_effective e t j).reads
  suffices h : Recounts _ j ((e.execute t data).run j).2 from h
  rw [execute, Run.run_map, render, Tree.Effect.run_bind]
  rcases hnodes : (e.effective t).run j with ⟨failure | nodes, j₁⟩ <;> rw [hnodes] at hresolved
  · refine .nothing ?_ hresolved
    rintro s info path ⟨_, _, hok, _⟩
    cases hok
  · have hrender := recounts_renderFrom (e := e) (e.start t data j₁) nodes
    simp only [renderAt_eq]
    refine (hrender.of_reads hresolved).congr fun s info path => ?_
    constructor
    · rintro ⟨_, _, hok, hcomes⟩
      cases hok
      exact hcomes
    · exact fun hcomes => ⟨nodes, j₁, rfl, hcomes⟩

/-- What an explanation is made of: the execution of the template, with a new
record and after its inheritance was resolved once. -/
theorem explain_run (e : Engine) (name source : String) (data : Value) (j : Journal) :
    (e.explain name source data).run j =
      match e.parse name source with
      | .error failure => (⟨"", [], .error failure⟩, j)
      | .ok t =>
        let resolved := (e.effective t).run j
        let executed := (e.execute t data).run { resolved.2 with reads := #[] }
        let outline :=
          match resolved.1 with
          | .ok nodes => Tree.outline ⟨t.name, nodes⟩
          | .error _ => t.tree.outline
        (⟨outline, executed.2.reads.toList, executed.1⟩, executed.2) := by
  rw [explain]
  cases e.parse name source <;> rfl

/-- **An explanation is a faithful run.** A source that cannot be read is
explained by its failure alone. Else the result is that of executing the
template, with the same failures logged, and the reads are what its
evaluations of variables found, each once and in their order, up to the node
that ended the execution if one did. -/
theorem explain_faithful (e : Engine) (name source : String) (data : Value) (j : Journal) :
    (∀ failure, e.parse name source = .error failure →
      (e.explain name source data).run j = (⟨"", [], .error failure⟩, j)) ∧
    ∀ t, e.parse name source = .ok t →
      ((e.explain name source data).run j).1.result = ((e.execute t data).run j).1 ∧
      ((e.explain name source data).run j).2.logs = ((e.execute t data).run j).2.logs ∧
      ∃ evaluations, e.Evaluates t data j evaluations ∧ evaluations.Nodup ∧
        ((e.explain name source data).run j).1.reads = evaluations.map Evaluation.read := by
  refine ⟨fun failure hparse => by rw [explain_run, hparse], fun t hparse => ?_⟩
  have hgrown := grown_effective e t j
  obtain ⟨halike, hadds⟩ := echoes_execute e t data
  have hsame : e.available ({ ((e.effective t).run j).2 with reads := #[] } : Journal).store =
      e.available j.store := hgrown.available_eq
  obtain ⟨logs, reads, ⟨hlogs, hreads⟩, hlogs', hreads'⟩ := hadds _ _ hsame
  obtain ⟨evaluations, hevaluates, hrecorded⟩ := exists_evaluates e t data j
  simp only [explain_run, hparse]
  refine ⟨(halike _ _ hsame).1, ?_, evaluations, hevaluates, hevaluates.successive.nodup, ?_⟩
  · rw [hlogs, hlogs', hgrown.logs]
  · rw [hreads', Array.toList_append] at hrecorded
    rw [hreads, Array.toList_append, List.append_cancel_left hrecorded]
    rfl

end Engine

namespace Sample

/-- An engine that is provided with a farewell. -/
def host : Engine where
  provider name :=
    if name = "farewell" then some (tagged "prompty.var name=\"farewell\" default=\"Bye\" /")
    else none

/-- A call of guests by name, with a farewell and a name that is missing. -/
def rollCall : String :=
  tagged "prompty.for item=\"guest\" in=\"guests\"" ++ tagged "prompty.var name=\"guest\" /" ++
    tagged "/prompty.for" ++ tagged "prompty.include template=\"farewell\" /" ++
    tagged "prompty.var name=\"host\" /" ++ tagged "prompty.var name=\"farewell\" /"

/-- Two guests. -/
def visitors : Value :=
  .ofFields [("guests", .list [.text "Ann", .text "Bo"])]

/-- Both rounds of the loop and the inclusion are explained, and then the name
that is missing, where the execution ends. -/
theorem explain_faithful_rollCall :
    ∃ evaluations, host.Evaluates (template host "call" rollCall) visitors {} evaluations ∧
      evaluations.map (·.read.resolution) =
        [.value "Ann", .value "Bo", .fallback "Bye", .notFound] ∧
      ((host.execute (template host "call" rollCall) visitors).run {}).1.isOk = false := by
  have hparse : host.parse "call" rollCall = .ok (template host "call" rollCall) :=
    parse_template (by decide +kernel)
  have hexplained : (let explained := ((host.explain "call" rollCall visitors).run {}).1
      explained.reads.map (·.resolution) =
          [.value "Ann", .value "Bo", .fallback "Bye", .notFound] ∧
        explained.result.isOk = false) := by decide +kernel
  obtain ⟨hreads, hfails⟩ := hexplained
  obtain ⟨hresult, _, evaluations, hevaluates, _, htrace⟩ :=
    (Engine.explain_faithful host "call" rollCall visitors {}).2 _ hparse
  refine ⟨evaluations, hevaluates, ?_, hresult ▸ hfails⟩
  rw [htrace, List.map_map] at hreads
  exact hreads

end Sample

end PromptMarkup
