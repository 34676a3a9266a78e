import PromptMarkup.Proofs.Engine.Lineage
import PromptMarkup.Proofs.Render.Available
/-!
# Render — what a run adds to a journal

A run adds to the logs and the reads of a journal and takes nothing away.
What it adds depends on the templates that are available, and neither on what
was logged and read before nor on which of the templates were met before
(`Engine.Echoes`). So renders of a template one after another add the same
each time (`echoes_execute`).
-/

namespace PromptMarkup

namespace Engine

variable {e : Engine}

/-- One journal becomes another by what is added to its logs and its reads. -/
def Adds (logs : Array LogEvent) (reads : Array VariableRead) (j j' : Journal) : Prop :=
  j'.logs = j.logs ++ logs ∧ j'.reads = j.reads ++ reads

/-- Where the same templates are available the runs yield the same, and they
add the same to logs and reads. -/
def Echoes (e : Engine) (α : Type) (run run' : Run α) : Prop :=
  e.Alike α run run' ∧ ∀ j j', e.available j.store = e.available j'.store →
    ∃ logs reads, Adds logs reads j (run.run j).2 ∧ Adds logs reads j' (run'.run j').2

theorem adds_nothing {j j' : Journal} (hlogs : j'.logs = j.logs) (hreads : j'.reads = j.reads) :
    Adds #[] #[] j j' := by
  rw [Adds, hlogs, hreads, Array.append_empty, Array.append_empty]
  exact ⟨rfl, rfl⟩

theorem Adds.trans {logs logs' : Array LogEvent} {reads reads' : Array VariableRead}
    {j j₁ j₂ : Journal} (h : Adds logs reads j j₁) (h' : Adds logs' reads' j₁ j₂) :
    Adds (logs ++ logs') (reads ++ reads') j j₂ := by
  rw [Adds, h'.1, h.1, h'.2, h.2, Array.append_assoc, Array.append_assoc]
  exact ⟨rfl, rfl⟩

theorem congruence_echoes (e : Engine) : Run.Congruence e.Echoes where
  pure a := ⟨(congruence_alike e).pure a, fun _ _ _ =>
    ⟨#[], #[], adds_nothing rfl rfl, adds_nothing rfl rfl⟩⟩
  throw failure := ⟨(congruence_alike e).throw failure, fun _ _ _ =>
    ⟨#[], #[], adds_nothing rfl rfl, adds_nothing rfl rfl⟩⟩
  record read := by
    refine ⟨(congruence_alike e).record read, fun j j' _ => ?_⟩
    cases read with
    | none => exact ⟨#[], #[], adds_nothing rfl rfl, adds_nothing rfl rfl⟩
    | some read =>
      exact ⟨#[], #[read], ⟨Array.append_empty.symm, rfl⟩, ⟨Array.append_empty.symm, rfl⟩⟩
  bind {_ _ first first' next next'} hfirst hnext := by
    refine ⟨(congruence_alike e).bind hfirst.1 fun a => (hnext a).1, fun j j' h => ?_⟩
    obtain ⟨logs, reads, hadds, hadds'⟩ := hfirst.2 j j' h
    obtain ⟨hresult, hs, hs'⟩ := hfirst.1 j j' h
    rw [Tree.Effect.run_bind, Tree.Effect.run_bind]
    revert hadds hadds' hresult hs hs'
    rcases first.run j with ⟨result, k⟩
    rcases first'.run j' with ⟨result', k'⟩
    intro hadds hadds' hresult hs hs'
    obtain rfl : result = result' := hresult
    cases result with
    | error failure => exact ⟨logs, reads, hadds, hadds'⟩
    | ok a =>
      obtain ⟨logs', reads', hmore, hmore'⟩ := (hnext a).2 k k' (hs.trans (h.trans hs'.symm))
      exact ⟨logs ++ logs', reads ++ reads', hadds.trans hmore, hadds'.trans hmore'⟩

/-- Loads add nothing. -/
theorem echoes_load (e : Engine) (name : String) : e.Echoes _ (e.load name) (e.load name) := by
  refine ⟨alike_load e name, fun j j' _ => ⟨#[], #[], ?_, ?_⟩⟩
  · exact adds_nothing (grown_load e name j).logs (grown_load e name j).reads
  · exact adds_nothing (grown_load e name j').logs (grown_load e name j').reads

/-- What is left of a failure adds one log entry at most. -/
theorem echoes_recover (e : Engine) (place : Place) (info : NodeInfo) (tag : String)
    (failure : Failure) :
    e.Echoes _ (e.recover place info tag failure) (e.recover place info tag failure) := by
  refine ⟨alike_recover e place info tag failure, fun j j' _ => ?_⟩
  cases hfatal : failure.isFatal with
  | true =>
    rw [recover_of_isFatal hfatal]
    exact ⟨#[], #[], adds_nothing rfl rfl, adds_nothing rfl rfl⟩
  | false =>
    rw [recover_run hfatal, recover_run hfatal]
    cases e.options.strategyFor info.strategy with
    | log => exact ⟨#[_], #[], ⟨rfl, Array.append_empty.symm⟩, ⟨rfl, Array.append_empty.symm⟩⟩
    | _ => exact ⟨#[], #[], adds_nothing rfl rfl, adds_nothing rfl rfl⟩

/-- **Renders of a template add the same each time.** -/
theorem echoes_execute (e : Engine) (t : Template) (data : Value) :
    e.Echoes _ (e.execute t data) (e.execute t data) := by
  have hrender : e.Echoes _ (e.render t data) (e.render t data) :=
    (congruence_echoes e).render (s := e.options.strategy) (echoes_load e) (echoes_recover e) t data
  exact (congruence_echoes e).map Rendered.text hrender

end Engine

end PromptMarkup
