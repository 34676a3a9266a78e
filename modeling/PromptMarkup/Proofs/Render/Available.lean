import PromptMarkup.Proofs.Render.Related
/-!
# Render — what a render takes from the store

A render sees of the store only which templates are available, and it never
changes that: where the same is available it yields the same, and what is
available afterwards is what was available before (`Alike`). So what was
logged, what was read and which of the provided templates were met before
have no influence on a render.
-/

namespace PromptMarkup

namespace Engine

variable {e : Engine} {enter : Option Renderer} {place : Place} {ctx : Context} {j j' : Journal}

/-- Where the same templates are available the runs yield the same, and they
leave the same available. -/
def Alike (e : Engine) (α : Type) (run run' : Run α) : Prop :=
  ∀ j j', e.available j.store = e.available j'.store →
    (run.run j).1 = (run'.run j').1 ∧
      e.available (run.run j).2.store = e.available j.store ∧
      e.available (run'.run j').2.store = e.available j'.store

theorem congruence_alike (e : Engine) : Run.Congruence e.Alike where
  pure _ _ _ _ := ⟨rfl, rfl, rfl⟩
  throw _ _ _ _ := ⟨rfl, rfl, rfl⟩
  record read _ _ _ := by cases read <;> exact ⟨rfl, rfl, rfl⟩
  bind {_ _ first first' _ _} hfirst hnext := by
    intro j j' h
    have hstep := hfirst j j' h
    rw [Tree.Effect.run_bind, Tree.Effect.run_bind]
    revert hstep
    rcases first.run j with ⟨result, s⟩
    rcases first'.run j' with ⟨result', s'⟩
    rintro ⟨hresult, hs, hs'⟩
    obtain rfl : result = result' := hresult
    cases result with
    | error failure => exact ⟨rfl, hs, hs'⟩
    | ok a =>
      obtain ⟨hlast, hl, hl'⟩ := hnext a s s' (hs.trans (h.trans hs'.symm))
      exact ⟨hlast, hl.trans hs, hl'.trans hs'⟩

/-- **Loads see what is available.** -/
theorem alike_load (e : Engine) (name : String) : e.Alike _ (e.load name) (e.load name) := by
  intro j j' h
  rw [load_run, load_run]
  exact ⟨congrFun h name, available_stocked _ _ _, available_stocked _ _ _⟩

/-- And so does the resolution of inheritance. -/
theorem alike_effective (e : Engine) (t : Template) :
    e.Alike _ (e.effective t) (e.effective t) :=
  (congruence_alike e).effective (alike_load e) t

/-- What is left of a failure has nothing to do with the store. -/
theorem alike_recover (e : Engine) (place : Place) (info : NodeInfo) (tag : String)
    (failure : Failure) :
    e.Alike _ (e.recover place info tag failure) (e.recover place info tag failure) := by
  intro j j' _
  cases hfatal : failure.isFatal with
  | true =>
    rw [recover_of_isFatal hfatal]
    exact ⟨rfl, rfl, rfl⟩
  | false =>
    rw [recover_run hfatal, recover_run hfatal]
    cases e.options.strategyFor info.strategy <;> exact ⟨rfl, rfl, rfl⟩

/-- **Renders see only what is available**, and leave it available. -/
theorem alike_renderAll (e : Engine) (depth : Nat) (place : Place) (ctx : Context)
    (nodes : List Node) :
    e.Alike _ (e.renderAll (e.enterAt depth) place ctx nodes)
      (e.renderAll (e.enterAt depth) place ctx nodes) := by
  have h : e.Alike _ (e.renderAt depth place ctx nodes) (e.renderAt depth place ctx nodes) :=
    (congruence_alike e).renderAt (s := e.options.strategy) (alike_load e) (alike_recover e) _ _ _ _
  rwa [renderAt_eq] at h

theorem alike_renderNode (e : Engine) (depth : Nat) (place : Place) (ctx : Context)
    (node : Node) :
    e.Alike _ (e.renderNode (e.enterAt depth) place ctx node)
      (e.renderNode (e.enterAt depth) place ctx node) := by
  have h := alike_renderAll e depth place ctx [node]
  simpa [renderAll] using h

theorem alike_renderParts (e : Engine) (depth : Nat) (place : Place)
    (parts : List (Context × List Node)) :
    e.Alike _ (e.renderParts (e.enterAt depth) place parts)
      (e.renderParts (e.enterAt depth) place parts) := by
  induction parts with
  | nil => exact (congruence_alike e).pure _
  | cons part rest ih =>
    exact (congruence_alike e).bind (alike_renderAll e depth place part.1 part.2) fun _ =>
      (congruence_alike e).bind ih fun _ => (congruence_alike e).pure _

/-- What is available after a run is what was available before. -/
theorem Alike.available_eq {α : Type} {run : Run α} (h : e.Alike α run run) {j : Journal}
    {result : Except Failure α} {j' : Journal} (hrun : run.run j = (result, j')) :
    e.available j'.store = e.available j.store := by
  have := (h j j rfl).2.1
  rwa [hrun] at this

/-- And wherever the same is available a run yields the same. -/
theorem Alike.eq_ok {α : Type} {run : Run α} (h : e.Alike α run run) {a : α} {j j' k : Journal}
    (hk : e.available k.store = e.available j.store) (hrun : run.run j = (.ok a, j')) :
    ∃ k', run.run k = (.ok a, k') := by
  refine ⟨(run.run k).2, Prod.ext ?_ rfl⟩
  rw [(h k j hk).1, hrun]

end Engine

end PromptMarkup
