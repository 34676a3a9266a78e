import PromptMarkup.Proofs.Inherit.Effective
import PromptMarkup.Proofs.Render.Related
/-!
# Render — where strategies make a difference

Two engines that differ in their strategy alone go the same way until a node
without a strategy of its own fails. Under a strategy that raises, a render
that succeeds has met no such node, so every other strategy gives the same
text and leaves the same behind (`Succeeds`). To remove and to log give the
same throughout, up to what is logged (`SameButLogs`).
-/

namespace PromptMarkup

namespace Engine

/-- Where the first run succeeds, the second does the same. -/
def Succeeds (α : Type) (run run' : Run α) : Prop :=
  ∀ j a j', run.run j = (.ok a, j') → run'.run j = (.ok a, j')

/-- Two journals are the same up to the failures that were logged. -/
def SameReads (j j' : Journal) : Prop :=
  j.store = j'.store ∧ j.reads = j'.reads

/-- The runs yield the same, and leave the same behind up to what they log. -/
def SameButLogs (α : Type) (run run' : Run α) : Prop :=
  ∀ j j', SameReads j j' →
    (run.run j).1 = (run'.run j').1 ∧ SameReads (run.run j).2 (run'.run j').2

theorem congruence_succeeds : Run.Congruence Succeeds where
  pure _ _ _ _ h := h
  throw _ _ _ _ h := h
  record _ _ _ _ h := h
  bind {_ _ first first' _ _} hfirst hnext := by
    intro j b j'' hrun
    rw [Tree.Effect.run_bind] at hrun ⊢
    rcases hstep : first.run j with ⟨failure | a, j'⟩
    · rw [hstep] at hrun
      cases hrun
    · rw [hstep] at hrun
      rw [hfirst j a j' hstep]
      exact hnext a j' b j'' hrun

theorem congruence_sameButLogs : Run.Congruence SameButLogs where
  pure _ _ _ h := ⟨rfl, h⟩
  throw _ _ _ h := ⟨rfl, h⟩
  record read j j' h := by
    cases read with
    | none => exact ⟨rfl, h⟩
    | some read => exact ⟨rfl, h.1, congrArg (·.push read) h.2⟩
  bind {_ _ first first' _ _} hfirst hnext := by
    intro j j' h
    rw [Tree.Effect.run_bind, Tree.Effect.run_bind]
    have hstep := hfirst j j' h
    revert hstep
    rcases first.run j with ⟨result, s⟩
    rcases first'.run j' with ⟨result', s'⟩
    rintro ⟨hresult, hleft⟩
    obtain rfl : result = result' := hresult
    cases result with
    | error failure => exact ⟨rfl, hleft⟩
    | ok a => exact hnext a s s' hleft

/-- A node's own strategy is the same in every engine; without one it is the
engine's. -/
theorem strategyFor_withStrategy (e : Engine) (s own : Option Strategy) :
    (e.withStrategy s).options.strategyFor own = (own.or s).getD .raise := rfl

/-- **Under a strategy that raises no node without its own is settled.** -/
theorem succeeds_recover {e : Engine} {raising : Option Strategy}
    (hraising : raising.getD .raise = .raise) (s : Option Strategy) (place : Place)
    (info : NodeInfo) (tag : String) (failure : Failure) :
    Succeeds Rendered ((e.withStrategy raising).recover place info tag failure)
      ((e.withStrategy s).recover place info tag failure) := by
  intro j r j' hrun
  cases hfatal : failure.isFatal with
  | true =>
    rw [recover_of_isFatal hfatal] at hrun
    cases hrun
  | false =>
    rw [recover_run hfatal, strategyFor_withStrategy] at hrun ⊢
    cases hown : info.strategy with
    | some own =>
      rw [hown] at hrun
      exact hrun
    | none =>
      rw [hown, Option.none_or, hraising] at hrun
      cases hrun

/-- **To remove and to log leave the same of a failure.** -/
theorem sameButLogs_recover (e : Engine) (place : Place) (info : NodeInfo) (tag : String)
    (failure : Failure) :
    SameButLogs Rendered ((e.withStrategy (some .remove)).recover place info tag failure)
      ((e.withStrategy (some .log)).recover place info tag failure) := by
  intro j j' h
  cases hfatal : failure.isFatal with
  | true =>
    rw [recover_of_isFatal hfatal, recover_of_isFatal hfatal]
    exact ⟨rfl, h⟩
  | false =>
    rw [recover_run hfatal, recover_run hfatal, strategyFor_withStrategy, strategyFor_withStrategy]
    cases hown : info.strategy with
    | none => exact ⟨rfl, h⟩
    | some own => cases own <;> exact ⟨rfl, h⟩

/-- A load leaves the same behind where the same templates are known. -/
theorem sameButLogs_load (e : Engine) (name : String) :
    SameButLogs (Option Template) (e.load name) (e.load name) := by
  intro j j' h
  rw [load_run, load_run, h.1]
  exact ⟨rfl, rfl, h.2⟩

/-- **Strategies make a difference only where a node fails.** What renders
under a strategy that raises renders to the same text under every strategy,
and leaves the same behind, the failures that were logged among it. And to
remove gives the same result as to log, be it a text or a failure. -/
theorem execute_withStrategy (e : Engine) (t : Template) (data : Value) (j : Journal) :
    (∀ raising : Option Strategy, raising.getD .raise = .raise → ∀ text j',
      ((e.withStrategy raising).execute t data).run j = (.ok text, j') →
        ∀ s, ((e.withStrategy s).execute t data).run j = (.ok text, j')) ∧
    (((e.withStrategy (some .remove)).execute t data).run j).1 =
      (((e.withStrategy (some .log)).execute t data).run j).1 := by
  refine ⟨fun raising hraising text j' hrun s => ?_, ?_⟩
  · have hrender : Succeeds Rendered ((e.withStrategy raising).render t data)
        ((e.withStrategy s).render t data) :=
      congruence_succeeds.render (fun _ _ _ _ h => h) (succeeds_recover hraising s) t data
    exact congruence_succeeds.map Rendered.text hrender j text j' hrun
  · have hrender : SameButLogs Rendered ((e.withStrategy (some .remove)).render t data)
        ((e.withStrategy (some .log)).render t data) :=
      congruence_sameButLogs.render (sameButLogs_load _) (sameButLogs_recover e) t data
    exact (congruence_sameButLogs.map Rendered.text hrender j j ⟨rfl, rfl⟩).1

end Engine

namespace Sample

/-- A greeting for every guest, in which a guest without a name is logged and
passed over. -/
def greeting : Template :=
  template {} "greeting" (tagged "prompty.for item=\"guest\" in=\"guests\"" ++
    tagged "prompty.var name=\"guest.name\" onerror=\"log\" /" ++ "!" ++ tagged "/prompty.for")

/-- Two guests, one of them without a name. -/
def guests : Value :=
  .ofFields [("guests", .list [.ofFields [("name", .text "Ann")], .ofFields []])]

theorem execute_withStrategy_greeting :
    ∃ j', ((({} : Engine).withStrategy none).execute greeting guests).run {} = (.ok "Ann!!", j') ∧
      j'.logs.size = 1 ∧
      ((({} : Engine).withStrategy (some .keepRaw)).execute greeting guests).run {} =
        (.ok "Ann!!", j') := by
  have hrun : (match (({} : Engine).withStrategy none).execute greeting guests |>.run {} with
      | (.ok text, j) => decide (text = "Ann!!" ∧ j.logs.size = 1)
      | (.error _, _) => false) = true := by decide +kernel
  split at hrun
  · next text j' hok =>
    obtain ⟨rfl, hlogs⟩ := of_decide_eq_true hrun
    exact ⟨j', hok, hlogs, (Engine.execute_withStrategy {} greeting guests {}).1 none rfl _ j' hok
      (some .keepRaw)⟩
  · cases hrun

end Sample

end PromptMarkup
