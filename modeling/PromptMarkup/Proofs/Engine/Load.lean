import PromptMarkup.Engine
import PromptMarkup.Proofs.Inherit.Ascent
import PromptMarkup.Proofs.Token.Refusal
/-!
# Engine — what loading finds

What is found under a name depends on the store and the provider alone
(`Engine.available`), and a load finds just that (`load_run`). It may put
what it found into the store, where the next load then finds the same, so
no load changes what is available (`available_stocked`). What loading and
the resolution of inheritance fail with is always a fault of a template
itself (`isFatal_of_available`, `isFatal_of_effective`).
-/

namespace PromptMarkup

/-! ## The parts of a run -/

namespace Run

variable {α β : Type}

theorem run_get (j : Journal) : (get : Run Journal).run j = (.ok j, j) := rfl

theorem run_liftM (result : Except Failure α) (j : Journal) :
    (liftM result : Run α).run j = (result, j) := by
  cases result <;> rfl

/-- To do nothing succeeds, -/
theorem pure_eq_ok_iff {a b : α} {j j' : Journal} :
    (pure a : Run α).run j = (.ok b, j') ↔ a = b ∧ j = j' := by
  constructor
  · intro h
    cases h
    exact ⟨rfl, rfl⟩
  · rintro ⟨rfl, rfl⟩
    rfl

/-- and does not fail. -/
theorem pure_ne_error {a : α} {failure : Failure} {j j' : Journal} :
    (pure a : Run α).run j ≠ (.error failure, j') := nofun

/-- One run after another succeeds where both do, -/
theorem bind_eq_ok_iff {first : Run α} {next : α → Run β} {b : β} {j j' : Journal} :
    (first >>= next).run j = (.ok b, j') ↔
      ∃ a j₁, first.run j = (.ok a, j₁) ∧ (next a).run j₁ = (.ok b, j') := by
  rw [Tree.Effect.run_bind]
  rcases first.run j with ⟨failure | a, j₁⟩
  · exact ⟨nofun, nofun⟩
  · constructor
    · exact fun h => ⟨a, j₁, rfl, h⟩
    · rintro ⟨_, _, hfirst, h⟩
      cases hfirst
      exact h

/-- and fails where either does. -/
theorem bind_eq_error_iff {first : Run α} {next : α → Run β} {failure : Failure} {j j' : Journal} :
    (first >>= next).run j = (.error failure, j') ↔
      first.run j = (.error failure, j') ∨
        ∃ a j₁, first.run j = (.ok a, j₁) ∧ (next a).run j₁ = (.error failure, j') := by
  rw [Tree.Effect.run_bind]
  rcases first.run j with ⟨f | a, j₁⟩
  · constructor
    · intro h
      cases h
      exact .inl rfl
    · rintro (h | ⟨_, _, hfirst, _⟩)
      · cases h
        rfl
      · cases hfirst
  · constructor
    · exact fun h => .inr ⟨a, j₁, rfl, h⟩
    · rintro (h | ⟨_, _, hfirst, h⟩)
      · cases h
      · cases hfirst
        exact h

/-- What a run yields can be changed; what it leaves behind stays. -/
theorem run_map (f : α → β) (run : Run α) (j : Journal) :
    (f <$> run).run j = ((run.run j).1.map f, (run.run j).2) := by
  rw [← bind_pure_comp, Tree.Effect.run_bind]
  rcases run.run j with ⟨_ | _, _⟩ <;> rfl

theorem map_eq_ok_iff {f : α → β} {run : Run α} {b : β} {j j' : Journal} :
    (f <$> run).run j = (.ok b, j') ↔ ∃ a, run.run j = (.ok a, j') ∧ f a = b := by
  simp only [← bind_pure_comp, bind_eq_ok_iff, pure_eq_ok_iff]
  constructor
  · rintro ⟨a, _, h, hb, rfl⟩
    exact ⟨a, h, hb⟩
  · rintro ⟨a, h, hb⟩
    exact ⟨a, j', h, hb, rfl⟩

theorem map_eq_error_iff {f : α → β} {run : Run α} {failure : Failure} {j j' : Journal} :
    (f <$> run).run j = (.error failure, j') ↔ run.run j = (.error failure, j') := by
  simp only [← bind_pure_comp, bind_eq_error_iff, pure_ne_error, and_false, exists_false, or_false]

end Run

namespace Engine

variable {e : Engine} {store : Store} {name : String} {failure : Failure} {j j' : Journal}

/-! ## Loads -/

/-- What is found under a name: the template in the store, or else what the
source that is provided reads as. -/
def available (e : Engine) (store : Store) (name : String) : Except Failure (Option Template) :=
  match Keyed.find? store name with
  | some t => .ok (some t)
  | none =>
    match e.provider name with
    | none => .ok none
    | some source => (e.parse name source).map some

/-- What is available but not in the store is provided. -/
theorem provided_of_available {t : Template} (hnone : Keyed.find? store name = none)
    (h : e.available store name = .ok (some t)) :
    ∃ source, e.provider name = some source ∧ e.parse name source = .ok t := by
  simp only [available, hnone] at h
  split at h
  · cases h
  · next source hsource =>
    cases hparse : e.parse name source with
    | error failure =>
      rw [hparse] at h
      cases h
    | ok read =>
      rw [hparse] at h
      cases h
      exact ⟨source, hsource, hparse⟩

/-- The store after a name was asked for. -/
def stocked (e : Engine) (store : Store) (name : String) : Store :=
  match Keyed.find? store name, e.available store name with
  | none, .ok (some t) => Keyed.insert name t store
  | _, _ => store

/-- **A load finds what is available** and changes nothing but the store. -/
theorem load_run (e : Engine) (name : String) (j : Journal) :
    (e.load name).run j =
      (e.available j.store name, { j with store := e.stocked j.store name }) := by
  rw [load, Tree.Effect.run_bind, Run.run_get, stocked, available]
  simp only
  cases Keyed.find? j.store name with
  | some t => rfl
  | none =>
    cases e.provider name with
    | none => rfl
    | some source =>
      simp only [Tree.Effect.run_bind, Run.run_liftM]
      cases e.parse name source <;> rfl

/-- **What was asked for is as available as before**, and so is all else. -/
theorem available_stocked (e : Engine) (store : Store) (name : String) :
    e.available (e.stocked store name) = e.available store := by
  funext other
  rw [stocked]
  split
  · next t hfind hfound =>
    simp only [available, Keyed.find?_insert] at hfound ⊢
    by_cases h : other = name
    · subst h
      simp only [if_true, hfound]
    · simp only [if_neg h]
  · rfl

/-! ## Their failures -/

/-- A source that is refused has a fault of its own. -/
theorem isFatal_of_parse {source : String} (h : e.parse name source = .error failure) :
    failure.isFatal = true := by
  simp only [parse, Template.parse, Tree.parse] at h
  cases htokens : Token.read e.options.delimiters source with
  | error refusal =>
    rw [htokens] at h
    cases h
    obtain ⟨fault, position, rfl⟩ := Token.lexical_of_read htokens
    rfl
  | ok tokens =>
    rw [htokens] at h
    simp only [Except.map] at h
    split at h
    · cases h
      rfl
    · cases h

/-- **A load fails for a fault of the template.** -/
theorem isFatal_of_available (h : e.available store name = .error failure) :
    failure.isFatal = true := by
  rw [available] at h
  split at h
  · cases h
  · split at h
    · cases h
    · next source _ =>
      cases hparse : e.parse name source with
      | error refusal =>
        rw [hparse] at h
        cases h
        exact isFatal_of_parse hparse
      | ok t =>
        rw [hparse] at h
        cases h

theorem isFatal_of_load (h : (e.load name).run j = (.error failure, j')) :
    failure.isFatal = true := by
  rw [load_run] at h
  exact isFatal_of_available (congrArg Prod.fst h)

/-- **Inheritance fails for a fault of a template**, or of the chain. -/
theorem isFatal_of_effective {t : Template} (h : (e.effective t).run j = (.error failure, j')) :
    failure.isFatal = true := by
  rw [effective, Tree.effective_run] at h
  obtain ⟨_, _, _, _, _, _, ⟨_, hok⟩ | ⟨f, s', hobstacle, herror⟩⟩ :=
    Tree.inherited_spec (fun name => (·.map Template.tree) <$> e.load name) e.options.maxDepth
      e.options.maxDepth [t.tree.name] t.tree j rfl (by simp)
  · rw [hok] at h
    cases h
  · rw [herror] at h
    cases h
    cases hobstacle with
    | refused _ _ _ hload => exact isFatal_of_load (Run.map_eq_error_iff.1 hload)
    | _ => rfl

end Engine

namespace Sample

/-- The template of a source that an engine reads, and one without nodes in
place of a source that it refuses. -/
def template (e : Engine) (name source : String) : Template :=
  match e.parse name source with
  | .ok t => t
  | .error _ => { name, source, tree := ⟨name, []⟩, issues := [] }

/-- It is read from the source where that has no errors. -/
theorem parse_template {e : Engine} {name source : String}
    (h : (e.parse name source).toOption.isSome = true) :
    e.parse name source = .ok (template e name source) := by
  rw [template]
  cases hparse : e.parse name source with
  | ok t => rfl
  | error failure =>
    rw [hparse] at h
    cases h

/-- What a call succeeds with, as making it shows. -/
theorem run_ok {α : Type} (run : Run α) (j : Journal) (p : α → Prop) [DecidablePred p]
    (h : ((run.run j).1.toOption.any fun a => decide (p a)) = true) :
    ∃ a j', run.run j = (.ok a, j') ∧ p a := by
  rcases hrun : run.run j with ⟨failure | a, j'⟩
  · rw [hrun] at h
    cases h
  · rw [hrun] at h
    exact ⟨a, j', rfl, of_decide_eq_true h⟩

/-- How a call ends if it fails. -/
def failure? {α : Type} (run : Run α) (j : Journal) : Option Failure :=
  match run.run j with
  | (.ok _, _) => none
  | (.error failure, _) => some failure

/-- What a call fails with, as making it shows. -/
theorem run_error {α : Type} (run : Run α) (j : Journal) {failure : Failure}
    (h : failure? run j = some failure) : ∃ j', run.run j = (.error failure, j') := by
  rcases hrun : run.run j with ⟨found | a, j'⟩
  · rw [failure?, hrun] at h
    cases h
    exact ⟨j', rfl⟩
  · rw [failure?, hrun] at h
    cases h

end Sample

end PromptMarkup
