import Mathlib.Data.Option.Basic
import PromptMarkup.Source
/-!
# Source — two readers in step

Two readers that keep their places in different ways do the same when each of
their functions ends alike: both refuse the text with one failure, or both take
the same from it and are left in places that belong together (`InStep`,
`Besides`).
-/

namespace PromptMarkup

/-- Two readings end alike: with the same failure, or with results that are
related. -/
inductive InStep {ε α β : Type} (related : α → β → Prop) : Except ε α → Except ε β → Prop
  | error (failure : ε) : InStep related (.error failure) (.error failure)
  | ok {a : α} {b : β} (h : related a b) : InStep related (.ok a) (.ok b)

/-- What was read is the same, and the rest is related. -/
def Besides {α β γ : Type} (related : β → γ → Prop) (x : α × β) (y : α × γ) : Prop :=
  x.1 = y.1 ∧ related x.2 y.2

namespace InStep

variable {ε α β γ δ : Type} {related : γ → δ → Prop}

theorem eq_error {related : α → β → Prop} {x : Except ε α} {failure : ε}
    (h : InStep related x (.error failure)) : x = .error failure := by
  cases h
  rfl

theorem eq_ok {x : Except ε (α × γ)} {a : α} {c : δ}
    (h : InStep (Besides related) x (.ok (a, c))) : ∃ k, x = .ok (a, k) ∧ related k c := by
  cases h with
  | @ok found _ h =>
    obtain ⟨b, k⟩ := found
    obtain ⟨rfl, hk⟩ := h
    exact ⟨k, rfl, hk⟩

theorem eq_ok₂ {x : Except ε (α × β × γ)} {a : α} {b : β} {c : δ}
    (h : InStep (Besides (Besides related)) x (.ok (a, b, c))) :
    ∃ k, x = .ok (a, b, k) ∧ related k c := by
  obtain ⟨⟨b', k⟩, rfl, rfl, hk⟩ := h.eq_ok
  exact ⟨k, rfl, hk⟩

end InStep

theorem rel_map {α β γ : Type} {related : β → γ → Prop} {x : Option (α × β)} {y : Option (α × γ)}
    (f : α → α) (h : Option.Rel (Besides related) x y) :
    Option.Rel (Besides related) (x.map fun z => (f z.1, z.2)) (y.map fun z => (f z.1, z.2)) := by
  cases h with
  | none => exact .none
  | some h => exact .some ⟨congrArg f h.1, h.2⟩

end PromptMarkup
