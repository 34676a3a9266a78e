import PromptMarkup.Proofs.Inherit.Ascent
import PromptMarkup.Proofs.Tree.Walk
/-!
# Inherit — what merged nodes are made of

Merging puts bodies into other places and makes no nodes of its own: up to
its bodies, every node that a template stands for was written in the template
or in one of those above it. So whatever does not look into bodies and
holds throughout all of them holds throughout the result
(`throughout_of_effective`).
-/

namespace PromptMarkup

namespace Node

variable {Q : Node → Prop}

/-- **Filling in parent tags** makes no new nodes. -/
theorem throughout_fillParent (hshape : ∀ node f, Q node → Q (node.mapBodies f))
    {before own : List Node} (hbefore : Throughout Q before) (hown : Throughout Q own) :
    Throughout Q (replaceAll (.fillParent before) own) := by
  refine throughout_replaceAll hshape ?_ ?_ ?_ ?_
  · exact fun node hnode _ => hown node hnode
  · intro span position name body hmem hbody
    refine throughout_singleton.2 ⟨hshape _ (fun _ => _) (hown _ hmem), fun inner hinner => ?_⟩
    rw [List.mem_singleton.1 hinner]
    exact hbody
  · exact fun _ _ _ => hbefore
  · intro span position template hmem
    exact throughout_singleton.2 ⟨hown _ hmem, nofun⟩

/-- **Nor does giving blocks other bodies.** -/
theorem throughout_override (hshape : ∀ node f, Q node → Q (node.mapBodies f))
    {child parent : List Node} (hchild : Throughout Q child) (hparent : Throughout Q parent) :
    Throughout Q (override child parent) := by
  rw [override, definitionsOfAll_eq]
  refine throughout_replaceAll hshape ?_ ?_ ?_ ?_
  · exact fun node hnode _ => hparent node hnode
  · intro span position name body hmem hbody
    -- the block stays the parent's, whichever body it is given
    have hblock : ∀ {inside : List Node}, Throughout Q inside →
        Throughout Q [.block span position name inside] := fun hinside =>
      throughout_singleton.2 ⟨hshape _ (fun _ => _) (hparent _ hmem), fun inner hinner => by
        rw [List.mem_singleton.1 hinner]
        exact hinside⟩
    simp only [Replacement.override]
    cases hown : (blocks child).lookup name with
    | none => exact hblock hbody
    | some own =>
      obtain ⟨_, _, hdefined⟩ := block_of_lookup hown
      refine hblock (throughout_fillParent hshape hbody fun inner hinner => ?_)
      exact hchild inner (mem_withinAll_trans hdefined (List.mem_singleton_self own) hinner)
  · intro span position hmem
    exact throughout_singleton.2 ⟨hparent _ hmem, nofun⟩
  · intro span position template hmem
    exact throughout_singleton.2 ⟨hparent _ hmem, nofun⟩

/-- **Nor does taking the markers away.** -/
theorem throughout_flatten (hshape : ∀ node f, Q node → Q (node.mapBodies f)) {nodes : List Node}
    (h : Throughout Q nodes) : Throughout Q (flatten nodes) := by
  refine throughout_replaceAll hshape ?_ ?_ ?_ ?_
  · exact fun node hnode _ => h node hnode
  · exact fun _ _ _ _ _ hbody => hbody
  · exact fun _ _ _ => throughout_nil
  · exact fun _ _ _ _ => throughout_nil

end Node

namespace Tree

variable {σ : Type} {load : String → Effect σ (Option Tree)} {limit : Nat} {t root : Tree}
  {s s₁ : σ} {steps : List (String × Tree)} {Q : Node → Prop}

/-- What is merged on the way up was written on it. -/
theorem throughout_merged (hshape : ∀ node f, Q node → Q (node.mapBodies f))
    (ht : Node.Throughout Q t.nodes) (hsteps : ∀ step ∈ steps, Node.Throughout Q step.2.nodes) :
    Node.Throughout Q (merged t steps) := by
  induction steps generalizing t with
  | nil => exact ht
  | cons step rest ih =>
    refine Node.throughout_override hshape ht (ih (hsteps _ List.mem_cons_self) ?_)
    exact fun other hother => hsteps other (List.mem_cons_of_mem _ hother)

/-- **What a template stands for was written in it or above it.** -/
theorem throughout_of_effective {nodes : List Node}
    (h : (effective load limit t).run s = (.ok nodes, s₁)) :
    ∃ steps root, Ascent load t s steps root s₁ ∧
      ∀ Q : Node → Prop, (∀ node f, Q node → Q (node.mapBodies f)) →
        Node.Throughout Q t.nodes → (∀ step ∈ steps, Node.Throughout Q step.2.nodes) →
        Node.Throughout Q nodes := by
  obtain ⟨joined, hjoined, rfl⟩ := inherited_of_effective h
  obtain ⟨steps, root, hup, _, rfl⟩ := ascent_of_inherited hjoined
  exact ⟨steps, root, hup, fun Q hshape ht hsteps =>
    Node.throughout_flatten hshape (throughout_merged hshape ht hsteps)⟩

end Tree

end PromptMarkup
