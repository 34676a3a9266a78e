import PromptMarkup.Proofs.Inherit.Nearest
import PromptMarkup.Proofs.Render.Available
/-!
# Inheritance — a child that changes nothing

A block whose body is a parent tag asks for the body it had before. A child
with no other blocks hands on everything (`Node.HandsOn`): at every level of
the parent the block that overriding puts in is the one that was there
(`override_of_handsOn`), however the parent's blocks stand in one another. So
the child stands for the nodes of its parent
(`Engine.effective_eq_of_handsOn`), wherever on a chain the two are.
-/

namespace PromptMarkup

namespace Node

/-- Each block is handed on as it is: its body is a parent tag alone. -/
def HandsOn (nodes : List Node) : Prop :=
  ∀ block ∈ blocks nodes, ∃ span position, block.2 = [.parent span position]

theorem eq_parent_iff {body : List Node} :
    (∃ span position, body = [.parent span position]) ↔ body.map isParent = [true] := by
  constructor
  · rintro ⟨_, _, rfl⟩
    rfl
  · intro h
    obtain ⟨node, rfl, hnode⟩ := List.map_eq_singleton_iff.1 h
    cases node with
    | parent span position => exact ⟨span, position, rfl⟩
    | _ => cases hnode

instance (nodes : List Node) : Decidable (HandsOn nodes) :=
  decidable_of_iff (∀ block ∈ blocks nodes, block.2.map isParent = [true])
    (forall₂_congr fun _ _ => eq_parent_iff.symm)

/-- **A child that hands on all its blocks overrides nothing.** -/
theorem override_of_handsOn {child : List Node} (h : HandsOn child) (parent : List Node) :
    override child parent = parent := by
  rw [override, definitionsOfAll_eq]
  refine replaceAll_eq_self ?_ (fun _ _ _ => rfl) (fun _ _ _ _ => rfl)
  intro span position name body _
  rw [override_block]
  cases hown : (blocks child).lookup name with
  | none => rfl
  | some own =>
    obtain ⟨_, _, hblock⟩ := block_of_lookup hown
    obtain ⟨s, p, rfl⟩ := h _ (mem_blocks.2 ⟨_, _, hblock⟩)
    -- the tag is all there is to fill, and it is filled with the body that was there
    have hfilled : replaceAll (.fillParent body) [.parent s p] = body := by
      rw [replaceAll_cons, replaceAll_nil, List.append_nil]
      rfl
    exact congrArg (fun body => [Node.block span position name body]) hfilled

/-- A space beside the parent tag is a definition of its own. -/
example :
    ¬ HandsOn [.block default default "a" [.text default " ", .parent default default]] := by
  decide +kernel

end Node

namespace Engine

variable {e : Engine}

/-- **Overriding with the parent is the identity.** Where a template extends
one that is available and hands on all its blocks, and both resolve, they
stand for the same nodes. -/
theorem effective_eq_of_handsOn {t above : Template} {name : String} {j j' k k' : Journal}
    {nodes nodes' : List Node} (hparent : t.tree.parent? = some name)
    (hfound : e.available j.store name = .ok (some above)) (hblocks : Node.HandsOn t.tree.nodes)
    (hsame : e.available k.store = e.available j.store)
    (ht : (e.effective t).run j = (.ok nodes, j'))
    (habove : (e.effective above).run k = (.ok nodes', k')) : nodes = nodes' := by
  obtain ⟨_, hjoined, rfl⟩ := Tree.inherited_of_effective ht
  obtain ⟨_, root, hup, hroot, rfl⟩ := Tree.ascent_of_inherited hjoined
  cases hup with
  | here =>
    rw [hparent] at hroot
    cases hroot
  | up hparent' hload hrest =>
    rw [hparent] at hparent'
    cases hparent'
    rw [Run.run_map, load_run, hfound] at hload
    cases hload
    -- from here on the child goes the way that the parent goes by itself
    have hafter : e.available (e.stocked j.store name) = e.available k.store := by
      rw [available_stocked, hsame]
    obtain ⟨_, habove'⟩ := (alike_effective e above).eq_ok
      (k := { j with store := e.stocked j.store name }) hafter habove
    obtain ⟨_, hjoined', rfl⟩ := Tree.inherited_of_effective habove'
    obtain ⟨_, root', hup', hroot', rfl⟩ := Tree.ascent_of_inherited hjoined'
    obtain ⟨rfl, rfl, rfl⟩ := hrest.root_unique hroot hup' hroot'
    exact congrArg Node.flatten (Node.override_of_handsOn hblocks _)

end Engine

namespace Sample

/-- A list whose entries are blocks, in a loop. -/
def listing : Template :=
  template {} "listing" (tagged "prompty.for item=\"x\" in=\"xs\"" ++
    tagged "prompty.block name=\"entry\"" ++ "- " ++ tagged "/prompty.block" ++
    tagged "/prompty.for")

/-- One that adds a block of its own to each entry. -/
def numbered : Template :=
  template {} "numbered" (tagged "prompty.extends template=\"listing\" /" ++
    tagged "prompty.block name=\"entry\"" ++ tagged "prompty.block name=\"n\"" ++ "1" ++
    tagged "/prompty.block" ++ tagged "prompty.parent /" ++ tagged "/prompty.block")

/-- And one that hands on both blocks. -/
def verbatim : Template :=
  template {} "verbatim" (tagged "prompty.extends template=\"numbered\" /" ++
    tagged "prompty.block name=\"n\"" ++ tagged "prompty.parent /" ++ tagged "/prompty.block" ++
    tagged "prompty.block name=\"entry\"" ++ tagged "prompty.parent /" ++
    tagged "/prompty.block")

/-- What an engine has left behind that knows the first two. -/
def shelved : Journal where
  store := [("listing", listing), ("numbered", numbered)]

theorem effective_eq_of_handsOn_verbatim :
    (∃ source, ({} : Engine).parse "numbered" source = .ok numbered) ∧
      (∃ source, ({} : Engine).parse "verbatim" source = .ok verbatim) ∧
      ∃ nodes j' k', (({} : Engine).effective verbatim).run shelved = (.ok nodes, j') ∧
        (({} : Engine).effective numbered).run shelved = (.ok nodes, k') := by
  refine ⟨⟨_, parse_template (by decide +kernel)⟩, ⟨_, parse_template (by decide +kernel)⟩, ?_⟩
  obtain ⟨nodes, j', hrun, _⟩ :=
    run_ok (({} : Engine).effective verbatim) shelved (fun _ => True) (by decide +kernel)
  obtain ⟨nodes', k', hrun', _⟩ :=
    run_ok (({} : Engine).effective numbered) shelved (fun _ => True) (by decide +kernel)
  have hparent : verbatim.tree.parent? = some "numbered" := by decide +kernel
  have hfound : ({} : Engine).available shelved.store "numbered" = .ok (some numbered) := rfl
  have hsame : nodes = nodes' :=
    Engine.effective_eq_of_handsOn hparent hfound (by decide +kernel) rfl hrun hrun'
  exact ⟨nodes, j', k', hrun, hsame ▸ hrun'⟩

end Sample

end PromptMarkup
