import PromptMarkup.Proofs.Inherit.Effective
import PromptMarkup.Proofs.Tree.Substitute
/-!
# Inheritance — one block through the layers

Resolution merges whole trees, two at a time and from the top down. Where no
block stands in another, the same comes out block by block (`bodyIn`): a
block has the body of the lowest template that defines it, in which a parent
tag stands for its body one template up. The induction over the chain is in
`merged_eq_refill`, with the markers still there, and `effective_layers`
takes them away.
-/

namespace PromptMarkup

namespace Node

/-- The replacement that gives each block the body of its name, and keeps it
a block. -/
def Replacement.refill (bodyOf : String → List Node) : Replacement where
  block span position name _ := [.block span position name (bodyOf name)]
  parent span position := [.parent span position]
  extending span position template := [.extending span position template]

/-- The replacement that puts in place of each block the body of its name. -/
def Replacement.expand (bodyOf : String → List Node) : Replacement where
  block _ _ name _ := bodyOf name
  parent span position := [.parent span position]
  extending span position template := [.extending span position template]

end Node

namespace Tree

variable {σ : Type} {load : String → Effect σ (Option Tree)} {t root : Tree} {s s₁ : σ}
  {steps : List (String × Tree)}

/-- The body of a block in a chain of templates: the one that the lowest
template gives it, with the body one template up in place of each parent
tag. The last template of the chain gives its own. -/
def bodyIn (t : Tree) : List (String × Tree) → String → List Node
  | [], name => ((Node.blocks t.nodes).lookup name).getD []
  | (_, above) :: rest, name =>
    match (Node.blocks t.nodes).lookup name with
    | some own => Node.substituteAll (.parents fun _ => bodyIn above rest name) none own
    | none => bodyIn above rest name

/-- A chain of accepted templates up to one that extends no other, none with
a block in another. -/
structure FlatChain (load : String → Effect σ (Option Tree)) (t : Tree) (s : σ)
    (steps : List (String × Tree)) (root : Tree) (s₁ : σ) : Prop where
  ascent : Ascent load t s steps root s₁
  root : root.parent? = none
  accepted : ∀ u ∈ t :: steps.map Prod.snd, u.Accepted
  unnested : ∀ u ∈ t :: steps.map Prod.snd, Node.Unnested u.nodes

/-- Two templates define the same bodies for some names, or none. -/
def SameBlocks (names : List String) (u u' : Tree) : Prop :=
  ∀ name ∈ names, (Node.blocks u.nodes).lookup name = (Node.blocks u'.nodes).lookup name

/-! ## The body of one block -/

/-- **Plain above, plain below.** A body without blocks in it is plain once
its parent tags have plain nodes in their place. -/
theorem plain_fillParent {before own : List Node} (hbefore : Node.Plain before)
    (hextending : Node.NoExtending own) (hblock : Node.Throughout (·.isBlock = false) own) :
    Node.Plain (Node.substituteAll (.parents fun _ => before) none own) := by
  rw [← Node.fillParent_eq]
  refine Node.throughout_replaceAll ?_ ?_ ?_ ?_ ?_
  · intro node f h
    rwa [Node.isCombining_mapBodies]
  · exact fun _ _ hplain => hplain
  · intro span position name body hmem
    cases hblock _ hmem
  · exact fun _ _ _ => hbefore
  · intro span position template hmem
    cases hextending _ hmem

/-- What is left of a chain without its first template is a chain. -/
theorem FlatChain.tail {step : String × Tree}
    (h : FlatChain load t s (step :: steps) root s₁) :
    ∃ s', FlatChain load step.2 s' steps root s₁ := by
  obtain ⟨hup, hroot, haccepted, hunnested⟩ := h
  cases hup with
  | up hparent hload hrest =>
    exact ⟨_, hrest, hroot, fun u hu => haccepted u (List.mem_cons_of_mem _ hu),
      fun u hu => hunnested u (List.mem_cons_of_mem _ hu)⟩

/-- A chain without steps is a single template. -/
theorem FlatChain.eq_root (h : FlatChain load t s [] root s₁) : t = root := by
  cases h.ascent
  rfl

/-- **Every body in a chain is plain**: it is that of the last template, or
made from one that is plain already. -/
theorem FlatChain.plain_bodyIn (h : FlatChain load t s steps root s₁) (name : String) :
    Node.Plain (bodyIn t steps name) := by
  have hwell := (h.accepted t List.mem_cons_self).wellFormed
  have hunnested := h.unnested t List.mem_cons_self
  induction steps generalizing t s with
  | nil =>
    obtain rfl := h.eq_root
    rw [bodyIn]
    cases hown : (Node.blocks t.nodes).lookup name with
    | none => exact Node.throughout_nil
    | some own =>
      obtain ⟨span, position, hown'⟩ := Node.block_of_lookup hown
      intro node hnode
      have hblock := hunnested.isBlock_of_lookup hown node hnode
      have hsettled := hwell.settled h.root node
        (Node.mem_withinAll_trans hown' (List.mem_singleton_self _) hnode)
      rw [Node.isCombining, hblock, hsettled.1, hsettled.2]
      rfl
  | cons step rest ih =>
    obtain ⟨s', habove⟩ := h.tail
    have hplain := ih habove (habove.accepted _ List.mem_cons_self).wellFormed
      (habove.unnested _ List.mem_cons_self)
    rw [bodyIn]
    cases hown : (Node.blocks t.nodes).lookup name with
    | none => exact hplain
    | some own =>
      exact plain_fillParent hplain (hwell.noExtending_of_lookup hown)
        (hunnested.isBlock_of_lookup hown)

/-! ## The chain, block by block -/

/-- **Merging a chain fills the blocks of its last template**, each with the
body that its name has in the chain. -/
theorem FlatChain.merged_eq_refill (h : FlatChain load t s steps root s₁) :
    merged t steps = Node.replaceAll (.refill (bodyIn t steps)) root.nodes := by
  induction steps generalizing t s with
  | nil =>
    obtain rfl := h.eq_root
    have hwell := (h.accepted t List.mem_cons_self).wellFormed
    refine (Node.replaceAll_eq_self ?_ (fun _ _ _ => rfl) fun _ _ _ _ => rfl).symm
    intro span position name body hmem
    simp only [Node.Replacement.refill, bodyIn, Node.lookup_of_block hwell.distinct hmem,
      Option.getD_some]
  | cons step rest ih =>
    obtain ⟨s', habove⟩ := h.tail
    rw [merged, ih habove, Node.override, Node.definitionsOfAll_eq]
    refine Node.replaceAll_replaceAll ?_ (fun _ _ _ => rfl) fun _ _ _ _ => rfl
    intro span position name body _ _
    -- what was filled in above is plain, so only the block itself is seen again
    have hplain := (habove.plain_bodyIn name).replaceAll_eq
    simp only [Node.Replacement.refill, Node.replaceAll_cons, Node.replaceAll_nil, Node.replace,
      List.append_nil, hplain, Node.Replacement.override, bodyIn, Node.fillParent_eq _ _ none]
    cases (Node.blocks t.nodes).lookup name <;> rfl

/-- **Without their markers, the blocks are replaced by those bodies**,
wherever they stand. -/
theorem FlatChain.flatten_merged (h : FlatChain load t s steps root s₁) :
    Node.flatten (merged t steps) =
      Node.substituteAll (.blocks (bodyIn t steps)) none root.nodes := by
  have hsettled : Node.Settled root.nodes :=
    (h.accepted root h.ascent.last_mem).wellFormed.settled h.root
  have hexpand : Node.flatten (merged t steps) =
      Node.replaceAll (.expand (bodyIn t steps)) root.nodes := by
    rw [h.merged_eq_refill, Node.flatten]
    refine Node.replaceAll_replaceAll ?_ ?_ ?_
    · intro span position name body _ _
      have hplain := (h.plain_bodyIn name).replaceAll_eq .flatten
      simp only [Node.Replacement.refill, Node.replaceAll_cons, Node.replaceAll_nil,
        Node.replace, List.append_nil, hplain]
      rfl
    · intro span position hmem
      cases (hsettled _ hmem).1
    · intro span position template hmem
      cases (hsettled _ hmem).2
  rw [hexpand]
  refine Node.replaceAll_eq_substituteAll ?_ ?_ ?_ ?_
  · exact fun _ _ _ _ _ => rfl
  · exact fun _ _ _ => rfl
  · exact fun _ _ _ _ => rfl
  · intro around node hplain
    cases node with
    | block span position name body => cases hplain
    | _ => rfl

/-- Bodies are the same in chains whose templates define the same ones. -/
theorem bodyIn_congr {names : List String} {t' : Tree} {steps' : List (String × Tree)}
    (h : List.Forall₂ (SameBlocks names) (t :: steps.map Prod.snd) (t' :: steps'.map Prod.snd))
    {name : String} (hname : name ∈ names) : bodyIn t steps name = bodyIn t' steps' name := by
  induction steps generalizing t t' steps' with
  | nil =>
    obtain ⟨hhere, hrest⟩ := List.forall₂_cons.1 h
    cases steps' with
    | nil => rw [bodyIn, bodyIn, hhere name hname]
    | cons step' rest' => cases hrest
  | cons step rest ih =>
    obtain ⟨hhere, hrest⟩ := List.forall₂_cons.1 h
    cases steps' with
    | nil => cases hrest
    | cons step' rest' => rw [bodyIn, bodyIn, hhere name hname, ih hrest]

/-- **Resolution goes block by block.** Of a chain of accepted templates
without nested blocks, the effective tree is the last template's tree with
each block replaced by its body in the chain. Nothing else counts: another
chain to the same template, whose members define the same bodies for the
blocks that it has, has the same effective tree. -/
theorem effective_layers {limit : Nat} {nodes : List Node} {s' : σ}
    (h : FlatChain load t s steps root s₁)
    (hrun : (effective load limit t).run s = (.ok nodes, s')) :
    nodes = Node.substituteAll (.blocks (bodyIn t steps)) none root.nodes ∧
      ∀ (τ : Type) (load' : String → Effect τ (Option Tree)) (limit' : Nat) (t' : Tree)
        (steps' : List (String × Tree)) (r r₁ r' : τ) (nodes' : List Node),
        FlatChain load' t' r steps' root r₁ →
        (effective load' limit' t').run r = (.ok nodes', r') →
        List.Forall₂ (SameBlocks (Node.blockNames root.nodes)) (t :: steps.map Prod.snd)
          (t' :: steps'.map Prod.snd) →
        nodes' = nodes := by
  have hresult : ∀ {τ : Type} {load : String → Effect τ (Option Tree)} {limit : Nat} {t : Tree}
      {steps : List (String × Tree)} {r r₁ r' : τ} {nodes : List Node},
      FlatChain load t r steps root r₁ → (effective load limit t).run r = (.ok nodes, r') →
      nodes = Node.substituteAll (.blocks (bodyIn t steps)) none root.nodes := by
    intro τ load limit t steps r r₁ r' nodes h hrun
    obtain ⟨joined, hjoined, rfl⟩ := inherited_of_effective hrun
    obtain ⟨steps', root', hup, hroot, rfl⟩ := ascent_of_inherited hjoined
    obtain ⟨rfl, rfl, rfl⟩ := h.ascent.root_unique h.root hup hroot
    exact h.flatten_merged
  refine ⟨hresult h hrun, ?_⟩
  intro τ load' limit' t' steps' r r₁ r' nodes' h' hrun' hsame
  rw [hresult h hrun, hresult h' hrun']
  refine Node.substituteAll_congr ?_
  intro around node hnode
  cases node with
  | block span position name body =>
    exact congrArg some (bodyIn_congr hsame (Node.mem_blockNames_of_block hnode)).symm
  | _ => rfl

end Tree

namespace Sample

open PromptMarkup.Tree

theorem flatChain_top :
    FlatChain (shelf [ground, middle]) top () [("middle", middle), ("ground", ground)] ground
      () := by
  refine ⟨ascent_top, ground_spec.2.1, ?_, ?_⟩
  · simp only [List.map_cons, List.map_nil, List.forall_mem_cons]
    exact ⟨top_spec.1, middle_spec.1, ground_spec.1, fun _ h => absurd h List.not_mem_nil⟩
  · simp only [List.map_cons, List.map_nil, List.forall_mem_cons]
    exact ⟨top_spec.2.2, middle_spec.2.2, ground_spec.2.2, fun _ h => absurd h List.not_mem_nil⟩

theorem effective_layers_top :
    FlatChain (shelf [ground, middle]) top () [("middle", middle), ("ground", ground)] ground () ∧
      ∃ nodes, (effective (shelf [ground, middle]) 2 top).run () = (.ok nodes, ()) ∧
      nodes = Node.substituteAll
        (.blocks (bodyIn top [("middle", middle), ("ground", ground)])) none ground.nodes ∧
      ∀ (τ : Type) (load' : String → Effect τ (Option Tree)) (limit' : Nat) (t' : Tree)
        (steps' : List (String × Tree)) (r r₁ r' : τ) (nodes' : List Node),
        FlatChain load' t' r steps' ground r₁ →
        (effective load' limit' t').run r = (.ok nodes', r') →
        List.Forall₂ (SameBlocks (Node.blockNames ground.nodes)) [top, middle, ground]
          (t' :: steps'.map Prod.snd) →
        nodes' = nodes := by
  obtain ⟨nodes, hrun⟩ := resolves_top
  exact ⟨flatChain_top, nodes, hrun, effective_layers flatChain_top hrun⟩

end Sample

end PromptMarkup
