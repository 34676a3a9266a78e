import PromptMarkup.Proofs.Inherit.Ascent
import PromptMarkup.Proofs.Tree.Accepted
/-!
# Inheritance — what an effective tree is made of

Merging asks nothing of a parent that is not there: what a chain of accepted
templates is merged to is settled (`Ascent.settled_merged`), so the parent
tags are all gone before the markers are taken away. What is left combines
no templates any more (`plain_flatten`), and plain nodes are changed by no
replacement (`Plain.replaceAll_eq`). The two together make resolution a
normal form (`effective_plain`).
-/

namespace PromptMarkup

namespace Node

/-- The nodes combine no templates, at any depth. -/
abbrev Plain (nodes : List Node) : Prop :=
  Throughout (·.isCombining = false) nodes

/-- **Plain nodes stay as they are** under every replacement. -/
theorem Plain.replaceAll_eq {nodes : List Node} (h : Plain nodes) (r : Replacement) :
    replaceAll r nodes = nodes := by
  refine replaceAll_eq_self ?_ ?_ ?_
  · intro span position name body hmem
    cases h _ hmem
  · intro span position hmem
    cases h _ hmem
  · intro span position template hmem
    cases h _ hmem

/-- Plain nodes name no parent. -/
theorem Plain.parentOf?_eq {nodes : List Node} (h : Plain nodes) :
    Tree.parentOf? nodes = none := by
  induction nodes with
  | nil => rfl
  | cons node rest ih =>
    obtain ⟨hnode, hrest⟩ := throughout_cons.1 h
    cases node with
    | text span body =>
      simp only [Tree.parentOf?, ih hrest, ite_self]
    | comment span body => exact ih hrest
    | extending span position template => cases hnode.1
    | _ => rfl

/-- **Without their markers all nodes are plain.** -/
theorem plain_flatten (nodes : List Node) : Plain (flatten nodes) := by
  refine throughout_replaceAll ?_ ?_ ?_ ?_ ?_
  · intro node f h
    rwa [isCombining_mapBodies]
  · exact fun _ _ hplain => hplain
  · exact fun _ _ _ _ _ hbody => hbody
  · exact fun _ _ _ => throughout_nil
  · exact fun _ _ _ _ => throughout_nil

/-! ## Merging settled nodes -/

/-- An ordinary node asks nothing of a parent. -/
theorem settled_of_ordinary {node : Node} (h : node.isCombining = false) :
    node.isParent = false ∧ node.isExtending = false := by
  rw [isCombining, Bool.or_eq_false_iff, Bool.or_eq_false_iff] at h
  exact ⟨h.1.2, h.2⟩

/-- A body in which the parent tags are replaced by settled nodes is
settled. -/
theorem settled_fillParent {before own : List Node} (hbefore : Settled before)
    (hown : NoExtending own) : Settled (replaceAll (.fillParent before) own) := by
  refine throughout_replaceAll ?_ ?_ ?_ ?_ ?_
  · intro node f h
    rwa [isParent_mapBodies, isExtending_mapBodies]
  · exact fun _ _ hplain => settled_of_ordinary hplain
  · intro span position name body _ hbody
    refine throughout_singleton.2 ⟨⟨rfl, rfl⟩, fun inner hinner => ?_⟩
    rw [List.mem_singleton.1 hinner]
    exact hbody
  · exact fun _ _ _ => hbefore
  · intro span position template hmem
    cases hown _ hmem

/-- **Settled nodes stay settled under a child's blocks**, if none of these
says that it extends a template. -/
theorem settled_override {child parent : List Node}
    (hchild : ∀ name own, (blocks child).lookup name = some own → NoExtending own)
    (hparent : Settled parent) : Settled (override child parent) := by
  rw [override, definitionsOfAll_eq]
  refine throughout_replaceAll ?_ ?_ ?_ ?_ ?_
  · intro node f h
    rwa [isParent_mapBodies, isExtending_mapBodies]
  · exact fun _ _ hplain => settled_of_ordinary hplain
  · intro span position name body _ hbody
    have hblock : ∀ {inside : List Node}, Settled inside →
        Settled [.block span position name inside] := fun hinside =>
      throughout_singleton.2 ⟨⟨rfl, rfl⟩, fun inner hinner => by
        rw [List.mem_singleton.1 hinner]
        exact hinside⟩
    simp only [Replacement.override]
    cases hown : (blocks child).lookup name with
    | none => exact hblock hbody
    | some own =>
      exact hblock (settled_fillParent hbody (hchild name own hown))
  · intro span position hmem
    cases (hparent _ hmem).1
  · intro span position template hmem
    cases (hparent _ hmem).2

end Node

namespace Tree

variable {σ : Type} {load : String → Effect σ (Option Tree)} {t root : Tree} {s s₁ : σ}
  {steps : List (String × Tree)}

/-- The blocks of a well-formed tree do not say that it extends another. -/
theorem WellFormed.noExtending_of_lookup (h : t.WellFormed) {name : String} {own : List Node}
    (hown : (Node.blocks t.nodes).lookup name = some own) : Node.NoExtending own := by
  obtain ⟨span, position, hblock⟩ := Node.block_of_lookup hown
  have hmem : own ∈ (Node.block span position name own).bodies := List.mem_singleton_self own
  obtain ⟨node, hnode, rfl | ⟨body, hbody, hinside⟩⟩ := Node.mem_withinAll_iff.1 hblock
  · exact h.outermost _ hnode own hmem
  · intro inner hinner
    exact h.outermost node hnode body hbody inner (Node.mem_withinAll_trans hinside hmem hinner)

/-- **What a chain is merged to is settled.** The first template has no
parent, and below it every parent tag that is kept is replaced. -/
theorem Ascent.settled_merged (hup : Ascent load t s steps root s₁) (hroot : root.parent? = none)
    (ht : t.WellFormed) (hsteps : ∀ step ∈ steps, step.2.WellFormed) :
    Node.Settled (merged t steps) := by
  induction hup with
  | here => exact ht.settled hroot
  | up hparent hload hrest ih =>
    refine Node.settled_override (fun name own => ht.noExtending_of_lookup) ?_
    exact ih hroot (hsteps _ List.mem_cons_self) fun step hstep =>
      hsteps step (List.mem_cons_of_mem _ hstep)

/-- A tree of plain nodes is its own effective tree. -/
theorem effective_of_plain {nodes : List Node} (h : Node.Plain nodes)
    (load : String → Effect σ (Option Tree)) (limit : Nat) (name : String) (s : σ) :
    (effective load limit ⟨name, nodes⟩).run s = (.ok nodes, s) := by
  have hroot : (⟨name, nodes⟩ : Tree).parent? = none := h.parentOf?_eq
  rw [effective_run, inherited_run, hroot]
  simp only [Node.flatten, h.replaceAll_eq]

/-- **Resolution yields plain nodes.** If a template and all that it extends
are accepted, then nothing that combines templates is left of them; no parent
tag is left to be taken away with the markers; and what resolution yields it
yields again. -/
theorem effective_plain {limit : Nat} {nodes : List Node} (ht : t.Accepted)
    (hload : ∀ steps last s', Ascent load t s steps last s' → ∀ step ∈ steps, step.2.Accepted)
    (hrun : (effective load limit t).run s = (.ok nodes, s₁)) :
    Node.Plain nodes ∧
      (∃ joined, (inherited load limit limit [t.name] t).run s = (.ok joined, s₁) ∧
        Node.Throughout (·.isParent = false) joined ∧ nodes = Node.flatten joined) ∧
      ∀ (τ : Type) (load' : String → Effect τ (Option Tree)) (limit' : Nat) (name : String)
        (s' : τ), (effective load' limit' ⟨name, nodes⟩).run s' = (.ok nodes, s') := by
  obtain ⟨joined, hjoined, rfl⟩ := inherited_of_effective hrun
  obtain ⟨steps, root, hup, hroot, rfl⟩ := ascent_of_inherited hjoined
  have hsettled : Node.Settled (merged t steps) :=
    hup.settled_merged hroot ht.wellFormed fun step hstep =>
      (hload steps root s₁ hup step hstep).wellFormed
  have hplain := Node.plain_flatten (merged t steps)
  refine ⟨hplain, ⟨_, hjoined, hsettled.imp fun _ h => h.1, rfl⟩, ?_⟩
  intro τ load' limit' name s'
  exact effective_of_plain hplain load' limit' name s'

end Tree

/-! ## A chain of three templates -/

namespace Sample

open PromptMarkup.Tree

/-- The source of a tag: what it says, between its delimiters. -/
def tagged (content : String) : String :=
  "\x7b~" ++ content ++ "~\x7d"

/-- A template with a block under a condition. -/
def ground : Tree :=
  ofSource "ground" (tagged "prompty.if eval=\"x\"" ++ tagged "prompty.block name=\"a\"" ++ "A" ++
    tagged "/prompty.block" ++ tagged "/prompty.if")

/-- One that puts the block's own body under a further condition. -/
def middle : Tree :=
  ofSource "middle" (tagged "prompty.extends template=\"ground\" /" ++
    tagged "prompty.block name=\"a\"" ++ tagged "prompty.if eval=\"y\"" ++
    tagged "prompty.parent /" ++ tagged "/prompty.if" ++ "B" ++ tagged "/prompty.block")

/-- One that adds to it again, with a text outside all blocks and a block
that the others do not have. -/
def top : Tree :=
  ofSource "top" (tagged "prompty.extends template=\"middle\" /" ++ "stray" ++
    tagged "prompty.block name=\"a\"" ++ tagged "prompty.parent /" ++ "C" ++
    tagged "/prompty.block" ++ tagged "prompty.block name=\"b\"" ++ "D" ++ tagged "/prompty.block")

theorem ground_spec : ground.Accepted ∧ ground.parent? = none ∧ Node.Unnested ground.nodes :=
  ofSource_spec (fun tree => tree.parent? = none ∧ Node.Unnested tree.nodes)
    (by decide +kernel)

theorem middle_spec :
    middle.Accepted ∧ middle.parent? = some "ground" ∧ Node.Unnested middle.nodes :=
  ofSource_spec (fun tree => tree.parent? = some "ground" ∧ Node.Unnested tree.nodes)
    (by decide +kernel)

theorem top_spec : top.Accepted ∧ top.parent? = some "middle" ∧ Node.Unnested top.nodes :=
  ofSource_spec (fun tree => tree.parent? = some "middle" ∧ Node.Unnested tree.nodes)
    (by decide +kernel)

theorem accepted_ascent {steps : List (String × Tree)} {last : Tree} {s₁ : Unit}
    (h : Ascent (shelf [ground, middle]) top () steps last s₁) :
    ∀ step ∈ steps, step.2.Accepted := by
  intro step hstep
  have hmem := h.mem_shelf step hstep
  simp only [List.mem_cons, List.not_mem_nil, or_false] at hmem
  rcases hmem with hmem | hmem
  · exact hmem ▸ ground_spec.1
  · exact hmem ▸ middle_spec.1

/-- The way up from the last of them. -/
theorem ascent_top :
    Ascent (shelf [ground, middle]) top () [("middle", middle), ("ground", ground)] ground () := by
  have hmiddle : (shelf [ground, middle] "middle").run () = (.ok (some middle), ()) := by
    simp only [shelf, List.find?_cons, ground, middle, name_ofSource]
    rfl
  have hground : (shelf [ground, middle] "ground").run () = (.ok (some ground), ()) := by
    simp only [shelf, List.find?_cons, ground, name_ofSource]
    rfl
  exact .up top_spec.2.1 hmiddle (.up middle_spec.2.1 hground .here)

theorem resolves_top :
    ∃ nodes, (effective (shelf [ground, middle]) 2 top).run () = (.ok nodes, ()) := by
  have hnodup : (namesMet top [("middle", middle), ("ground", ground)]).Nodup := by
    simp only [namesMet, top, name_ofSource, List.map_cons, List.map_nil]
    decide
  have hrun := ascent_top.inherited_eq ground_spec.2.1 (Nat.le_refl 2) hnodup
  exact ⟨_, by rw [effective_run, hrun]⟩

theorem effective_plain_top :
    top.Accepted ∧ ∃ nodes, (effective (shelf [ground, middle]) 2 top).run () = (.ok nodes, ()) ∧
      Node.Plain nodes ∧
      (∃ joined, (inherited (shelf [ground, middle]) 2 2 [top.name] top).run () =
          (.ok joined, ()) ∧
        Node.Throughout (·.isParent = false) joined ∧ nodes = Node.flatten joined) ∧
      ∀ (τ : Type) (load' : String → Effect τ (Option Tree)) (limit' : Nat) (name : String)
        (s' : τ), (effective load' limit' ⟨name, nodes⟩).run s' = (.ok nodes, s') := by
  obtain ⟨nodes, hrun⟩ := resolves_top
  exact ⟨top_spec.1, nodes, hrun,
    effective_plain top_spec.1 (fun _ _ _ hup => accepted_ascent hup) hrun⟩

end Sample

end PromptMarkup
