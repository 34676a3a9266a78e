import Mathlib.Data.List.Dedup
import PromptMarkup.Proofs.Inherit.Effective
import PromptMarkup.Proofs.Tree.Substitute
/-!
# Inheritance — which block a parent tag belongs to

A parent tag stands in one block directly and perhaps in others around it.
`override` gives it the body of the block that is being replaced, whichever
block it stands in; `overrideNearest` gives it the body of the block directly
around it, wherever the parent has that block. The two differ where a child
writes one block of its parent inside another. `bindsNearest_iff` says that
they differ nowhere else: it is the exact condition on the child under which
every parent tag gets the body of its own block.
-/

namespace PromptMarkup

namespace Node

mutual

/-- The block directly around each parent tag in a node, in document
order. `near` is the block around the node. -/
def parentsNear (near : Option String) : Node → List (Option String)
  | .block _ _ name body => parentsNearAll (some name) body
  | .parent _ _ => [near]
  | .blockTag _ _ _ body | .loop _ _ body | .message _ _ _ body => parentsNearAll near body
  | .choice _ branches none => parentsNearBranches near branches
  | .choice _ branches (some body) =>
    parentsNearBranches near branches ++ parentsNearAll near body
  | .extending .. | .text .. | .comment .. | .var .. | .tag .. | .inclusion .. => []

/-- The block directly around each parent tag in a sequence of nodes. -/
def parentsNearAll (near : Option String) : List Node → List (Option String)
  | [] => []
  | node :: rest => parentsNear near node ++ parentsNearAll near rest

/-- The block directly around each parent tag in the bodies of branches. -/
def parentsNearBranches (near : Option String) : List Branch → List (Option String)
  | [] => []
  | .mk _ _ _ body :: rest => parentsNearAll near body ++ parentsNearBranches near rest

end

/-- The substitution of each block that a child defines by the child's own.
What a parent tag in it is replaced by depends on the body of the block it
takes the place of, and on the block directly around the tag. -/
def Substitution.overriding (child : List Node) (fill : List Node → Option String → List Node) :
    Substitution
  | _, .block span position name body =>
    ((Node.blocks child).lookup name).map fun own =>
      [.block span position name (substituteAll (.parents (fill body)) none own)]
  | _, _ => none

/-- The body that a parent tag stands for, by the block directly around it:
the one that the parent's nodes give to this block, with the child's blocks
in it. Where they have no such block, and directly in the block that is
replaced, it is the body of the latter. -/
def nearBody (child above body : List Node) : Option String → List Node
  | none => override child body
  | some name => override child (((blocks above).lookup name).getD body)

/-- The nodes of a parent with the child's blocks in place of its own, every
parent tag standing for the block directly around it. -/
def overrideNearest (child above : List Node) : List Node :=
  substituteAll (.overriding child (nearBody child above)) none above

/-- In no block that the child gives for one of `known` does a parent tag
stand directly in another of them. -/
def ParentsDirect (child : List Node) (known : List String) : Prop :=
  ∀ outer ∈ known, ∀ own ∈ (blocks child).lookup outer, ∀ inner ∈ known,
    some inner ∉ parentsNearAll none own

instance (child : List Node) (known : List String) : Decidable (ParentsDirect child known) :=
  inferInstanceAs (Decidable (∀ outer ∈ known, ∀ own ∈ (blocks child).lookup outer,
    ∀ inner ∈ known, some inner ∉ parentsNearAll none own))

/-! ## The blocks around parent tags -/

theorem parentsNearBranches_eq (near : Option String) (branches : List Branch) :
    parentsNearBranches near branches =
      (branches.map Branch.body).flatMap (parentsNearAll near) := by
  induction branches with
  | nil => rfl
  | cons branch rest ih =>
    obtain ⟨position, source, condition, body⟩ := branch
    simp only [parentsNearBranches, ih, List.map_cons, List.flatMap_cons, Branch.body]

/-- A node that combines no templates has the parent tags that its bodies
have. -/
theorem parentsNear_of_ordinary {near : Option String} {node : Node}
    (h : node.isCombining = false) :
    parentsNear near node = node.bodies.flatMap (parentsNearAll near) := by
  cases node with
  | choice info branches otherwise =>
    cases otherwise <;> simp [parentsNear, bodies, parentsNearBranches_eq]
  | block span position name body => cases h
  | parent span position => cases h
  | _ => simp [parentsNear, bodies]

/-- A parent tag is directly in the block around the whole or in one of the
blocks within. -/
theorem mem_parentsNearAll {name : String} {near : Option String} {nodes : List Node}
    (h : some name ∈ parentsNearAll near nodes) : near = some name ∨ name ∈ blockNames nodes := by
  induction nodes using inductionAll generalizing near with
  | nil => cases h
  | cons node rest inside ih =>
    have hnames : blockNames (node :: rest) = blockNames [node] ++ blockNames rest :=
      blockNames_append [node] rest
    rw [hnames, List.mem_append, blockNames_singleton, List.mem_append]
    rcases List.mem_append.1 h with h | h
    · obtain ⟨s, p, n, b, rfl⟩ | ⟨s, p, rfl⟩ | ⟨s, p, t, rfl⟩ | hplain := combining_or_ordinary node
      · rcases inside b (List.mem_singleton_self _) h with hn | hn
        · rw [Option.some.inj hn]
          exact .inr (.inl (.inl List.mem_cons_self))
        · exact .inr (.inl (.inr (List.mem_flatMap.2 ⟨b, List.mem_singleton_self _, hn⟩)))
      · exact .inl (List.mem_singleton.1 h).symm
      · cases h
      · rw [parentsNear_of_ordinary hplain] at h
        obtain ⟨body, hbody, h⟩ := List.mem_flatMap.1 h
        exact (inside body hbody h).imp_right fun hn =>
          .inl (.inr (List.mem_flatMap.2 ⟨body, hbody, hn⟩))
    · exact (ih h).imp_right .inr

/-- A node that combines no templates is no parent tag. -/
theorem parents_of_ordinary {bodyFor : Option String → List Node} {near : Option String}
    {node : Node} (h : node.isCombining = false) :
    substitute (.parents bodyFor) near node =
      [node.mapBodies (substituteAll (.parents bodyFor) near)] := by
  rw [substitute_of_ordinary h]
  cases node with
  | parent span position => cases h
  | _ => rfl

/-- **Only the blocks around parent tags matter** to what they are replaced
by. -/
theorem parents_congr {f g : Option String → List Node} {near : Option String}
    {nodes : List Node} (h : ∀ block ∈ parentsNearAll near nodes, f block = g block) :
    substituteAll (.parents f) near nodes = substituteAll (.parents g) near nodes := by
  induction nodes using inductionAll generalizing near with
  | nil => rfl
  | cons node rest inside ih =>
    have hrest := ih fun block hblock => h block (List.mem_append_right _ hblock)
    have hnode : ∀ block ∈ parentsNear near node, f block = g block := fun block hblock =>
      h block (List.mem_append_left _ hblock)
    rw [substituteAll_cons, substituteAll_cons, hrest]
    congr 1
    obtain ⟨s, p, n, b, rfl⟩ | ⟨s, p, rfl⟩ | ⟨s, p, t, rfl⟩ | hplain := combining_or_ordinary node
    · have hbody := inside b (List.mem_singleton_self _) hnode
      exact congrArg (fun body => [Node.block s p n body]) hbody
    · exact hnode near (List.mem_singleton_self _)
    · rfl
    · rw [parents_of_ordinary hplain, parents_of_ordinary hplain]
      rw [parentsNear_of_ordinary hplain] at hnode
      refine congrArg (fun node => [node]) (mapBodies_congr fun body hbody => ?_)
      exact inside body hbody fun block hblock =>
        hnode block (List.mem_flatMap.2 ⟨body, hbody, hblock⟩)

/-- **And each of them does**, if the tags are replaced by single nodes: then
the results can be compared node by node. -/
theorem eq_of_parents {f g : Option String → Node} {near : Option String} {nodes : List Node}
    (h : substituteAll (.parents fun block => [f block]) near nodes =
      substituteAll (.parents fun block => [g block]) near nodes) :
    ∀ block ∈ parentsNearAll near nodes, f block = g block := by
  induction nodes using inductionAll generalizing near with
  | nil => exact fun _ hblock => absurd hblock List.not_mem_nil
  | cons node rest inside ih =>
    rw [substituteAll_cons, substituteAll_cons] at h
    intro block hblock
    rw [parentsNearAll, List.mem_append] at hblock
    obtain ⟨s, p, n, b, rfl⟩ | ⟨s, p, rfl⟩ | ⟨s, p, t, rfl⟩ | hplain := combining_or_ordinary node
    · obtain ⟨hnode, hrest⟩ := List.cons.inj h
      rcases hblock with hblock | hblock
      · injection hnode with _ _ _ hbody
        exact inside b (List.mem_singleton_self _) hbody block hblock
      · exact ih hrest block hblock
    · obtain ⟨hnode, hrest⟩ := List.cons.inj h
      rcases hblock with hblock | hblock
      · rw [List.mem_singleton.1 hblock]
        exact hnode
      · exact ih hrest block hblock
    · obtain ⟨_, hrest⟩ := List.cons.inj h
      rcases hblock with hblock | hblock
      · cases hblock
      · exact ih hrest block hblock
    · rw [parents_of_ordinary hplain, parents_of_ordinary hplain] at h
      obtain ⟨hnode, hrest⟩ := List.cons.inj h
      rcases hblock with hblock | hblock
      · rw [parentsNear_of_ordinary hplain] at hblock
        obtain ⟨body, hbody, hblock⟩ := List.mem_flatMap.1 hblock
        have hbodies := congrArg bodies hnode
        rw [bodies_mapBodies, bodies_mapBodies, List.map_inj_left] at hbodies
        exact inside body hbody (hbodies body hbody) block hblock
      · exact ih hrest block hblock

/-! ## The two ways of overriding -/

/-- What overriding makes of a block whose body is done. -/
theorem override_block (defined : List (String × List Node)) (span : Span) (position : Position)
    (name : String) (body : List Node) :
    (Replacement.override defined).block span position name body =
      ((defined.lookup name).map fun own =>
        [.block span position name (replaceAll (.fillParent body) own)]).getD
        [.block span position name body] := by
  simp only [Replacement.override]
  cases defined.lookup name <;> rfl

/-- **Overriding, from the outside in.** Whatever block a parent tag stands in
directly, it gets the body of the block that is replaced. -/
theorem override_eq_substituteAll (child above : List Node) (near : Option String) :
    override child above =
      substituteAll (.overriding child fun body _ => override child body) near above := by
  refine replaceAll_eq_substituteAll ?_ ?_ ?_ ?_
  · intro around span position name body
    rw [override_block, Substitution.overriding, ← definitionsOfAll_eq]
    simp only [fillParent_eq _ _ none]
    rfl
  · exact fun _ _ _ => rfl
  · exact fun _ _ _ _ => rfl
  · intro around node hplain
    cases node with
    | block span position name body => cases hplain
    | _ => rfl

/-- **A child whose parent tags stand directly in its blocks** gets for each
of them the body of its own block. -/
theorem override_eq_overrideNearest {child above : List Node}
    (h : ParentsDirect child (blockNames above)) :
    override child above = overrideNearest child above := by
  rw [override_eq_substituteAll child above none, overrideNearest]
  refine substituteAll_congr ?_
  intro around node hnode
  cases node with
  | block span position name body =>
    refine Option.map_congr fun own hown => ?_
    refine congrArg (fun own => [Node.block span position name own]) (parents_congr ?_)
    intro block hblock
    cases block with
    | none => rfl
    | some inner =>
      rw [nearBody]
      cases hinner : (blocks above).lookup inner with
      | none => rfl
      | some body =>
        obtain ⟨s, p, hbody⟩ := block_of_lookup hinner
        exact absurd hblock (h name (mem_blockNames_of_block hnode) own hown inner
          (mem_blockNames_of_block hbody))
  | _ => rfl

/-! ## A parent with nothing but blocks -/

/-- A block that holds its own name. -/
def labelled (name : String) : Node :=
  .block default default name [.text default name]

theorem blocks_labelled (names : List String) :
    blocks (names.map labelled) = names.map fun name => (name, [.text default name]) := by
  induction names with
  | nil => rfl
  | cons name rest ih =>
    rw [List.map_cons, ← List.singleton_append, blocks_append, ih]
    rfl

theorem blockNames_labelled (names : List String) : blockNames (names.map labelled) = names := by
  rw [blockNames, blocks_labelled, List.map_map]
  exact List.map_id' names

theorem lookup_labelled {names : List String} (hnames : names.Nodup) {name : String}
    (h : name ∈ names) :
    (blocks (names.map labelled)).lookup name = some [.text default name] := by
  have hmem : labelled name ∈ withinAll (names.map labelled) :=
    mem_withinAll_of_mem (List.mem_map_of_mem h)
  exact lookup_of_block (by rwa [blockNames_labelled]) hmem

/-- Overriding leaves a block of each labelled block. -/
theorem overriding_labelled (child : List Node) (fill : List Node → Option String → List Node)
    (names : List String) :
    substituteAll (.overriding child fill) none (names.map labelled) =
      names.map fun name => .block default default name
        (((blocks child).lookup name).elim [.text default name] fun own =>
          substituteAll (.parents (fill [.text default name])) none own) := by
  induction names with
  | nil => rfl
  | cons name rest ih =>
    rw [List.map_cons, substituteAll_cons, ih, List.map_cons, labelled, substitute,
      Substitution.overriding]
    cases (blocks child).lookup name <;> rfl

/-- **Labels show whose body a parent tag gets.** If overriding labelled
blocks gives each tag the body of its own block, none of them stands in a
block in another. -/
theorem parentsDirect_of_labelled {child : List Node} (hdistinct : (blockNames child).Nodup)
    {names : List String} (hnames : names.Nodup)
    (h : override child (names.map labelled) = overrideNearest child (names.map labelled)) :
    ParentsDirect child names := by
  intro outer houter own hown inner hinner hnear
  have hown : (blocks child).lookup outer = some own := hown
  rw [override_eq_substituteAll child _ none, overrideNearest, overriding_labelled,
    overriding_labelled, List.map_inj_left] at h
  have hbody := h outer houter
  simp only [hown, Option.elim_some, Node.block.injEq, true_and] at hbody
  -- what a tag in the block `outer` gets, by the block directly around it
  have hfill : nearBody child (names.map labelled) [.text default outer] = fun block =>
      [.text default ((block.filter (· ∈ names)).getD outer)] := by
    funext block
    cases block with
    | none => rfl
    | some name =>
      by_cases hname : name ∈ names
      · simp only [nearBody, lookup_labelled hnames hname, Option.filter, hname, decide_true]
        rfl
      · have hnone : (blocks (names.map labelled)).lookup name = none := by
          rw [blocks_labelled]
          simpa [List.lookup_eq_none_iff] using fun n hn (heq : name = n) => hname (heq ▸ hn)
        simp only [nearBody, hnone, Option.filter, hname, decide_false]
        rfl
  rw [hfill] at hbody
  have hgets : Node.text default outer =
      .text default (((some inner).filter (· ∈ names)).getD outer) := eq_of_parents hbody _ hnear
  simp only [Option.filter, hinner, decide_true, if_true, Option.getD_some, Node.text.injEq,
    true_and] at hgets
  -- so the tag stands in a block of the name of the one around it
  obtain ⟨span, position, hmem⟩ := block_of_lookup hown
  rcases mem_parentsNearAll hnear with hnone | hwithin
  · cases hnone
  · exact not_mem_blockNames_of_block hdistinct hmem (hgets ▸ hwithin)

end Node

namespace Tree

/-- Every parent tag of a template gets the body of the block directly around
it, in every chain through the parent of that name in which the blocks above
the template have the names `known`. Of the templates above, only what holds
of every accepted one is asked. -/
def BindsNearest (t : Tree) (name : String) (known : List String) : Prop :=
  ∀ (σ : Type) (load : String → Effect σ (Option Tree)) (limit : Nat) (s s₁ s' : σ)
    (above root : Tree) (steps : List (String × Tree)) (joined : List Node),
    Ascent load t s ((name, above) :: steps) root s₁ → root.parent? = none →
    (∀ u ∈ above :: steps.map Prod.snd, u.WellFormed) →
    (∀ n, n ∈ Node.blockNames (merged above steps) ↔ n ∈ known) →
    (inherited load limit limit [t.name] t).run s = (.ok joined, s') →
    joined = Node.overrideNearest t.nodes (merged above steps)

/-- A template that is nothing but labelled blocks. -/
def labels (name : String) (known : List String) : Tree :=
  ⟨name, known.map Node.labelled⟩

theorem parent?_labels (name : String) (known : List String) :
    (labels name known).parent? = none := by
  cases known <;> rfl

theorem wellFormed_labels (name : String) {known : List String} (hknown : known.Nodup) :
    (labels name known).WellFormed := by
  have hsettled : ∀ names : List String, Node.Settled (names.map Node.labelled) := by
    intro names
    induction names with
    | nil => exact Node.throughout_nil
    | cons n rest ih =>
      refine Node.throughout_cons.2 ⟨⟨⟨rfl, rfl⟩, fun body hbody => ?_⟩, ih⟩
      rw [List.mem_singleton.1 hbody]
      exact Node.throughout_singleton.2 ⟨⟨rfl, rfl⟩, by simp [Node.bodies]⟩
  refine ⟨?_, fun node hnode body hbody inner hinner => ?_, fun _ => hsettled known⟩
  · rwa [labels, Node.blockNames_labelled]
  · exact (hsettled known inner (Node.mem_withinAll_of_mem_body hnode hbody hinner)).2

/-- **When a template's parent tags get the bodies of their own blocks.** The
parent tags of an accepted template each get the body of the block directly
around them, with all parents that have blocks of certain names, exactly if
in none of these blocks the template writes a parent tag directly in another
of them. -/
theorem bindsNearest_iff {t : Tree} {name : String} (ht : t.Accepted)
    (hparent : t.parent? = some name) (hname : name ≠ t.name) (known : List String) :
    BindsNearest t name known ↔ Node.ParentsDirect t.nodes known := by
  constructor
  · intro h
    have hload : (shelf [labels name known.dedup] name).run () =
        (.ok (some (labels name known.dedup)), ()) := by
      simp only [shelf, List.find?_cons, labels, decide_true]
      rfl
    have hroot := parent?_labels name known.dedup
    have hup : Ascent (shelf [labels name known.dedup]) t ()
        [(name, labels name known.dedup)] (labels name known.dedup) () := .up hparent hload .here
    have hnodup : (namesMet t [(name, labels name known.dedup)]).Nodup := by
      simpa [namesMet] using hname.symm
    have hjoined := h Unit (shelf [labels name known.dedup]) 1 () () () _ _ _ _ hup hroot
      (by simpa using wellFormed_labels name known.nodup_dedup)
      (fun n => by rw [merged, labels, Node.blockNames_labelled, List.mem_dedup])
      (hup.inherited_eq hroot (Nat.le_refl 1) hnodup)
    have hdirect := Node.parentsDirect_of_labelled ht.wellFormed.distinct known.nodup_dedup hjoined
    intro outer houter own hown inner hinner
    exact hdirect outer (List.mem_dedup.2 houter) own hown inner (List.mem_dedup.2 hinner)
  · intro h σ load limit s s₁ s' above root steps joined hup hroot _ hknown hrun
    obtain ⟨steps', root', hup', hroot', rfl⟩ := ascent_of_inherited hrun
    obtain ⟨rfl, -, -⟩ := hup.root_unique hroot hup' hroot'
    rw [merged]
    refine Node.override_eq_overrideNearest fun outer houter own hown inner hinner => ?_
    exact h outer ((hknown outer).1 houter) own hown inner ((hknown inner).1 hinner)

end Tree

/-! ## A block in another -/

namespace Sample

open PromptMarkup.Tree

/-- A template with two blocks, one behind the other. -/
def pair : Tree :=
  ofSource "pair" (tagged "prompty.block name=\"a\"" ++ "A" ++ tagged "/prompty.block" ++
    tagged "prompty.block name=\"b\"" ++ "B" ++ tagged "/prompty.block")

/-- One that writes the second block inside the first, with a parent tag. -/
def nested : Tree :=
  ofSource "nested" (tagged "prompty.extends template=\"pair\" /" ++
    tagged "prompty.block name=\"a\"" ++ tagged "prompty.block name=\"b\"" ++
    tagged "prompty.parent /" ++ tagged "/prompty.block" ++ tagged "/prompty.block")

theorem nested_spec :
    nested.Accepted ∧ nested.parent? = some "pair" ∧
      Node.ParentsDirect nested.nodes ["b"] ∧ ¬ Node.ParentsDirect nested.nodes ["a", "b"] :=
  ofSource_spec (fun tree => tree.parent? = some "pair" ∧
    Node.ParentsDirect tree.nodes ["b"] ∧ ¬ Node.ParentsDirect tree.nodes ["a", "b"])
    (by decide +kernel)

theorem pair_spec : pair.Accepted ∧ pair.parent? = none :=
  ofSource_spec (fun tree => tree.parent? = none) (by decide +kernel)

theorem pair_ne_nested : "pair" ≠ nested.name := by
  simp only [nested, name_ofSource]
  decide

/-- Only where the first block is there as well does the tag get another
block's body. -/
theorem bindsNearest_nested :
    nested.Accepted ∧ nested.parent? = some "pair" ∧ "pair" ≠ nested.name ∧
      BindsNearest nested "pair" ["b"] ∧ ¬ BindsNearest nested "pair" ["a", "b"] := by
  obtain ⟨haccepted, hparent, hdirect, hindirect⟩ := nested_spec
  exact ⟨haccepted, hparent, pair_ne_nested,
    (bindsNearest_iff haccepted hparent pair_ne_nested ["b"]).2 hdirect, fun h =>
      hindirect ((bindsNearest_iff haccepted hparent pair_ne_nested ["a", "b"]).1 h)⟩

/-- The texts in a sequence of nodes, at any depth. -/
def texts (nodes : List Node) : List String :=
  (Node.withinAll nodes).filterMap fun
    | .text _ body => some body
    | _ => none

/-- In the first block, the tag in the second one has the first one's
text. -/
theorem parent_of_outer_block :
    nested.Accepted ∧ pair.Accepted ∧ ∃ joined,
      (inherited (shelf [pair]) 1 1 [nested.name] nested).run () = (.ok joined, ()) ∧
      texts joined = ["A", "B"] ∧
      texts (Node.overrideNearest nested.nodes pair.nodes) = ["B", "B"] := by
  refine ⟨nested_spec.1, pair_spec.1, Node.override nested.nodes pair.nodes, ?_, ?_⟩
  · have hload : (shelf [pair] "pair").run () = (.ok (some pair), ()) := by
      simp only [shelf, List.find?_cons, pair, name_ofSource]
      rfl
    have hup : Ascent (shelf [pair]) nested () [("pair", pair)] pair () :=
      .up nested_spec.2.1 hload .here
    have hnodup : (namesMet nested [("pair", pair)]).Nodup := by
      simpa [namesMet] using pair_ne_nested.symm
    exact hup.inherited_eq pair_spec.2 (Nat.le_refl 1) hnodup
  · decide +kernel

end Sample

end PromptMarkup
