import PromptMarkup.Proofs.Tree.Behind
import PromptMarkup.Proofs.Tree.Regular
/-!
# Tree — the names on the list

A builder keeps a list of the names of blocks, so that none is taken twice.
Where every token is taken without an error it holds exactly the names of the
blocks that were read: none of them is lost with a broken tag
(`Builder.Listed`), and each was given by the tag of a block
(`TakesAll.free`).
-/

namespace PromptMarkup

namespace Builder

/-- No open tag is broken, and every name on the list is that of a block. -/
structure Listed (b : Builder) : Prop where
  unbroken : ∀ frame ∈ b.stack, frame.kind ≠ .discard
  listed : ∀ name ∈ b.blockNames, name ∈ b.names

variable {b b' : Builder} {name : String}

/-! ## Nodes and frames -/

theorem mem_names_addNode (node : Node) (position : Position) :
    name ∈ (b.addNode node position).names ↔
      name ∈ b.names ∨ name ∈ Node.blockNames [node] := by
  cases hstack : b.stack with
  | nil =>
    rw [addNode_of_root hstack]
    simp only [names, hstack, List.flatMap_nil, List.append_nil, Array.toList_push,
      Node.blockNames_append, List.mem_append]
  | cons frame outer =>
    rw [addNode_of_frame hstack]
    simp only [names, frameNames, hstack, List.flatMap_cons, Frame.bodies, List.flatMap_append,
      List.flatMap_nil, Array.toList_push, Node.blockNames_append, List.mem_append,
      List.append_nil]
    tauto

@[simp] theorem blockNames_addNode (node : Node) (position : Position) :
    (b.addNode node position).blockNames = b.blockNames := by
  unfold addNode
  cases b.stack <;> rfl

@[simp] theorem extended_addNode (node : Node) (position : Position) :
    (b.addNode node position).extended = b.extended := by
  unfold addNode
  cases b.stack <;> rfl

/-- Nothing that `addNode` and `pushFrame` do not change is changed by closing
a frame. -/
theorem closeFrame_fields (stop : Nat) :
    (b.closeFrame stop).blockNames = b.blockNames ∧ (b.closeFrame stop).extended = b.extended := by
  rw [closeFrame]
  split
  · exact ⟨rfl, rfl⟩
  · simp only
    split
    · exact ⟨blockNames_addNode _ _, extended_addNode _ _⟩
    · exact ⟨rfl, rfl⟩

/-- A node may bring the names that are still missing. -/
theorem listed_addNode {node : Node} (position : Position)
    (hunbroken : ∀ frame ∈ b.stack, frame.kind ≠ .discard)
    (hlisted : ∀ name ∈ b.blockNames, name ∈ b.names ∨ name ∈ Node.blockNames [node]) :
    (b.addNode node position).Listed := by
  refine ⟨?_, fun name hname => ?_⟩
  · cases hstack : b.stack with
    | nil =>
      rw [addNode_of_root hstack]
      exact hunbroken
    | cons frame outer =>
      rw [addNode_of_frame hstack]
      refine List.forall_mem_cons.2 ⟨?_, fun f hf => ?_⟩
      · exact hunbroken frame (by simp [hstack])
      · exact hunbroken f (by simp [hstack, hf])
  · rw [blockNames_addNode] at hname
    exact (mem_names_addNode node position).2 (hlisted name hname)

theorem Listed.addNode (h : b.Listed) (node : Node) (position : Position) :
    (b.addNode node position).Listed :=
  listed_addNode position h.unbroken fun name hname => .inl (h.listed name hname)

theorem Listed.pushFrame (h : b.Listed) (tag : String) (span : Span) (position : Position)
    {kind : FrameKind} (hkind : kind ≠ .discard) {known : List String}
    (hknown : ∀ name ∈ known, name ∈ kind.blockName?.toList ∨ name ∈ b.blockNames) :
    Listed { b.pushFrame tag span position kind with blockNames := known } := by
  refine ⟨List.forall_mem_cons.2 ⟨hkind, h.unbroken⟩, fun name hname => ?_⟩
  simp only [names, frameNames, Builder.pushFrame, List.flatMap_cons, List.mem_append]
  rcases hknown name hname with hown | hbefore
  · exact .inr (.inl (.inl hown))
  · have := h.listed name hbefore
    simp only [names, List.mem_append] at this
    tauto

/-- **No name is lost** with the frame of an unbroken tag. -/
theorem Listed.closeFrame (h : b.Listed) (stop : Nat) : (b.closeFrame stop).Listed := by
  rw [Builder.closeFrame]
  split
  · exact h
  · next frame outer hstack =>
    simp only
    split
    · next node hnode =>
      obtain ⟨hbodies, hname, -, -⟩ := Frame.node?_spec hnode
      refine listed_addNode _ (fun f hf => h.unbroken f (by simp [hstack, hf])) fun name hmem => ?_
      have := h.listed name hmem
      rw [Node.blockNames_singleton, hbodies, hname]
      simp only [names, frameNames, hstack, List.flatMap_cons, List.mem_append] at this ⊢
      tauto
    · next hnone =>
      -- only a broken tag leaves no node
      refine absurd ?_ (h.unbroken frame (by simp [hstack]))
      obtain ⟨tag, start, position, kind, children⟩ := frame
      cases kind with
      | choice info done current => cases current <;> cases hnone
      | discard => rfl
      | _ => cases hnone

theorem Listed.nextBranch (h : b.Listed) {frame : Frame} {outer : List Frame} {info : NodeInfo}
    {done : List Branch} {current : OpenBranch} {next : Option OpenBranch}
    (hstack : b.stack = frame :: outer) (hkind : frame.kind = .choice info done (some current)) :
    (b.nextBranch frame outer info done current next).Listed := by
  refine ⟨List.forall_mem_cons.2 ⟨by rintro ⟨⟩, fun f hf => ?_⟩, fun name hname => ?_⟩
  · exact h.unbroken f (by simp [hstack, hf])
  · have := h.listed name hname
    simpa only [names, frameNames, hstack, hkind, Builder.nextBranch, Frame.bodies,
      FrameKind.bodies, FrameKind.blockName?, List.map_append, List.map_cons, List.map_nil,
      Branch.body, List.flatMap_cons, List.flatMap_append, List.flatMap_nil, List.append_nil,
      Node.blockNames, Node.blocks_nil] using this

/-! ## Tokens -/

/-- **Every name on the list is that of a block.** -/
theorem Listed.takes {token : Token} (htakes : b.Takes token b') (h : b.Listed) : b'.Listed := by
  cases htakes with
  | text => exact h.addNode _ _
  | comment => exact h.addNode _ _
  | @opening _ tag _ span position _ hopens =>
    generalize (b.opening _ tag _ span position).2 = problems
    have hreport : (b.report problems position tag).Listed := ⟨h.unbroken, h.listed⟩
    have hpush : ∀ {kind : FrameKind}, kind ≠ .discard →
        ((b.report problems position tag).pushFrame tag span position kind).Listed :=
      fun hkind => hreport.pushFrame tag span position hkind fun _ hmem => .inr hmem
    cases hopens with
    | @block name =>
      have hkind : FrameKind.block name ≠ .discard := by rintro ⟨⟩
      refine hreport.pushFrame _ span position hkind fun other hother => ?_
      exact (List.mem_cons.1 hother).imp_left fun h => by simp [h, FrameKind.blockName?]
    | var | inclusion | parent | tag => exact hreport.addNode _ _
    | choice | loop | message | blockTag => exact hpush (by rintro ⟨⟩)
  | extending =>
    refine ⟨h.unbroken, fun name hname => ?_⟩
    have := h.listed name hname
    simp only [names, Array.toList_push, Node.blockNames_append, List.mem_append] at this ⊢
    tauto
  | elseIf hstack hkind => exact h.nextBranch hstack hkind
  | otherwise hstack hkind => exact h.nextBranch hstack hkind
  | close => exact h.closeFrame _
  | closeBranch => exact h

/-- A token adds to the list, and never takes back that the template extends
another. -/
theorem Takes.grows {token : Token} (h : b.Takes token b') :
    b.blockNames ⊆ b'.blockNames ∧ (b'.extended = false → b.extended = false) := by
  cases h with
  | text | comment => simp
  | opening hopens => cases hopens <;> simp [addOpening, report, pushFrame]
  | extending => simp
  | elseIf | otherwise => exact ⟨fun _ => id, id⟩
  | close =>
    obtain ⟨hnames, hextended⟩ := @closeFrame_fields b _
    rw [hnames, hextended]
    exact ⟨fun _ => id, id⟩
  | closeBranch => exact ⟨fun _ => id, id⟩

/-- The tag of a block opens one under the name it gives. -/
theorem Opens.of_block {attrs : Attributes} {span : Span} {position : Position} {shape : TagShape}
    {tag : String} {o : Opening} (h : b.Opens attrs span position shape tag o)
    (htag : tag = Tag.block) : ∃ name, attrs.filled? "name" = some name ∧
      o = .frame (.block name) := by
  have hother : Tag.block ∈ Tag.structural := by decide
  cases h with
  | block _ hname _ => exact ⟨_, hname, rfl⟩
  | tag _ hname _ => exact absurd hother (htag ▸ hname)
  | blockTag _ hname _ => exact absurd hother (htag ▸ hname)
  | _ => exact absurd htag (by decide)

theorem Takes.free {token : Token} (h : b.Takes token b') (hextended : b'.extended = false)
    {names : List String} (hnames : ∀ name ∈ b'.blockNames, name ∉ names) : token.Free names := by
  rintro shape tag attrs hpiece
  cases h with
  | opening hopens =>
    cases hpiece
    have htag := hopens.tag_notMem
    simp only [List.mem_cons, not_or] at htag
    refine ⟨htag.2.2.1, fun hblock name hname => ?_⟩
    obtain ⟨own, hown, rfl⟩ := hopens.of_block hblock
    obtain rfl : own = name := Option.some.inj (hown.symm.trans hname)
    exact hnames own List.mem_cons_self
  | extending => cases hextended
  | elseIf | otherwise =>
    cases hpiece
    exact ⟨by decide, fun h => absurd h (by decide)⟩
  | _ => cases hpiece

theorem TakesAll.grows {tokens : List Token} (h : TakesAll b tokens b') :
    b.blockNames ⊆ b'.blockNames ∧ (b'.extended = false → b.extended = false) := by
  induction h with
  | nil => exact ⟨fun _ => id, id⟩
  | cons htakes _ ih =>
    obtain ⟨hnames, hextended⟩ := htakes.grows
    exact ⟨fun _ hname => ih.1 (hnames hname), fun h => hextended (ih.2 h)⟩

/-- **Every block that is read has its name on the list**, so its tokens are
free of all names that are not there. -/
theorem TakesAll.free {tokens : List Token} (h : TakesAll b tokens b')
    (hextended : b'.extended = false) {names : List String}
    (hnames : ∀ name ∈ b'.blockNames, name ∉ names) : ∀ t ∈ tokens, t.Free names := by
  induction h with
  | nil => exact List.forall_mem_nil _
  | cons htakes hrest ih =>
    obtain ⟨hlist, hbefore⟩ := hrest.grows
    refine List.forall_mem_cons.2 ⟨?_, ih hextended hnames⟩
    exact htakes.free (hbefore hextended) fun name hname => hnames name (hlist hname)

end Builder

end PromptMarkup
