import PromptMarkup.Template
import PromptMarkup.Proofs.Tree.Moves
/-!
# Tree — what an accepted template is like

The tree of a template that was read without errors is well formed
(`Accepted.wellFormed`): its blocks have different names, the statement that
it extends another template stands outside all other tags, and without that
statement there is no parent tag. None of this is checked on the finished
tree. It is an invariant of the builder (`Builder.Sound`), and every move
keeps it.
-/

namespace PromptMarkup

namespace Node

/-- Nowhere in the nodes, at any depth, is it said that the template extends
another. -/
abbrev NoExtending (nodes : List Node) : Prop :=
  Throughout (·.isExtending = false) nodes

/-- The nodes ask nothing of a parent: there is neither a parent tag nor the
statement that the template extends another, at any depth. -/
abbrev Settled (nodes : List Node) : Prop :=
  Throughout (fun node => node.isParent = false ∧ node.isExtending = false) nodes

theorem blockNames_append (xs ys : List Node) :
    blockNames (xs ++ ys) = blockNames xs ++ blockNames ys := by
  rw [blockNames, blocks_append, List.map_append, blockNames, blockNames]

/-- The names of the blocks in a node: its own, and those in its bodies. -/
theorem blockNames_singleton (node : Node) :
    blockNames [node] =
      (node.definition?.map Prod.fst).toList ++ node.bodies.flatMap blockNames := by
  rw [blockNames, blocks_singleton, List.map_append, List.map_flatMap]
  cases node.definition? <;> rfl

end Node

namespace Tree

/-- The tree of a template that was read, with some delimiters and
resolvers, and found without errors. -/
def Accepted (tree : Tree) : Prop :=
  ∃ (d : Delimiters) (resolvers : Resolvers) (name source : String) (t : Template),
    Template.parse d resolvers name source = .ok t ∧ t.tree = tree

/-- What holds of the tree of every accepted template. -/
structure WellFormed (tree : Tree) : Prop where
  /-- No two blocks have one name. -/
  distinct : (Node.blockNames tree.nodes).Nodup
  /-- Only outside all other tags can it be said that the template extends
  another. -/
  outermost : ∀ node ∈ tree.nodes, ∀ body ∈ node.bodies, Node.NoExtending body
  /-- A template that extends no other asks nothing of a parent. -/
  settled : tree.parent? = none → Node.Settled tree.nodes

/-- A parent found in a sequence of nodes is not lost by more nodes. -/
theorem parentOf?_append {xs : List Node} (h : (parentOf? xs).isSome) (ys : List Node) :
    parentOf? (xs ++ ys) = parentOf? xs := by
  induction xs with
  | nil => cases h
  | cons node rest ih =>
    cases node with
    | text span body =>
      simp only [parentOf?, List.cons_append] at h ⊢
      split
      · next hblank => exact ih (by simpa [hblank] using h)
      · rfl
    | comment span body => exact ih h
    | extending span position template => rfl
    | _ => cases h

/-- The statement that a template extends another counts behind blanks and
comments. -/
theorem parentOf?_extending {xs : List Node} (hfiller : ∀ node ∈ xs, Builder.isFiller node)
    (hnone : ∀ node ∈ xs, node.isExtending = false) (span : Span) (position : Position)
    (template : String) :
    parentOf? (xs ++ [.extending span position template]) = some template := by
  induction xs with
  | nil => rfl
  | cons node rest ih =>
    have hnode := hfiller node List.mem_cons_self
    have hrest := ih (fun n hn => hfiller n (List.mem_cons_of_mem _ hn))
      (fun n hn => hnone n (List.mem_cons_of_mem _ hn))
    cases node with
    | text s body =>
      simp only [Builder.isFiller] at hnode
      simp only [List.cons_append, parentOf?, hnode, if_true, hrest]
    | comment s body => exact hrest
    | extending s p t => cases hnone _ List.mem_cons_self
    | _ => cases hnode

end Tree

namespace Builder

open Node PromptMarkup.Tree

/-! ## The invariant -/

/-- The names of the blocks in a frame, its own included. -/
def frameNames (frame : Frame) : List String :=
  frame.kind.blockName?.toList ++ frame.bodies.flatMap Node.blockNames

/-- The names of all blocks read so far, of the open ones too. -/
def names (b : Builder) : List String :=
  Node.blockNames b.root.toList ++ b.stack.flatMap frameNames

/-- What holds of a tree under construction. -/
structure Sound (b : Builder) : Prop where
  distinct : b.blockNames.Nodup
  /-- Every block that was read has its name on the list, for itself alone. -/
  named : ∀ name, b.names.count name ≤ b.blockNames.count name
  outermost : ∀ node ∈ b.root.toList, ∀ body ∈ node.bodies, NoExtending body
  framed : ∀ frame ∈ b.stack, ∀ body ∈ frame.bodies, NoExtending body
  settled : b.extended = false →
    Settled b.root.toList ∧ ∀ frame ∈ b.stack, ∀ body ∈ frame.bodies, Settled body
  leading : b.extended = true → (parentOf? b.root.toList).isSome
  filler : b.rootFilled = false → ∀ node ∈ b.root.toList, isFiller node

theorem sound_empty (source : List Char) (resolvers : Resolvers) :
    Sound { source := source, resolvers := resolvers } where
  distinct := List.nodup_nil
  named name := Nat.le_refl _
  outermost := by simp
  framed := by simp
  settled _ := ⟨throughout_nil, by simp⟩
  leading h := by cases h
  filler _ := by simp

variable {b : Builder}

/-- **A node is added soundly** if it brings no names that are not on the
list, and asks of a parent only what the template may ask. -/
theorem Sound.addNode (hb : b.Sound) {node : Node} (position : Position)
    (hnames : ∀ name, b.names.count name + (Node.blockNames [node]).count name ≤
      b.blockNames.count name)
    (hnone : NoExtending [node]) (hsettled : b.extended = false → Settled [node]) :
    (b.addNode node position).Sound := by
  unfold Builder.addNode
  split
  · next frame outer hstack =>
    -- the node goes to the last body of the innermost frame
    have hlast : ∀ {Q : List Node → Prop}, (∀ xs, Q xs → Q (xs ++ [node])) →
        (∀ body ∈ frame.bodies, Q body) →
        ∀ body ∈ ({ frame with children := frame.children.push node } : Frame).bodies, Q body := by
      intro Q hpush hframe body hbody
      simp only [Frame.bodies, Array.toList_push, List.mem_append, List.mem_singleton] at hbody
      rcases hbody with hbody | rfl
      · exact hframe body (List.mem_append_left _ hbody)
      · exact hpush _ (hframe _ (List.mem_append_right _ (List.mem_singleton_self _)))
    refine ⟨hb.distinct, fun name => ?_, hb.outermost, ?_, fun hext => ⟨(hb.settled hext).1, ?_⟩,
      hb.leading, hb.filler⟩
    · have := hnames name
      simp only [names, frameNames, hstack, List.flatMap_cons, Frame.bodies, List.flatMap_append,
        List.flatMap_nil, Array.toList_push, blockNames_append, List.count_append,
        List.append_nil] at this ⊢
      omega
    · intro f hf
      rcases List.mem_cons.1 hf with rfl | hf
      · exact hlast (fun xs hxs => throughout_append.2 ⟨hxs, hnone⟩)
          (hb.framed frame (by simp [hstack]))
      · exact hb.framed f (by simp [hstack, hf])
    · intro f hf
      rcases List.mem_cons.1 hf with rfl | hf
      · exact hlast (fun xs hxs => throughout_append.2 ⟨hxs, hsettled hext⟩)
          ((hb.settled hext).2 frame (by simp [hstack]))
      · exact (hb.settled hext).2 f (by simp [hstack, hf])
  · next hstack =>
    refine ⟨hb.distinct, fun name => ?_, ?_, by simp [hstack], fun hext => ⟨?_, by simp [hstack]⟩,
      fun hext => ?_, fun hroot => ?_⟩
    · have := hnames name
      simp only [names, hstack, List.flatMap_nil, List.append_nil, Array.toList_push,
        blockNames_append, List.count_append] at this ⊢
      omega
    · simp only [Array.toList_push, List.mem_append, List.mem_singleton]
      rintro n (hn | rfl)
      · exact hb.outermost n hn
      · exact (throughout_singleton.1 hnone).2
    · simp only [Array.toList_push]
      exact throughout_append.2 ⟨(hb.settled hext).1, hsettled hext⟩
    · have hlead := hb.leading hext
      simp only [Array.toList_push]
      rw [parentOf?_append hlead]
      exact hlead
    · simp only [Bool.or_eq_false_iff, Bool.not_eq_false'] at hroot
      simp only [Array.toList_push, List.mem_append, List.mem_singleton]
      rintro n (hn | rfl)
      · exact hb.filler hroot.1 n hn
      · exact hroot.2

/-- A frame is opened soundly with no more names than the list then has. -/
theorem Sound.pushFrame (hb : b.Sound) (tag : String) (span : Span) (position : Position)
    {kind : FrameKind} (hbodies : kind.bodies = []) {known : List String} (hknown : known.Nodup)
    (hnames : ∀ name, b.names.count name + kind.blockName?.toList.count name ≤
      known.count name) :
    Sound { b.pushFrame tag span position kind with blockNames := known } := by
  have hframe : ∀ {Q : List Node → Prop}, Q [] →
      ∀ body ∈ (⟨tag, span.start, position, kind, #[]⟩ : Frame).bodies, Q body := by
    intro Q hnil body hbody
    simp only [Frame.bodies, hbodies, List.nil_append, List.mem_singleton] at hbody
    exact hbody ▸ hnil
  refine ⟨hknown, fun name => ?_, hb.outermost, ?_, fun hext => ⟨(hb.settled hext).1, ?_⟩,
    hb.leading, hb.filler⟩
  · have := hnames name
    simp only [names, frameNames, Builder.pushFrame, Frame.bodies, hbodies, List.nil_append,
      List.flatMap_cons, List.flatMap_nil, List.append_nil, Node.blockNames, blocks_nil,
      List.map_nil, List.count_append] at this ⊢
    omega
  · intro f hf
    rcases List.mem_cons.1 hf with rfl | hf
    · exact hframe throughout_nil
    · exact hb.framed f hf
  · intro f hf
    rcases List.mem_cons.1 hf with rfl | hf
    · exact hframe throughout_nil
    · exact (hb.settled hext).2 f hf

/-- The innermost frame can be taken off, and its names with it. -/
theorem Sound.popFrame (hb : b.Sound) {frame : Frame} {outer : List Frame}
    (hstack : b.stack = frame :: outer) : Sound { b with stack := outer } := by
  have hmem : ∀ f ∈ outer, f ∈ b.stack := fun f hf => by simp [hstack, hf]
  refine ⟨hb.distinct, fun name => ?_, hb.outermost, fun f hf => hb.framed f (hmem f hf),
    fun hext => ⟨(hb.settled hext).1, fun f hf => (hb.settled hext).2 f (hmem f hf)⟩,
    hb.leading, hb.filler⟩
  have := hb.named name
  simp only [names, hstack, List.flatMap_cons, List.count_append] at this ⊢
  omega

/-- **A closed frame's node is added soundly**: it holds what the frame
held. -/
theorem Sound.closeFrame (hb : b.Sound) (stop : Nat) : (b.closeFrame stop).Sound := by
  rw [Builder.closeFrame]
  split
  · exact hb
  · next frame outer hstack =>
    have hpopped := hb.popFrame hstack
    have hframe : frame ∈ b.stack := by simp [hstack]
    simp only
    split
    · next node hnode =>
      obtain ⟨hbodies, hname, hparent, hextending⟩ := Frame.node?_spec hnode
      refine hpopped.addNode _ (fun name => ?_)
        (throughout_singleton.2 ⟨hextending, hbodies ▸ hb.framed frame hframe⟩) fun hext =>
          throughout_singleton.2 ⟨⟨hparent, hextending⟩, hbodies ▸ (hb.settled hext).2 frame hframe⟩
      have := hb.named name
      rw [blockNames_singleton, hbodies, hname]
      simp only [names, frameNames, hstack, List.flatMap_cons, List.count_append] at this ⊢
      omega
    · exact hpopped

/-- Ending a branch moves nodes from one body of the frame to another. -/
theorem Sound.nextBranch (hb : b.Sound) {frame : Frame} {outer : List Frame} {info : NodeInfo}
    {done : List Branch} {current : OpenBranch} (next : Option OpenBranch)
    (hstack : b.stack = frame :: outer) (hkind : frame.kind = .choice info done (some current)) :
    (b.nextBranch frame outer info done current next).Sound := by
  obtain ⟨tag, start, position, kind, children⟩ := frame
  subst hkind
  have hbodies : ∀ {Q : List Node → Prop}, Q [] →
      (∀ body ∈ (⟨tag, start, position, .choice info done (some current), children⟩ : Frame).bodies,
        Q body) →
      ∀ body ∈ (⟨tag, start, position, .choice info (done ++ [.mk current.position current.source
        current.condition children.toList]) next, #[]⟩ : Frame).bodies, Q body := by
    intro Q hnil hframe body hbody
    simp only [Frame.bodies, FrameKind.bodies, List.map_append, List.map_cons, List.map_nil,
      Branch.body, List.mem_append, List.mem_singleton] at hbody
    rcases hbody with hbody | rfl
    · exact hframe body (by simpa [Frame.bodies, FrameKind.bodies] using hbody)
    · exact hnil
  refine ⟨hb.distinct, fun name => ?_, hb.outermost, ?_, fun hext => ⟨(hb.settled hext).1, ?_⟩,
    hb.leading, hb.filler⟩
  · have := hb.named name
    simp only [names, frameNames, hstack, Builder.nextBranch, Frame.bodies, FrameKind.bodies,
      FrameKind.blockName?, List.map_append, List.map_cons, List.map_nil, Branch.body,
      List.flatMap_cons, List.flatMap_append, List.flatMap_nil, List.append_nil,
      Node.blockNames, blocks_nil, List.count_append] at this ⊢
    exact this
  · intro f hf
    rcases List.mem_cons.1 hf with rfl | hf
    · exact hbodies throughout_nil (hb.framed _ (by simp [hstack]))
    · exact hb.framed f (by simp [hstack, hf])
  · intro f hf
    rcases List.mem_cons.1 hf with rfl | hf
    · exact hbodies throughout_nil ((hb.settled hext).2 _ (by simp [hstack]))
    · exact (hb.settled hext).2 f (by simp [hstack, hf])

/-- The statement that the template extends another, before all content. -/
theorem Sound.extending (hb : b.Sound) (span : Span) (position : Position) (template : String)
    (hextended : b.extended = false) (hroot : b.rootFilled = false) :
    Sound { b with extended := true, root := b.root.push (.extending span position template) } := by
  refine ⟨hb.distinct, fun name => ?_, ?_, hb.framed, fun hext => ?_, fun _ => ?_, fun _ => ?_⟩
  · have hnames : Node.blockNames (b.root.toList ++ [.extending span position template]) =
        Node.blockNames b.root.toList := by
      rw [blockNames_append]
      exact List.append_nil _
    have := hb.named name
    simpa only [names, Array.toList_push, hnames] using this
  · simp only [Array.toList_push, List.mem_append, List.mem_singleton]
    rintro n (hn | rfl)
    · exact hb.outermost n hn
    · exact fun body hbody => absurd hbody List.not_mem_nil
  · cases hext
  · have hnone : ∀ node ∈ b.root.toList, node.isExtending = false := fun node hnode =>
      ((hb.settled hextended).1 node (mem_withinAll_of_mem hnode)).2
    simp only [Array.toList_push]
    rw [parentOf?_extending (hb.filler hroot) hnone]
    rfl
  · simp only [Array.toList_push, List.mem_append, List.mem_singleton]
    rintro n (hn | rfl)
    · exact hb.filler hroot n hn
    · rfl

/-- **Every move keeps the invariant.** -/
theorem Sound.move {b' : Builder} (hmove : Move b b') (hb : b.Sound) : b'.Sound := by
  cases hmove with
  | remark issues => exact ⟨hb.1, hb.2, hb.3, hb.4, hb.5, hb.6, hb.7⟩
  | @leaf node position hplain hleaf =>
    have hkind : node.isBlock = false ∧ node.isParent = false ∧ node.isExtending = false := by
      simpa [isCombining, and_assoc] using hplain
    have hname : node.definition? = none := by
      cases node <;> first | rfl | cases hkind.1
    refine hb.addNode position (fun name => ?_)
      (throughout_singleton.2 ⟨hkind.2.2, by simp [hleaf]⟩) fun _ =>
        throughout_singleton.2 ⟨hkind.2, by simp [hleaf]⟩
    rw [blockNames_singleton, hleaf, hname]
    exact hb.named name
  | parent span position site hinside hextended =>
    have hnone : NoExtending [.parent span position] :=
      throughout_singleton.2 ⟨rfl, by simp [bodies]⟩
    refine hb.addNode site (fun name => hb.named name) hnone fun hext => ?_
    rw [hextended] at hext
    cases hext
  | extending span position template hextended hstack hroot =>
    exact hb.extending span position template hextended hroot
  | frame tag span position hbodies hname =>
    refine hb.pushFrame tag span position hbodies hb.distinct fun name => ?_
    rw [hname]
    exact hb.named name
  | @block tag span position name hname =>
    refine hb.pushFrame tag span position rfl (List.nodup_cons.2 ⟨hname, hb.distinct⟩) fun n => ?_
    have := hb.named n
    simp only [FrameKind.blockName?, Option.toList_some, List.count_cons, List.count_nil]
    omega
  | branch next hstack hkind => exact hb.nextBranch next hstack hkind
  | close stop => exact hb.closeFrame stop

end Builder

namespace Tree

/-! ## Accepted templates -/

/-- What is read without errors has the tree that is built of its tokens. -/
theorem build_of_parse {d : Delimiters} {resolvers : Resolvers} {name source : String}
    {t : Template} (h : Template.parse d resolvers name source = .ok t) :
    ∃ tokens, t.tree = (build resolvers name source tokens).1 := by
  simp only [Template.parse, Tree.parse] at h
  cases htokens : Token.read d source with
  | error failure =>
    rw [htokens] at h
    cases h
  | ok tokens =>
    refine ⟨tokens, ?_⟩
    rw [htokens] at h
    simp only [Except.map] at h
    split at h
    · cases h
    · injection h with h
      rw [← h]

/-- **The tree of an accepted template is well formed.** -/
theorem Accepted.wellFormed {tree : Tree} (h : tree.Accepted) : tree.WellFormed := by
  obtain ⟨d, resolvers, name, source, t, hparse, rfl⟩ := h
  obtain ⟨tokens, htree⟩ := build_of_parse hparse
  obtain ⟨b, hreach, hroot⟩ := Builder.reaches_build resolvers name source tokens
  have hsound : b.Sound :=
    hreach.keeps (fun _ _ hmove hb => hb.move hmove) (Builder.sound_empty _ _)
  rw [← htree] at hroot
  refine ⟨?_, hroot ▸ hsound.outermost, fun hparent => ?_⟩
  · rw [List.nodup_iff_count, hroot]
    intro name
    have h₁ := hsound.named name
    have h₂ := List.nodup_iff_count.1 hsound.distinct name
    simp only [Builder.names, List.count_append] at h₁
    omega
  · cases hext : b.extended with
    | false => exact hroot ▸ (hsound.settled hext).1
    | true =>
      have := hsound.leading hext
      rw [← hroot, show parentOf? t.tree.nodes = none from hparent] at this
      cases this

/-- The tree of a source that is read in the usual way, and an empty one in
place of a source with errors. -/
def ofSource (name source : String) : Tree :=
  match Template.ofSource name source with
  | .ok t => t.tree
  | .error _ => ⟨name, []⟩

/-- What is checked of a source's tree holds of it, and the source has no
errors if it is checked at all. -/
theorem ofSource_spec {name source : String} (p : Tree → Prop) [DecidablePred p]
    (h : ((Template.ofSource name source).toOption.any fun t => decide (p t.tree)) = true) :
    (ofSource name source).Accepted ∧ p (ofSource name source) := by
  rw [ofSource]
  cases hread : Template.ofSource name source with
  | ok t =>
    rw [hread] at h
    exact ⟨⟨_, _, _, _, t, hread, rfl⟩, of_decide_eq_true h⟩
  | error failure =>
    rw [hread] at h
    cases h

@[simp] theorem name_ofSource (name source : String) : (ofSource name source).name = name := by
  rw [ofSource]
  cases hread : Template.ofSource name source with
  | ok t =>
    obtain ⟨tokens, htree⟩ := build_of_parse hread
    simp only [htree]
    rfl
  | error failure => rfl

end Tree

end PromptMarkup
