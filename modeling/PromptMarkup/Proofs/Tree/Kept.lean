import PromptMarkup.Proofs.Tree.Moves
import PromptMarkup.Proofs.Tree.Taking
/-!
# Tree — what nodes keep from the tags they are read from

A property of nodes holds throughout a tree if it holds of each node when it is
added: of a leaf, which has its info from one token, and of the node that an
open frame becomes. What is known of a frame until then is a property of its
tag and kind, that tags which continue it have to keep (`Takes.keeps`).
-/

namespace PromptMarkup

open Node

namespace Builder

/-- All nodes read so far have a property, and all open frames one of their
own. -/
structure Keeps (P : Node → Prop) (Q : String → FrameKind → Prop) (b : Builder) : Prop where
  root : Throughout P b.root.toList
  kinds : ∀ frame ∈ b.stack, Q frame.tag frame.kind
  bodies : ∀ frame ∈ b.stack, ∀ body ∈ frame.bodies, Throughout P body

variable {P : Node → Prop} {Q Q' : String → FrameKind → Prop} {b b' : Builder}

theorem keeps_start (P : Node → Prop) (Q : String → FrameKind → Prop) (resolvers : Resolvers)
    (source : String) : (start resolvers source).Keeps P Q :=
  ⟨throughout_nil, List.forall_mem_nil _, List.forall_mem_nil _⟩

theorem Keeps.imp (hb : b.Keeps P Q) (himp : ∀ tag kind, Q tag kind → Q' tag kind) :
    b.Keeps P Q' :=
  ⟨hb.root, fun frame hframe => himp _ _ (hb.kinds frame hframe), hb.bodies⟩

/-! ## Nodes and frames -/

/-- A node is added that has the property, and all nodes in it. -/
theorem Keeps.addNode (hb : b.Keeps P Q) {node : Node} (position : Position)
    (hnode : Throughout P [node]) : (b.addNode node position).Keeps P Q := by
  obtain ⟨hroot, hkinds, hbodies⟩ := hb
  unfold Builder.addNode
  split
  · next frame outer hstack =>
    rw [hstack, List.forall_mem_cons] at hkinds hbodies
    refine ⟨hroot, List.forall_mem_cons.2 hkinds, List.forall_mem_cons.2 ⟨?_, hbodies.2⟩⟩
    simp only [Frame.bodies, List.forall_mem_append, List.forall_mem_singleton] at hbodies ⊢
    rw [Array.toList_push, throughout_append]
    exact ⟨hbodies.1.1, hbodies.1.2, hnode⟩
  · next hstack =>
    refine ⟨?_, by simp [hstack], by simp [hstack]⟩
    rw [Array.toList_push, throughout_append]
    exact ⟨hroot, hnode⟩

/-- A leaf is added that has the property. -/
theorem Keeps.addLeaf (hb : b.Keeps P Q) {node : Node} (position : Position)
    (hleaf : node.bodies = []) (hnode : P node) : (b.addNode node position).Keeps P Q :=
  hb.addNode position (throughout_singleton.2 ⟨hnode, by simp [hleaf]⟩)

theorem Keeps.report (hb : b.Keeps P Q) {problems : List Problem} {position : Position}
    {tag : String} : (b.report problems position tag).Keeps P Q :=
  ⟨hb.root, hb.kinds, hb.bodies⟩

/-- A frame is opened. -/
theorem Keeps.pushFrame (hb : b.Keeps P Q) {frame : Frame} (hstack : b'.stack = frame :: b.stack)
    (hroot : b'.root = b.root) (hkind : Q frame.tag frame.kind) (hempty : frame.bodies = [[]]) :
    b'.Keeps P Q := by
  refine ⟨hroot ▸ hb.root, ?_, ?_⟩
  · rw [hstack]
    exact List.forall_mem_cons.2 ⟨hkind, hb.kinds⟩
  · rw [hstack, List.forall_mem_cons, hempty]
    exact ⟨List.forall_mem_singleton.2 throughout_nil, hb.bodies⟩

/-- A frame is closed, and becomes a node that has the property. -/
theorem Keeps.closeFrame (hb : b.Keeps P Q)
    (closed : ∀ (frame : Frame) span node, Q frame.tag frame.kind →
      frame.node? b.source span = some node → P node)
    (stop : Nat) : (b.closeFrame stop).Keeps P Q := by
  rw [Builder.closeFrame]
  split
  · exact hb
  · next frame outer hstack =>
    obtain ⟨hroot, hkinds, hbodies⟩ := hb
    rw [hstack, List.forall_mem_cons] at hkinds hbodies
    have hpopped : Keeps P Q { b with stack := outer } := ⟨hroot, hkinds.2, hbodies.2⟩
    simp only
    split
    · next node hnode =>
      refine hpopped.addNode _ (throughout_singleton.2 ⟨closed _ _ _ hkinds.1 hnode, ?_⟩)
      rw [(Frame.node?_spec hnode).1]
      exact hbodies.1
    · exact hpopped

/-- A branch ends, and the frame goes on as another. -/
theorem Keeps.nextBranch (hb : b.Keeps P Q) {frame : Frame} {outer : List Frame} {info : NodeInfo}
    {done : List Branch} {current : OpenBranch} {next : Option OpenBranch}
    (hstack : b.stack = frame :: outer) (hkind : frame.kind = .choice info done (some current))
    (hnext : Q frame.tag (.choice info (done ++ [.mk current.position current.source
      current.condition frame.children.toList]) next)) :
    (b.nextBranch frame outer info done current next).Keeps P Q := by
  obtain ⟨hroot, hkinds, hbodies⟩ := hb
  rw [hstack, List.forall_mem_cons] at hkinds hbodies
  refine ⟨hroot, List.forall_mem_cons.2 ⟨hnext, hkinds.2⟩,
    List.forall_mem_cons.2 ⟨fun body hbody => ?_, hbodies.2⟩⟩
  rcases List.mem_append.1 hbody with hbody | hbody
  · -- what was being collected is the body of the branch now
    have hsame : (done ++ [Branch.mk current.position current.source current.condition
        frame.children.toList]).map Branch.body = frame.bodies := by
      simp [Frame.bodies, hkind, FrameKind.bodies, Branch.body]
    exact hbodies.1 body (hsame ▸ hbody)
  · rw [List.mem_singleton.1 hbody]
    exact throughout_nil

/-! ## Tokens -/

/-- The node has no bodies, if it has an info it has it from the token, and if
it is left to a resolver its name and attributes too. -/
structure Leaf (b : Builder) (token : Token) (node : Node) : Prop where
  bodies : node.bodies = []
  info : ∀ info ∈ node.info?, node.span = token.span ∧
    ∃ attrs, info = (b.infoOf attrs token.span token.position).1
  tag : ∀ info name attrs, node = .tag info name attrs →
    ∃ shape, token.piece = .opening shape name attrs

/-- What an opening tag opens without an error is a leaf or a frame with
nothing in it. -/
theorem Keeps.addOpening {token : Token} {shape : TagShape} {name : String} {attrs : Attributes}
    {o : Opening} {problems : List Problem} (hb : b.Keeps P Q)
    (hpiece : token.piece = .opening shape name attrs)
    (h : b.Opens attrs token.span token.position shape name o)
    (leaf : ∀ node, b.Leaf token node → P node) (opened : ∀ kind, o = .frame kind → Q name kind) :
    (b.addOpening name token.span token.position (o, problems)).Keeps P Q := by
  have hnode : ∀ {node : Node} {info : NodeInfo}, node.bodies = [] → node.info? = some info →
      node.span = token.span → info = (b.infoOf attrs token.span token.position).1 →
      (∀ info name attrs, node = .tag info name attrs →
        ∃ shape, token.piece = .opening shape name attrs) → P node := by
    intro node info hbodies hinfo hspan heq htag
    refine leaf node ⟨hbodies, fun own hown => ⟨hspan, attrs, ?_⟩, htag⟩
    rw [hinfo] at hown
    rw [← Option.some.inj hown, heq]
  cases h with
  | var | inclusion => exact hb.report.addLeaf _ rfl (hnode rfl rfl rfl rfl (by rintro _ _ _ ⟨⟩))
  | tag =>
    refine hb.report.addLeaf _ rfl (hnode rfl rfl rfl rfl ?_)
    rintro _ _ _ ⟨⟩
    exact ⟨_, hpiece⟩
  | parent =>
    exact hb.report.addLeaf _ rfl (leaf _ ⟨rfl, by rintro _ ⟨⟩, by rintro _ _ _ ⟨⟩⟩)
  | choice | loop | block | message | blockTag =>
    exact hb.pushFrame rfl rfl (opened _ rfl) rfl

/-- **What a token adds has the property**, if leaves that are read from it
have it, if frames come to it when they are closed, and if what is known of
frames until then holds of those that the token opens or continues. -/
theorem Takes.keeps {token : Token} (h : b.Takes token b') (hb : b.Keeps P Q)
    (leaf : ∀ node, b.Leaf token node → P node) (kept : ∀ tag kind, Q tag kind → Q' tag kind)
    (opened : ∀ shape name attrs kind, token.piece = .opening shape name attrs →
      b.Opens attrs token.span token.position shape name (.frame kind) → Q' name kind)
    (continued : ∀ tag info done current next body, token.piece.tag?.isSome →
      Q tag (.choice info done (some current)) →
      (∀ branch ∈ next, branch.position = token.position) →
      Q' tag (.choice info (done ++ [.mk current.position current.source current.condition body])
        next))
    (closed : ∀ (frame : Frame) span node, Q frame.tag frame.kind →
      frame.node? b.source span = some node → P node) : b'.Keeps P Q' := by
  have hkept := hb.imp kept
  cases h with
  | text | comment =>
    exact hkept.addLeaf _ rfl (leaf _ ⟨rfl, by rintro _ ⟨⟩, by rintro _ _ _ ⟨⟩⟩)
  | @opening shape name attrs span position o hopens =>
    refine @Keeps.addOpening _ _ _ ⟨.opening shape name attrs, span, position⟩ _ _ _ _ _ hkept
      rfl hopens leaf fun kind hkind => ?_
    exact opened shape name attrs kind rfl (hkind ▸ hopens)
  | extending =>
    refine ⟨?_, hkept.kinds, hkept.bodies⟩
    rw [Array.toList_push, throughout_append]
    refine ⟨hkept.root, throughout_singleton.2 ⟨leaf _ ⟨rfl, ?_, ?_⟩, List.forall_mem_nil _⟩⟩
    · rintro _ ⟨⟩
    · rintro _ _ _ ⟨⟩
  | elseIf hstack hkind =>
    have hframe := hb.kinds _ (hstack ▸ List.mem_cons_self)
    rw [hkind] at hframe
    refine hkept.nextBranch hstack hkind (continued _ _ _ _ _ _ rfl hframe ?_)
    rintro _ ⟨⟩
    rfl
  | otherwise hstack hkind =>
    have hframe := hb.kinds _ (hstack ▸ List.mem_cons_self)
    rw [hkind] at hframe
    exact hkept.nextBranch hstack hkind (continued _ _ _ _ _ _ rfl hframe (by rintro _ ⟨⟩))
  | close => exact (hb.closeFrame closed _).imp kept
  | closeBranch => exact hkept

/-- A token leaves the source as it is. -/
theorem Takes.source_eq {token : Token} (h : b.Takes token b') : b'.source = b.source := by
  have hadd : ∀ (b : Builder) (node : Node) (position : Position),
      (b.addNode node position).source = b.source := by
    intro b node position
    unfold Builder.addNode
    cases b.stack <;> rfl
  cases h with
  | text | comment => exact hadd _ _ _
  | opening hopens =>
    cases hopens with
    | var | inclusion | parent | tag => exact hadd _ _ _
    | _ => rfl
  | close =>
    rw [Builder.closeFrame]
    split
    · rfl
    · simp only
      split
      · exact hadd _ _ _
      · rfl
  | _ => rfl

end Builder

end PromptMarkup
