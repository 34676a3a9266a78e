import PromptMarkup.Proofs.Inherit.Nearest
import PromptMarkup.Proofs.Tree.Taking
/-!
# Tree — the rules that an accepted template keeps

`Tree.Regular` says what a tree must be like to be written down without an
error: which nodes may stand where, and which of their fields are checked.
The tree of every accepted template is (`Template.parse_regular`). The rules
about places are kept on the stack of open frames: what a frame collects has
to fit into the frame and all those around it (`Node.Fits`), and so does the
node that the frame becomes.
-/

namespace PromptMarkup

namespace Node

/-- A turn of a conversation. -/
def isMessage : Node → Bool
  | .message .. => true
  | _ => false

/-- Blank text or a comment. -/
def isBlank : Node → Bool
  | .text _ body => Text.isBlankText body
  | .comment .. => true
  | _ => false

/-- There is no turn of a conversation in the nodes, at any depth. -/
abbrev NoMessage (nodes : List Node) : Prop :=
  Throughout (·.isMessage = false) nodes

/-- The fields of a node that are checked when it is read. -/
def Regular (rs : Resolvers) : Node → Prop
  | .var _ path => Text.isBlankText path = false
  | .tag _ name attrs => name ∉ Tag.structural ∧ rs.Accept .selfClosing name attrs
  | .blockTag _ name attrs _ => name ∉ Tag.structural ∧ rs.Accept .block name attrs
  | .choice _ branches _ =>
    branches ≠ [] ∧ ∀ branch ∈ branches, Expr.parse branch.source = .ok branch.condition
  | .loop _ head _ => Text.isBlankText head.item = false ∧ Text.isBlankText head.source = false
  | .inclusion _ template _ => Text.isBlankText template = false
  | .extending _ _ template => Text.isBlankText template = false
  | .block _ _ name _ => Text.isBlankText name = false
  | .message _ _ role body => role ∈ messageRoles ∧ NoMessage body
  | .text .. | .comment .. | .parent .. => True

end Node

namespace Tree

open Node

/-- The rules for a tree whose tags these resolvers take. -/
structure Regular (rs : Resolvers) (tree : Tree) : Prop where
  /-- It is said once at most that the template extends another, outside all
  tags and behind nothing but blanks and comments. -/
  statement : NoExtending tree.nodes ∨
    ∃ before span position template after,
      tree.nodes = before ++ .extending span position template :: after ∧
        (∀ node ∈ before, node.isBlank) ∧ NoExtending after
  /-- Every parent tag is inside a block. -/
  enclosed : none ∉ parentsNearAll none tree.nodes
  /-- And there is one only where it is said that the template extends
  another. -/
  inherited : (∃ node ∈ withinAll tree.nodes, node.isParent) →
    ∃ node ∈ withinAll tree.nodes, node.isExtending
  /-- No two blocks have one name. -/
  distinct : (blockNames tree.nodes).Nodup
  regular : Throughout (Node.Regular rs) tree.nodes

end Tree

namespace Node

/-! ## Places -/

/-- Within a block every parent tag is inside one. -/
theorem none_notMem_parentsNearAll (name : String) (nodes : List Node) :
    none ∉ parentsNearAll (some name) nodes := by
  induction nodes using inductionAll generalizing name with
  | nil => exact List.not_mem_nil
  | cons node rest inside ih =>
    rw [parentsNearAll, List.mem_append, not_or]
    refine ⟨?_, ih name⟩
    obtain ⟨s, p, n, b, rfl⟩ | ⟨s, p, rfl⟩ | ⟨s, p, t, rfl⟩ | hplain := combining_or_ordinary node
    · exact inside b (List.mem_singleton_self _) n
    · simp [parentsNear]
    · exact List.not_mem_nil
    · rw [parentsNear_of_ordinary hplain, List.mem_flatMap]
      rintro ⟨body, hbody, h⟩
      exact inside body hbody name h

theorem parentsNearAll_append (near : Option String) (xs ys : List Node) :
    parentsNearAll near (xs ++ ys) = parentsNearAll near xs ++ parentsNearAll near ys := by
  induction xs with
  | nil => rfl
  | cons node rest ih => simp only [List.cons_append, parentsNearAll, ih, List.append_assoc]

/-- The nodes may stand in the innermost of these open frames. -/
structure Fits (rs : Resolvers) (stack : List Frame) (nodes : List Node) : Prop where
  regular : Throughout (Regular rs) nodes
  enclosed : stack.any (·.kind.isBlock) = false → none ∉ parentsNearAll none nodes
  unnested : stack.any (·.kind.isMessage) = true → NoMessage nodes

variable {rs : Resolvers} {stack : List Frame}

theorem fits_nil : Fits rs stack [] :=
  ⟨throughout_nil, fun _ => List.not_mem_nil, fun _ => throughout_nil⟩

theorem Fits.append {xs ys : List Node} (hx : Fits rs stack xs) (hy : Fits rs stack ys) :
    Fits rs stack (xs ++ ys) := by
  refine ⟨throughout_append.2 ⟨hx.regular, hy.regular⟩, fun h => ?_,
    fun h => throughout_append.2 ⟨hx.unnested h, hy.unnested h⟩⟩
  rw [parentsNearAll_append, List.mem_append, not_or]
  exact ⟨hx.enclosed h, hy.enclosed h⟩

/-- A node without bodies fits wherever its fields are right, if it is not a
parent tag. -/
theorem fits_leaf {node : Node} (hbodies : node.bodies = []) (hregular : node.Regular rs)
    (hparent : node.isParent = false) (hmessage : node.isMessage = false) :
    Fits rs stack [node] := by
  refine ⟨throughout_singleton.2 ⟨hregular, by simp [hbodies]⟩, fun _ => ?_,
    fun _ => throughout_singleton.2 ⟨hmessage, by simp [hbodies]⟩⟩
  rw [parentsNearAll, parentsNearAll, List.append_nil]
  obtain ⟨s, p, n, b, rfl⟩ | ⟨s, p, rfl⟩ | ⟨s, p, t, rfl⟩ | hplain := combining_or_ordinary node
  · cases hbodies
  · cases hparent
  · exact List.not_mem_nil
  · simp [parentsNear_of_ordinary hplain, hbodies]

/-- A parent tag fits into a block. -/
theorem fits_parent (h : stack.any (·.kind.isBlock) = true) (span : Span) (position : Position) :
    Fits rs stack [.parent span position] :=
  ⟨throughout_singleton.2 ⟨trivial, List.forall_mem_nil _⟩,
    fun hnone => Bool.noConfusion (h.symm.trans hnone),
    fun _ => throughout_singleton.2 ⟨rfl, List.forall_mem_nil _⟩⟩

end Node

open Node

/-! ## Frames -/

/-- What has been checked of an open tag. -/
def FrameKind.Regular (rs : Resolvers) (tag : String) : FrameKind → Prop
  | .choice _ done current =>
    (∀ branch ∈ done, Expr.parse branch.source = .ok branch.condition) ∧
      (∀ branch ∈ current, Expr.parse branch.source = .ok branch.condition) ∧
        (current.isNone → done ≠ [])
  | .loop _ head => Text.isBlankText head.item = false ∧ Text.isBlankText head.source = false
  | .block name => Text.isBlankText name = false
  | .message role => role ∈ messageRoles
  | .tag _ attrs => tag ∉ Tag.structural ∧ rs.Accept .block tag attrs
  | .discard => True

/-- An open frame keeps the rules inside the frames around it. -/
structure Frame.Regular (rs : Resolvers) (frame : Frame) (outer : List Frame) : Prop where
  kind : frame.kind.Regular rs frame.tag
  fits : ∀ body ∈ frame.bodies, Fits rs (frame :: outer) body
  alone : frame.kind.isMessage = true → outer.any (·.kind.isMessage) = false

/-- Where a frame is neither a block nor a turn of a conversation, a node with
its bodies fits where the frame stands. -/
theorem Frame.Regular.fits_ordinary {rs : Resolvers} {frame : Frame} {outer : List Frame}
    (h : frame.Regular rs outer) {node : Node} (hblock : frame.kind.isBlock = false)
    (hmessage : frame.kind.isMessage = false) (hplain : node.isCombining = false)
    (hself : node.isMessage = false) (hregular : node.Regular rs)
    (hbodies : node.bodies = frame.bodies) : Fits rs outer [node] := by
  refine ⟨throughout_singleton.2 ⟨hregular, fun body hbody => (h.fits body ?_).regular⟩,
    fun houter => ?_, fun houter => throughout_singleton.2 ⟨hself, fun body hbody => ?_⟩⟩
  · exact hbodies ▸ hbody
  · rw [parentsNearAll, parentsNearAll, List.append_nil, parentsNear_of_ordinary hplain, hbodies,
      List.mem_flatMap]
    rintro ⟨body, hbody, hnone⟩
    exact (h.fits body hbody).enclosed (by simp [hblock, houter]) hnone
  · exact (h.fits body (hbodies ▸ hbody)).unnested (by simp [hmessage, houter])

/-- **The node that a frame becomes** fits where the frame stands. -/
theorem Frame.Regular.node {rs : Resolvers} {frame : Frame} {outer : List Frame}
    (h : frame.Regular rs outer) {source : List Char} {span : Span} {node : Node}
    (hnode : frame.node? source span = some node) : Fits rs outer [node] := by
  have hbodies := (Frame.node?_spec hnode).1
  obtain ⟨tag, start, position, kind, children⟩ := frame
  have hkind := h.kind
  have hlast : Fits rs (⟨tag, start, position, kind, children⟩ :: outer) children.toList :=
    h.fits _ (List.mem_append_right _ (List.mem_singleton_self _))
  cases kind with
  | discard => cases hnode
  | choice info done current =>
    cases current with
    | none =>
      cases hnode
      exact h.fits_ordinary rfl rfl rfl rfl ⟨hkind.2.2 rfl, hkind.1⟩ hbodies
    | some current =>
      cases hnode
      refine h.fits_ordinary rfl rfl rfl rfl ⟨by simp, ?_⟩ hbodies
      simp only [List.forall_mem_append, List.forall_mem_singleton]
      exact ⟨hkind.1, hkind.2.1 current rfl⟩
  | loop info head =>
    cases hnode
    exact h.fits_ordinary rfl rfl rfl rfl hkind hbodies
  | tag info attrs =>
    cases hnode
    exact h.fits_ordinary rfl rfl rfl rfl hkind hbodies
  | block name =>
    cases hnode
    refine ⟨throughout_singleton.2 ⟨hkind, ?_⟩, fun _ => ?_,
      fun houter => throughout_singleton.2 ⟨rfl, ?_⟩⟩
    · rintro _ (_ | ⟨_, ⟨⟩⟩)
      exact hlast.regular
    · rw [parentsNearAll, parentsNearAll, List.append_nil]
      exact none_notMem_parentsNearAll name _
    · rintro _ (_ | ⟨_, ⟨⟩⟩)
      exact hlast.unnested (by simp [houter])
  | message role =>
    cases hnode
    have hinside : NoMessage children.toList := hlast.unnested rfl
    refine ⟨throughout_singleton.2 ⟨⟨hkind, hinside⟩, ?_⟩, fun houter => ?_, fun houter => ?_⟩
    · rintro _ (_ | ⟨_, ⟨⟩⟩)
      exact hlast.regular
    · simpa [parentsNearAll, parentsNear] using
        hlast.enclosed (by simpa [FrameKind.isBlock] using houter)
    · rw [h.alone rfl] at houter
      cases houter

namespace Builder

/-! ## The rules while the tree is built -/

/-- What has been read keeps the rules so far. -/
structure Regular (rs : Resolvers) (b : Builder) : Prop where
  resolvers : b.resolvers = rs
  statement : b.extended = true →
    ∃ before span position template after,
      b.root.toList = before ++ .extending span position template :: after ∧
        (∀ node ∈ before, node.isBlank) ∧ ∀ node ∈ after, node.isExtending = false
  root : Fits rs [] b.root.toList
  frames : ∀ frame outer, frame :: outer <:+ b.stack → frame.Regular rs outer

variable {rs : Resolvers} {b b' : Builder}

theorem regular_start (resolvers : Resolvers) (source : String) :
    (start resolvers source).Regular resolvers where
  resolvers := rfl
  statement h := by cases h
  root := fits_nil
  frames frame outer h := by simp [start] at h

/-- The frames inside which the innermost one stands keep the rules, and the
innermost can be exchanged for another that does. -/
theorem Regular.frames_cons (hb : b.Regular rs) {frame : Frame} {outer : List Frame}
    (hstack : outer <:+ b.stack) (hframe : frame.Regular rs outer) :
    ∀ f o, f :: o <:+ frame :: outer → f.Regular rs o := by
  intro f o hsuffix
  rcases List.suffix_cons_iff.1 hsuffix with heq | hsuffix
  · obtain ⟨rfl, rfl⟩ := List.cons.inj heq
    exact hframe
  · exact hb.frames f o (hsuffix.trans hstack)

/-- **A node that fits is added** by the rules. -/
theorem Regular.addNode (hb : b.Regular rs) {node : Node} (position : Position)
    (hfits : Fits rs b.stack [node]) (hnone : node.isExtending = false) :
    (b.addNode node position).Regular rs := by
  unfold Builder.addNode
  split
  · next frame outer hstack =>
    rw [hstack] at hfits
    have hframe := hb.frames frame outer (by simp [hstack])
    refine ⟨hb.resolvers, hb.statement, hb.root, hb.frames_cons (by simp [hstack]) ?_⟩
    refine ⟨hframe.kind, fun body hbody => ?_, hframe.alone⟩
    have hsame : ∀ {nodes}, Fits rs (frame :: outer) nodes →
        Fits rs ({ frame with children := frame.children.push node } :: outer) nodes :=
      fun h => ⟨h.regular, h.enclosed, h.unnested⟩
    simp only [Frame.bodies, Array.toList_push, List.mem_append, List.mem_singleton] at hbody
    rcases hbody with hbody | rfl
    · exact hsame (hframe.fits body (List.mem_append_left _ hbody))
    · refine hsame (Fits.append ?_ hfits)
      exact hframe.fits _ (List.mem_append_right _ (List.mem_singleton_self _))
  · next hstack =>
    rw [hstack] at hfits
    refine ⟨hb.resolvers, fun hext => ?_, ?_, by simp [hstack]⟩
    · obtain ⟨before, span, pos, template, after, hroot, hbefore, hafter⟩ := hb.statement hext
      refine ⟨before, span, pos, template, after ++ [node], ?_, hbefore, ?_⟩
      · simp only [Array.toList_push, hroot, List.append_assoc, List.cons_append]
      · simp only [List.forall_mem_append, List.forall_mem_singleton]
        exact ⟨hafter, hnone⟩
    · rw [Array.toList_push]
      exact hb.root.append hfits

/-- A frame is opened by the rules if its tag has been checked. -/
theorem Regular.pushFrame (hb : b.Regular rs) (tag : String) (span : Span) (position : Position)
    {kind : FrameKind} (hkind : kind.Regular rs tag) (hbodies : kind.bodies = [])
    (halone : kind.isMessage = true → b.stack.any (·.kind.isMessage) = false) :
    (b.pushFrame tag span position kind).Regular rs := by
  refine ⟨hb.resolvers, hb.statement, hb.root, hb.frames_cons List.suffix_rfl ?_⟩
  refine ⟨hkind, fun body hbody => ?_, halone⟩
  simp only [Frame.bodies, hbodies, List.nil_append, List.mem_singleton] at hbody
  subst hbody
  exact fits_nil

/-- **A frame is closed** by the rules. -/
theorem Regular.closeFrame (hb : b.Regular rs) (stop : Nat) : (b.closeFrame stop).Regular rs := by
  rw [Builder.closeFrame]
  split
  · exact hb
  · next frame outer hstack =>
    have hsuffix : outer <:+ b.stack := by simp [hstack]
    have hpopped : Regular rs { b with stack := outer } :=
      ⟨hb.resolvers, hb.statement, hb.root, fun f o h => hb.frames f o (h.trans hsuffix)⟩
    simp only
    split
    · next node hnode =>
      have hframe := hb.frames frame outer (by simp [hstack])
      exact hpopped.addNode _ (hframe.node hnode) (Frame.node?_spec hnode).2.2.2
    · exact hpopped

/-- A branch is ended by the rules, and the next one begun with a condition
that could be read. -/
theorem Regular.nextBranch (hb : b.Regular rs) {frame : Frame} {outer : List Frame}
    {info : NodeInfo} {done : List Branch} {current : OpenBranch} {next : Option OpenBranch}
    (hstack : b.stack = frame :: outer) (hkind : frame.kind = .choice info done (some current))
    (hnext : ∀ branch ∈ next, Expr.parse branch.source = .ok branch.condition) :
    (b.nextBranch frame outer info done current next).Regular rs := by
  have hframe := hb.frames frame outer (by simp [hstack])
  obtain ⟨tag, start, position, kind, children⟩ := frame
  subst hkind
  refine ⟨hb.resolvers, hb.statement, hb.root, hb.frames_cons (by simp [hstack]) ?_⟩
  refine ⟨⟨?_, hnext, by simp⟩, fun body hbody => ?_, by rintro ⟨⟩⟩
  · simp only [List.forall_mem_append, List.forall_mem_singleton]
    exact ⟨hframe.kind.1, hframe.kind.2.1 current rfl⟩
  · simp only [Frame.bodies, FrameKind.bodies, List.map_append, List.map_cons, List.map_nil,
      Branch.body, List.mem_append, List.mem_singleton] at hbody
    rcases hbody with hbody | rfl
    · have := hframe.fits body (by simpa [Frame.bodies, FrameKind.bodies] using hbody)
      exact ⟨this.regular, this.enclosed, this.unnested⟩
    · exact fits_nil

/-- A value that an attribute is filled with is not blank. -/
theorem isBlankText_of_filled? {attrs : Attributes} {name value : String}
    (h : attrs.filled? name = some value) : Text.isBlankText value = false := by
  simpa using (Option.filter_eq_some_iff.1 h).2

/-- **An opening tag without an error** keeps the rules. -/
theorem Regular.opens (hb : b.Regular rs) {attrs : Attributes} {span : Span} {position : Position}
    {shape : TagShape} {tag : String} {o : Opening}
    (hopens : b.Opens attrs span position shape tag o) (problems : List Problem) :
    (b.addOpening tag span position (o, problems)).Regular rs := by
  have hreport : (b.report problems position tag).Regular rs :=
    ⟨hb.resolvers, hb.statement, hb.root, hb.frames⟩
  have hresolvers := hb.resolvers
  cases hopens with
  | var _ hpath =>
    exact hreport.addNode _ (fits_leaf rfl (isBlankText_of_filled? hpath) rfl rfl) rfl
  | inclusion _ htemplate =>
    exact hreport.addNode _ (fits_leaf rfl (isBlankText_of_filled? htemplate) rfl rfl) rfl
  | parent hinside _ => exact hreport.addNode _ (fits_parent hinside _ _) rfl
  | tag _ hname hresolver =>
    exact hreport.addNode _ (fits_leaf rfl ⟨hname, hresolvers ▸ hresolver⟩ rfl rfl) rfl
  | choice _ _ hcondition =>
    refine hreport.pushFrame _ _ _ ⟨by simp, ?_, by simp⟩ rfl (by rintro ⟨⟩)
    rintro branch ⟨⟩
    exact hcondition
  | loop _ hitem hsource _ =>
    exact hreport.pushFrame _ _ _ ⟨isBlankText_of_filled? hitem, isBlankText_of_filled? hsource⟩
      rfl (by rintro ⟨⟩)
  | block _ hname _ =>
    have hkind : FrameKind.Regular rs Tag.block (.block _) := isBlankText_of_filled? hname
    have hpushed := hreport.pushFrame Tag.block span position hkind rfl
      (by rintro ⟨⟩)
    exact ⟨hpushed.resolvers, hpushed.statement, hpushed.root, hpushed.frames⟩
  | message _ _ hknown houtside =>
    exact hreport.pushFrame _ _ _ hknown rfl fun _ => houtside
  | blockTag _ hname hresolver =>
    exact hreport.pushFrame _ _ _ ⟨hname, hresolvers ▸ hresolver⟩ rfl (by rintro ⟨⟩)

/-- A filler that does not extend a template is blank. -/
theorem isBlank_of_isFiller {node : Node} (hfiller : isFiller node = true)
    (hnone : node.isExtending = false) : node.isBlank = true := by
  cases node <;> first | exact hfiller | cases hnone

/-- **Whatever is taken without an error** keeps the rules. -/
theorem Regular.takes {token : Token} (hsound : b.Sound) (hb : b.Regular rs)
    (htakes : b.Takes token b') : b'.Regular rs := by
  cases htakes with
  | text => exact hb.addNode _ (fits_leaf rfl trivial rfl rfl) rfl
  | comment => exact hb.addNode _ (fits_leaf rfl trivial rfl rfl) rfl
  | opening hopens => exact hb.opens hopens _
  | extending htemplate hfirst hstack hroot =>
    have hnone : ∀ node ∈ b.root.toList, node.isExtending = false := fun node hnode =>
      ((hsound.settled hfirst).1 node (mem_withinAll_of_mem hnode)).2
    have hblank : ∀ node ∈ b.root.toList, node.isBlank = true := fun node hnode =>
      isBlank_of_isFiller (hsound.filler hroot node hnode) (hnone node hnode)
    refine ⟨hb.resolvers, fun _ => ?_, ?_, hb.frames⟩
    · exact ⟨b.root.toList, _, _, _, [], Array.toList_push, hblank, List.forall_mem_nil _⟩
    · rw [Array.toList_push]
      exact hb.root.append (fits_leaf rfl (isBlankText_of_filled? htemplate) rfl rfl)
  | elseIf hstack hkind _ hcondition =>
    refine hb.nextBranch hstack hkind ?_
    rintro branch ⟨⟩
    exact hcondition
  | otherwise hstack hkind => exact hb.nextBranch hstack hkind (by rintro _ ⟨⟩)
  | close => exact hb.closeFrame _
  | closeBranch => exact hb

/-- Everything that is taken without an error is soundly built by the rules. -/
theorem TakesAll.regular {tokens : List Token} {source : String}
    (h : TakesAll (start rs source) tokens b) : b.Sound ∧ b.Regular rs := by
  refine h.keeps (P := fun b => b.Sound ∧ b.Regular rs) (fun b token b' htakes hb => ?_)
    ⟨sound_empty _ _, regular_start rs source⟩
  refine ⟨?_, hb.2.takes hb.1 htakes⟩
  rw [← htakes.accept_eq]
  exact (reaches_accept b token).keeps (fun _ _ hmove h => h.move hmove) hb.1

end Builder

namespace Tree

/-- A sequence says that the template extends another if it has a parent. -/
theorem exists_isExtending_of_parentOf? {nodes : List Node} (h : (parentOf? nodes).isSome) :
    ∃ node ∈ nodes, node.isExtending := by
  induction nodes with
  | nil => cases h
  | cons node rest ih =>
    have hlater : (parentOf? rest).isSome → ∃ n ∈ node :: rest, n.isExtending := fun hrest =>
      let ⟨n, hn, hext⟩ := ih hrest
      ⟨n, List.mem_cons_of_mem _ hn, hext⟩
    cases node with
    | text span body =>
      simp only [parentOf?] at h
      split at h
      · exact hlater h
      · cases h
    | comment span body => exact hlater h
    | extending span position template => exact ⟨_, List.mem_cons_self, rfl⟩
    | _ => cases h

/-- A well-formed tree has a parent exactly if it says so. -/
theorem WellFormed.parent?_isSome_iff {tree : Tree} (h : tree.WellFormed) :
    tree.parent?.isSome ↔ ∃ node ∈ withinAll tree.nodes, node.isExtending := by
  constructor
  · intro hparent
    obtain ⟨node, hnode, hext⟩ := exists_isExtending_of_parentOf? hparent
    exact ⟨node, mem_withinAll_of_mem hnode, hext⟩
  · rintro ⟨node, hnode, hext⟩
    rw [Option.isSome_iff_ne_none]
    intro hnone
    rw [(h.settled hnone node hnode).2] at hext
    cases hext

end Tree

namespace Template

/-- **An accepted template keeps all rules**, and it extends another exactly
if that is said in it. -/
theorem parse_regular {d : Delimiters} {rs : Resolvers} {name source : String} {t : Template}
    (h : Template.parse d rs name source = .ok t) :
    t.tree.Regular rs ∧
      (t.tree.parent?.isSome ↔ ∃ node ∈ withinAll t.tree.nodes, node.isExtending) := by
  have hformed : t.tree.WellFormed := Tree.Accepted.wellFormed ⟨d, rs, name, source, t, h, rfl⟩
  have hparent := hformed.parent?_isSome_iff
  obtain ⟨tokens, b, -, htakes, -, rfl⟩ := Template.parse_eq_ok_iff.1 h
  obtain ⟨hsound, hregular⟩ := htakes.regular
  refine ⟨⟨?_, hregular.root.enclosed rfl, ?_, hformed.distinct, hregular.root.regular⟩, hparent⟩
  · cases hext : b.extended with
    | false => exact .inl ((hsound.settled hext).1.imp fun _ => And.right)
    | true =>
      obtain ⟨before, span, position, template, after, hroot, hbefore, hafter⟩ :=
        hregular.statement hext
      refine .inr ⟨before, span, position, template, after, hroot, hbefore, fun inner hinner => ?_⟩
      obtain ⟨node, hnode, rfl | ⟨body, hbody, hinner⟩⟩ := mem_withinAll_iff.1 hinner
      · exact hafter inner hnode
      · exact hsound.outermost node (by simp [hroot, hnode]) body hbody inner hinner
  · rintro ⟨node, hnode, hpar⟩
    refine hparent.1 (Option.isSome_iff_ne_none.2 fun hnone => ?_)
    rw [(hformed.settled hnone node hnode).1] at hpar
    cases hpar

end Template

namespace Sample

/-- A dialogue that adds a turn to another: behind a comment it says which
one, and in a block around a parent tag it has a message with a condition, a
loop and a resolver's tag. -/
def reply : String :=
  tagged "prompty.comment" ++ "the second turn" ++ tagged "/prompty.comment" ++ "\n" ++
    tagged "prompty.extends template=\"opening\" /" ++ tagged "prompty.block name=\"turns\"" ++
    tagged "prompty.parent /" ++ tagged "prompty.message role=\"user\"" ++
    tagged "prompty.if eval=\"items\"" ++ tagged "prompty.for item=\"i\" in=\"items\"" ++
    tagged "prompty.var name=\"i\" /" ++ tagged "/prompty.for" ++ tagged "prompty.else" ++
    tagged "prompty.env name=\"TEXT\" /" ++ tagged "/prompty.if" ++ tagged "/prompty.message" ++
    tagged "/prompty.block"

/-- It is accepted, and keeps the rules. -/
theorem parse_regular_reply :
    ∃ t, Template.parse .standard .builtin "reply" reply = .ok t ∧ t.tree.Regular .builtin ∧
      (t.tree.parent?.isSome ↔ ∃ node ∈ withinAll t.tree.nodes, node.isExtending) ∧
      t.tree.parent? = some "opening" ∧ parentsNearAll none t.tree.nodes = [some "turns"] := by
  have hread : ((Template.parse .standard .builtin "reply" reply).toOption.any fun t =>
      decide (t.tree.parent? = some "opening" ∧
        parentsNearAll none t.tree.nodes = [some "turns"])) = true := by
    decide +kernel
  cases hparse : Template.parse .standard .builtin "reply" reply with
  | error failure =>
    rw [hparse] at hread
    cases hread
  | ok t =>
    rw [hparse] at hread
    obtain ⟨hregular, hparent⟩ := Template.parse_regular hparse
    exact ⟨t, rfl, hregular, hparent, of_decide_eq_true hread⟩

end Sample

end PromptMarkup
