import PromptMarkup.Proofs.Token.Local
import PromptMarkup.Proofs.Tree.Demands
import PromptMarkup.Proofs.Tree.Relocate
import PromptMarkup.Proofs.Tree.Taking
/-!
# Tree — building behind what has been built

A source may be read behind another one. If no tag of the other is still open
its tree is then built as it is alone: the same nodes and the same issues,
moved on and put behind those there are (`Builder.behind`). Every token does
the same in both (`accept_behind`), except for the statement that a template
extends another, which has to come first, and for blocks whose names are
taken (`Token.Free`).
-/

namespace PromptMarkup

/-! ## Frames in a new place -/

/-- The branch in its new place. -/
def OpenBranch.relocate (r : Relocation) (branch : OpenBranch) : OpenBranch :=
  { branch with position := r.position branch.position }

/-- What an open tag in its new place will become. -/
def FrameKind.relocate (r : Relocation) : FrameKind → FrameKind
  | .choice info done current =>
    .choice (info.relocate r) (done.map (Branch.relocate r)) (current.map (OpenBranch.relocate r))
  | .loop info head => .loop (info.relocate r) head
  | .block name => .block name
  | .message role => .message role
  | .tag info attrs => .tag (info.relocate r) attrs
  | .discard => .discard

/-- The open tag in its new place. -/
def Frame.relocate (r : Relocation) (frame : Frame) : Frame where
  tag := frame.tag
  start := r.offset frame.start
  position := r.position frame.position
  kind := frame.kind.relocate r
  children := frame.children.map (Node.relocate r)

/-- What a tag in its new place adds. -/
def Opening.relocate (r : Relocation) : Opening → Opening
  | .node added => .node (added.relocate r)
  | .frame kind => .frame (kind.relocate r)
  | .nothing => .nothing

/-- The remark on a source that begins at `q`. -/
def Issue.behind (q : Position) (issue : Issue) : Issue :=
  let p := Position.behind q ⟨issue.line, issue.column, 0⟩
  { issue with line := p.line, column := p.column }

namespace FrameKind

variable {r : Relocation} {kind : FrameKind}

@[simp] theorem isBlock_relocate : (kind.relocate r).isBlock = kind.isBlock := by
  cases kind <;> rfl

@[simp] theorem isMessage_relocate : (kind.relocate r).isMessage = kind.isMessage := by
  cases kind <;> rfl

@[simp] theorem isChoice_relocate : (kind.relocate r).isChoice = kind.isChoice := by
  cases kind <;> rfl

end FrameKind

/-- What the spans of one source cover is covered, moved on, in another. -/
def Covers (front : List Char) (q : Position) (source : List Char) : Prop :=
  ∀ span : Span, Edge source span.start → Edge source span.stop →
    (span.relocate (.behind q)).slice front = span.slice source

/-- **The node of a frame** in its new place. -/
theorem Frame.node?_relocate {front source : List Char} {q : Position} {span : Span}
    (hslice : (span.relocate (.behind q)).slice front = span.slice source) (frame : Frame) :
    (frame.relocate (.behind q)).node? front (span.relocate (.behind q)) =
      (frame.node? source span).map (Node.relocate (.behind q)) := by
  have hinfo : ∀ info : NodeInfo,
      (info.relocate (.behind q)).spanning front (span.relocate (.behind q)) =
        (info.spanning source span).relocate (.behind q) := by
    intro info
    rw [NodeInfo.spanning, hslice]
    rfl
  obtain ⟨tag, start, position, kind, children⟩ := frame
  cases kind with
  | choice info done current =>
    cases current <;>
      simp [Frame.node?, Frame.relocate, FrameKind.relocate, hinfo, Node.relocate_choice,
        Node.relocateAll_eq_map, Branch.relocate, OpenBranch.relocate]
  | _ =>
    simp [Frame.node?, Frame.relocate, FrameKind.relocate, hinfo, Node.relocate,
      Node.relocateAll_eq_map]

/-- The token does not extend a template, and is no block with one of these
names. -/
def Token.Free (names : List String) (token : Token) : Prop :=
  ∀ shape tag attrs, token.piece = .opening shape tag attrs →
    tag ≠ Tag.extendsTag ∧ (tag = Tag.block → ∀ name ∈ attrs.filled? "name", name ∉ names)

namespace Builder

/-- The tree under construction, built behind another one from the position
`q` on. -/
def behind (front : Builder) (q : Position) (b : Builder) : Builder where
  source := front.source
  resolvers := b.resolvers
  root := front.root ++ b.root.map (Node.relocate (.behind q))
  stack := b.stack.map (Frame.relocate (.behind q))
  issues := front.issues ++ b.issues.map (Issue.behind q)
  extended := b.extended
  rootFilled := front.rootFilled || b.rootFilled
  ignored := front.ignored.or (b.ignored.map (Position.behind q))
  blockNames := b.blockNames ++ front.blockNames

variable {front b : Builder} {q position : Position} {span : Span} {tag : String}
  {attrs : Attributes} {shape : TagShape}

/-! ## Nodes and frames -/

theorem behind_report (problems : List Problem) :
    (behind front q b).report problems (Position.behind q position) tag =
      behind front q (b.report problems position tag) := by
  have hissues : problems.map (·.issue (Position.behind q position) (some tag)) =
      (problems.map (·.issue position (some tag))).map (Issue.behind q) := by
    rw [List.map_map]
    rfl
  simp only [report, behind, hissues, Array.map_append, Array.append_assoc, List.map_toArray]

theorem isFiller_relocate (r : Relocation) (node : Node) :
    isFiller (node.relocate r) = isFiller node := by
  cases node with
  | choice info branches otherwise => rw [Node.relocate_choice]; rfl
  | _ => rfl

theorem isBlock_relocate (r : Relocation) (node : Node) :
    (node.relocate r).isBlock = node.isBlock := by
  cases node with
  | choice info branches otherwise => rw [Node.relocate_choice]; rfl
  | _ => rfl

/-- A node that stands outside all tags. -/
theorem addNode_of_root (hstack : b.stack = []) (node : Node) (position : Position) :
    b.addNode node position =
      { b with
        root := b.root.push node
        rootFilled := b.rootFilled || !isFiller node
        ignored :=
          if !isFiller node && b.extended && !node.isBlock then b.ignored.or (some position)
          else b.ignored } := by
  unfold addNode
  rw [hstack]
  cases node <;> rfl

/-- A node inside the innermost open tag. -/
theorem addNode_of_frame {frame : Frame} {outer : List Frame} (hstack : b.stack = frame :: outer)
    (node : Node) (position : Position) :
    b.addNode node position =
      { b with stack := { frame with children := frame.children.push node } :: outer } := by
  unfold addNode
  rw [hstack]

theorem behind_addNode (node : Node) :
    (behind front q b).addNode (node.relocate (.behind q)) (Position.behind q position) =
      behind front q (b.addNode node position) := by
  have hmapped : (behind front q b).stack = b.stack.map (Frame.relocate (.behind q)) := rfl
  cases hstack : b.stack with
  | nil =>
    rw [hstack, List.map_nil] at hmapped
    have hextended : (behind front q b).extended = b.extended := rfl
    rw [addNode_of_root hmapped, addNode_of_root hstack, isFiller_relocate, isBlock_relocate,
      hextended]
    generalize (!isFiller node && b.extended && !node.isBlock) = counts
    simp only [behind, Array.map_push, Array.push_append, Bool.or_assoc]
    cases counts <;> cases b.ignored <;> simp
  | cons frame outer =>
    rw [hstack, List.map_cons] at hmapped
    rw [addNode_of_frame hmapped, addNode_of_frame hstack]
    simp [behind, Frame.relocate]

theorem behind_pushFrame (kind : FrameKind) :
    (behind front q b).pushFrame tag (span.relocate (.behind q)) (Position.behind q position)
        (kind.relocate (.behind q)) =
      behind front q (b.pushFrame tag span position kind) := by
  simp [pushFrame, behind, Frame.relocate, Span.relocate, Relocation.behind]

/-! ## Tags that keep no source -/

theorem relocate_branchOf (tag : String) (attrs : Attributes) (position : Position) :
    branchOf tag attrs (Position.behind q position) =
      ((branchOf tag attrs position).1.relocate (.behind q), (branchOf tag attrs position).2) := by
  rw [branchOf, branchOf]
  cases attrs.filled? "eval" with
  | none => rfl
  | some source =>
    simp only
    cases Expr.parse source <;> rfl

theorem any_behind (kind : FrameKind → Bool) (hkind : ∀ k, kind (k.relocate (.behind q)) = kind k) :
    (behind front q b).stack.any (fun frame => kind frame.kind) =
      b.stack.any fun frame => kind frame.kind := by
  have hmapped : (behind front q b).stack = b.stack.map (Frame.relocate (.behind q)) := rfl
  rw [hmapped, List.any_map]
  exact congrArg (fun p => b.stack.any p) (funext fun frame => hkind frame.kind)

theorem behind_openBlock (hfree : ∀ name ∈ attrs.filled? "name", name ∉ front.blockNames) :
    (behind front q b).openBlock attrs =
      Prod.map (Opening.relocate (.behind q)) id (b.openBlock attrs) := by
  simp only [openBlock]
  cases hname : attrs.filled? "name" with
  | none => rfl
  | some name =>
    have hknown : (behind front q b).blockNames.contains name = b.blockNames.contains name := by
      have hnot := hfree name hname
      simp [behind, hnot]
    simp only [hknown]
    split <;> rfl

theorem behind_openParent (span : Span) (position : Position) :
    (behind front q b).openParent (span.relocate (.behind q)) (Position.behind q position) =
      Prod.map (Opening.relocate (.behind q)) id (b.openParent span position) := by
  have hextended : (behind front q b).extended = b.extended := rfl
  simp only [openParent, any_behind FrameKind.isBlock fun _ => FrameKind.isBlock_relocate,
    hextended]
  split
  · rfl
  · split <;> rfl

theorem behind_openMessage (attrs : Attributes) :
    (behind front q b).openMessage attrs =
      Prod.map (Opening.relocate (.behind q)) id (b.openMessage attrs) := by
  simp only [openMessage, any_behind FrameKind.isMessage fun _ => FrameKind.isMessage_relocate]
  cases attrs.filled? "role" with
  | none => rfl
  | some role =>
    simp only
    split <;> rfl

/-- The builder reads this source, and its open tags begin between characters
of it. -/
structure Reading (source : List Char) (b : Builder) : Prop where
  source_eq : b.source = source
  starts : ∀ frame ∈ b.stack, Edge source frame.start

section Slices

variable {source : List Char}

theorem Reading.addNode (h : b.Reading source) (node : Node) (position : Position) :
    (b.addNode node position).Reading source := by
  cases hstack : b.stack with
  | nil =>
    rw [addNode_of_root hstack]
    exact ⟨h.source_eq, h.starts⟩
  | cons frame outer =>
    rw [addNode_of_frame hstack]
    refine ⟨h.source_eq, List.forall_mem_cons.2 ⟨?_, fun f hf => ?_⟩⟩
    · exact h.starts frame (by simp [hstack])
    · exact h.starts f (by simp [hstack, hf])

theorem Reading.closeFrame (h : b.Reading source) (stop : Nat) :
    (b.closeFrame stop).Reading source := by
  rw [Builder.closeFrame]
  split
  · exact h
  · next frame outer hstack =>
    have hpopped : Reading source { b with stack := outer } :=
      ⟨h.source_eq, fun f hf => h.starts f (by simp [hstack, hf])⟩
    simp only
    split
    · exact hpopped.addNode _ _
    · exact hpopped

theorem Reading.report (h : b.Reading source) (problems : List Problem) (position : Position)
    (tag : String) : (b.report problems position tag).Reading source :=
  ⟨h.source_eq, h.starts⟩

theorem Reading.abandonFrame (h : b.Reading source) (stop : Nat) :
    (b.abandonFrame stop).Reading source := by
  rw [Builder.abandonFrame]
  split
  · exact h
  · exact (h.report _ _ _).closeFrame stop

theorem Reading.abandon (h : b.Reading source) (stop count : Nat) :
    (b.abandon stop count).Reading source := by
  induction count generalizing b with
  | zero => exact h
  | succ count ih => exact ih (h.abandonFrame stop)

theorem Reading.pushFrame (h : b.Reading source) (hstart : Edge source span.start) (tag : String)
    (position : Position) (kind : FrameKind) :
    (b.pushFrame tag span position kind).Reading source :=
  ⟨h.source_eq, List.forall_mem_cons.2 ⟨hstart, h.starts⟩⟩

variable (hcovers : Covers front.source q source)

include hcovers

theorem behind_closeFrame (h : b.Reading source) {stop : Nat} (hstop : Edge source stop) :
    (behind front q b).closeFrame (q.offset + stop) = behind front q (b.closeFrame stop) := by
  obtain ⟨rfl, hstarts⟩ := h
  rw [closeFrame, closeFrame]
  have hmapped : (behind front q b).stack = b.stack.map (Frame.relocate (.behind q)) := rfl
  cases hstack : b.stack with
  | nil =>
    rw [hmapped, hstack]
    rfl
  | cons frame outer =>
    have hslice := hcovers ⟨frame.start, stop⟩ (hstarts frame (by simp [hstack])) hstop
    have hnode : (frame.relocate (.behind q)).node? (behind front q b).source
        ⟨(frame.relocate (.behind q)).start, q.offset + stop⟩ = _ :=
      Frame.node?_relocate hslice frame
    rw [hmapped, hstack, List.map_cons]
    simp only [hnode]
    cases frame.node? b.source ⟨frame.start, stop⟩ with
    | none => rfl
    | some node => exact @behind_addNode front { b with stack := outer } q frame.position node

theorem behind_abandon (h : b.Reading source) {stop : Nat} (hstop : Edge source stop)
    (count : Nat) :
    (behind front q b).abandon (q.offset + stop) count = behind front q (b.abandon stop count) := by
  induction count generalizing b with
  | zero => rfl
  | succ count ih =>
    have hframe : (behind front q b).abandonFrame (q.offset + stop) =
        behind front q (b.abandonFrame stop) := by
      have hmapped : (behind front q b).stack = b.stack.map (Frame.relocate (.behind q)) := rfl
      rw [abandonFrame, abandonFrame, hmapped]
      cases hstack : b.stack with
      | nil => rfl
      | cons frame outer =>
        rw [List.map_cons, ← behind_closeFrame hcovers (h.report _ _ _) hstop, ← behind_report]
        rfl
    rw [abandon, abandon, hframe, ih (h.abandonFrame stop)]

/-! ## Tags -/

theorem behind_infoOf (h : b.Reading source) (hstart : Edge source span.start)
    (hstop : Edge source span.stop) (attrs : Attributes) :
    (behind front q b).infoOf attrs (span.relocate (.behind q)) (Position.behind q position) =
      (((b.infoOf attrs span position).1.relocate (.behind q)),
        (b.infoOf attrs span position).2) := by
  have hsource : (behind front q b).source = front.source := rfl
  simp only [infoOf, hsource, hcovers span hstart hstop, h.source_eq]
  rfl

section Opening

variable (h : b.Reading source) (hstart : Edge source span.start) (hstop : Edge source span.stop)

include h hstart hstop

theorem behind_openVar (position : Position) :
    (behind front q b).openVar attrs (span.relocate (.behind q)) (Position.behind q position) =
      Prod.map (Opening.relocate (.behind q)) id (b.openVar attrs span position) := by
  simp only [openVar, behind_infoOf hcovers h hstart hstop]
  cases attrs.filled? "name" <;> rfl

theorem behind_openChoice (position : Position) :
    (behind front q b).openChoice attrs (span.relocate (.behind q)) (Position.behind q position) =
      Prod.map (Opening.relocate (.behind q)) id (b.openChoice attrs span position) := by
  simp only [openChoice, behind_infoOf hcovers h hstart hstop, relocate_branchOf]
  rfl

theorem behind_openLoop (position : Position) :
    (behind front q b).openLoop attrs (span.relocate (.behind q)) (Position.behind q position) =
      Prod.map (Opening.relocate (.behind q)) id (b.openLoop attrs span position) := by
  simp only [openLoop, behind_infoOf hcovers h hstart hstop]
  cases attrs.filled? "item" <;> cases attrs.filled? "in" <;> rfl

theorem behind_openInclusion (position : Position) :
    (behind front q b).openInclusion attrs (span.relocate (.behind q))
        (Position.behind q position) =
      Prod.map (Opening.relocate (.behind q)) id (b.openInclusion attrs span position) := by
  simp only [openInclusion, behind_infoOf hcovers h hstart hstop]
  cases attrs.filled? "template" <;> rfl

theorem behind_openOther (shape : TagShape) (tag : String) (position : Position) :
    (behind front q b).openOther shape tag attrs (span.relocate (.behind q))
        (Position.behind q position) =
      Prod.map (Opening.relocate (.behind q)) id (b.openOther shape tag attrs span position) := by
  simp only [openOther, behind_infoOf hcovers h hstart hstop]
  cases shape <;> rfl

/-- **A tag opens the same**, in its new place, unless it is a block whose
name is taken. -/
theorem behind_opening (shape : TagShape) (tag : String) (position : Position)
    (hfree : tag = Tag.block → ∀ name ∈ attrs.filled? "name", name ∉ front.blockNames) :
    (behind front q b).opening shape tag attrs (span.relocate (.behind q))
        (Position.behind q position) =
      Prod.map (Opening.relocate (.behind q)) id (b.opening shape tag attrs span position) := by
  have hshape : ∀ (expected : TagShape) {opened opened' : Opening × List Problem},
      opened' = Prod.map (Opening.relocate (.behind q)) id opened →
      (if shape = expected then opened' else misshapen tag expected) =
        Prod.map (Opening.relocate (.behind q)) id
          (if shape = expected then opened else misshapen tag expected) := by
    rintro expected opened _ rfl
    split
    · rfl
    · cases expected <;> rfl
  simp only [opening]
  split
  · exact hshape _ (behind_openVar hcovers h hstart hstop position)
  split
  · exact hshape _ (behind_openChoice hcovers h hstart hstop position)
  split
  · exact hshape _ (behind_openLoop hcovers h hstart hstop position)
  split
  · exact hshape _ (behind_openInclusion hcovers h hstart hstop position)
  split
  · next hblock => exact hshape _ (behind_openBlock (hfree hblock))
  split
  · exact hshape _ (behind_openParent span position)
  split
  · exact hshape _ (behind_openMessage attrs)
  · exact behind_openOther hcovers h hstart hstop shape tag position

end Opening

end Slices

/-! ## Tokens -/

theorem behind_addOpening (opened : Opening × List Problem) :
    (behind front q b).addOpening tag (span.relocate (.behind q)) (Position.behind q position)
        (Prod.map (Opening.relocate (.behind q)) id opened) =
      behind front q (b.addOpening tag span position opened) := by
  obtain ⟨opening, problems⟩ := opened
  cases opening with
  | nothing => exact behind_report problems
  | node node =>
    simp only [addOpening, Prod.map, Opening.relocate, id, behind_report, behind_addNode]
  | frame kind =>
    simp only [addOpening, Prod.map, Opening.relocate, id, behind_report, behind_pushFrame]
    cases kind <;> rfl

theorem behind_nextBranch (frame : Frame) (outer : List Frame) (info : NodeInfo)
    (done : List Branch) (current : OpenBranch) (next : Option OpenBranch) :
    (behind front q b).nextBranch (frame.relocate (.behind q))
        (outer.map (Frame.relocate (.behind q))) (info.relocate (.behind q))
        (done.map (Branch.relocate (.behind q))) (current.relocate (.behind q))
        (next.map (OpenBranch.relocate (.behind q))) =
      behind front q (b.nextBranch frame outer info done current next) := by
  simp [nextBranch, behind, Frame.relocate, FrameKind.relocate, Branch.relocate,
    OpenBranch.relocate, Node.relocateAll_eq_map]

theorem behind_branch (tag : String) (attrs : Attributes) (position : Position) :
    (behind front q b).branch tag attrs (Position.behind q position) =
      behind front q (b.branch tag attrs position) := by
  have hmapped : (behind front q b).stack = b.stack.map (Frame.relocate (.behind q)) := rfl
  have hnext : (if tag = Tag.elseIfTag then
      (some (branchOf tag attrs (Position.behind q position)).1,
        (branchOf tag attrs (Position.behind q position)).2) else (none, [])) =
      Prod.map (Option.map (OpenBranch.relocate (.behind q))) id
        (if tag = Tag.elseIfTag then
          (some (branchOf tag attrs position).1, (branchOf tag attrs position).2)
        else (none, [])) := by
    rw [relocate_branchOf]
    split <;> rfl
  rw [branch, branch, hmapped]
  cases hstack : b.stack with
  | nil => exact behind_report _
  | cons frame outer =>
    rw [List.map_cons]
    cases hkind : frame.kind with
    | choice info done current =>
      have hkind' : (frame.relocate (.behind q)).kind = .choice (info.relocate (.behind q))
          (done.map (Branch.relocate (.behind q)))
          (current.map (OpenBranch.relocate (.behind q))) := by
        rw [Frame.relocate, hkind]
        rfl
      simp only [hkind, hkind', hnext]
      cases current with
      | none => exact behind_report _
      | some current =>
        simp only [Option.map_some, Prod.map_fst, Prod.map_snd, id, behind_report]
        exact behind_nextBranch frame outer info done current _
    | _ =>
      have hkind' : (frame.relocate (.behind q)).kind = frame.kind.relocate (.behind q) := rfl
      simp only [hkind', hkind, FrameKind.relocate]
      exact behind_report _

variable {source : List Char}

theorem behind_close (hcovers : Covers front.source q source) (h : b.Reading source)
    (hstart : Edge source span.start) (hstop : Edge source span.stop) (tag : String)
    (position : Position) :
    (behind front q b).close tag (span.relocate (.behind q)) (Position.behind q position) =
      behind front q (b.close tag span position) := by
  have hfind : (behind front q b).stack.findIdx? (·.tag == tag) =
      b.stack.findIdx? (·.tag == tag) := List.findIdx?_map
  have hends : (behind front q b).stack.head?.any (·.kind.isChoice) =
      b.stack.head?.any (·.kind.isChoice) := by
    have hmapped : (behind front q b).stack = b.stack.map (Frame.relocate (.behind q)) := rfl
    rw [hmapped]
    cases b.stack with
    | nil => rfl
    | cons frame outer => exact FrameKind.isChoice_relocate
  have hclose : ∀ {b : Builder} (count : Nat), b.Reading source →
      ((behind front q b).abandon (span.relocate (.behind q)).start count).closeFrame
          (span.relocate (.behind q)).stop =
        behind front q ((b.abandon span.start count).closeFrame span.stop) := by
    intro b count hb
    rw [← behind_closeFrame hcovers (hb.abandon span.start count) hstop,
      ← behind_abandon hcovers hb hstart count]
    rfl
  simp only [Builder.close, hfind, hends]
  split
  · next count _ =>
    split
    · exact hclose count h
    · rw [behind_report]
      exact hclose count (h.report _ _ _)
  · split
    · rfl
    · exact behind_report _

/-- **A token is taken alike** behind another tree. -/
theorem behind_accept (hcovers : Covers front.source q source) (h : b.Reading source)
    {token : Token} (hplaced : token.Placed source) (hfree : token.Free front.blockNames) :
    (behind front q b).accept (token.relocate (.behind q)) = behind front q (b.accept token) := by
  obtain ⟨piece, span, position⟩ := token
  cases piece with
  | text body => exact behind_addNode (.text span body)
  | comment body => exact behind_addNode (.comment span body)
  | closing name => exact behind_close hcovers h hplaced.edge hplaced.stop name position
  | opening shape tag attrs =>
    obtain ⟨hextends, hblock⟩ := hfree shape tag attrs rfl
    simp only [accept, Token.relocate, openTag, if_neg hextends]
    split
    · exact behind_branch tag attrs position
    · have hopening : (behind front q b).opening shape tag attrs (span.relocate (.behind q))
          (Position.behind q position) = _ :=
        behind_opening hcovers h hplaced.edge hplaced.stop shape tag position hblock
      exact (congrArg _ hopening).trans (behind_addOpening _)

theorem Reading.addOpening (h : b.Reading source) (hstart : Edge source span.start)
    (opened : Opening × List Problem) (tag : String) (position : Position) :
    (b.addOpening tag span position opened).Reading source := by
  obtain ⟨opening, problems⟩ := opened
  have hreport := h.report problems position tag
  cases opening with
  | nothing => exact hreport
  | node node => exact hreport.addNode _ _
  | frame kind =>
    have hpushed := hreport.pushFrame hstart tag position kind
    cases kind <;> exact ⟨hpushed.source_eq, hpushed.starts⟩

theorem Reading.branch (h : b.Reading source) (tag : String) (attrs : Attributes)
    (position : Position) : (b.branch tag attrs position).Reading source := by
  simp only [Builder.branch]
  split
  · next frame outer hstack =>
    split
    · split
      · refine ⟨h.source_eq, List.forall_mem_cons.2 ⟨?_, fun f hf => ?_⟩⟩
        · exact h.starts frame (by simp [hstack])
        · exact h.starts f (by simp [hstack, hf])
      · exact h.report _ _ _
    · exact h.report _ _ _
  · exact h.report _ _ _

theorem Reading.accept (h : b.Reading source) {token : Token} (hplaced : token.Placed source) :
    (b.accept token).Reading source := by
  obtain ⟨piece, span, position⟩ := token
  cases piece with
  | text body => exact h.addNode _ _
  | comment body => exact h.addNode _ _
  | closing name =>
    simp only [Builder.accept, Builder.close]
    split
    · split
      · exact (h.abandon _ _).closeFrame _
      · exact ((h.report _ _ _).abandon _ _).closeFrame _
    · split
      · exact h
      · exact h.report _ _ _
  | opening shape tag attrs =>
    simp only [Builder.accept, openTag]
    split
    · exact h.branch _ _ _
    · split
      · simp only [extending]
        split
        · exact h.addOpening hplaced.edge _ _ _
        · split
          · exact h.report _ _ _
          · split
            · exact h.report _ _ _
            · split
              · exact h.report _ _ _
              · exact ⟨h.source_eq, h.starts⟩
      · exact h.addOpening hplaced.edge _ _ _

/-- **So is a whole source.** -/
theorem behind_foldl_accept (hcovers : Covers front.source q source) (h : b.Reading source)
    {tokens : List Token} (hplaced : ∀ t ∈ tokens, t.Placed source)
    (hfree : ∀ t ∈ tokens, t.Free front.blockNames) :
    (tokens.map (Token.relocate (.behind q))).foldl accept (behind front q b) =
      behind front q (tokens.foldl accept b) := by
  induction tokens generalizing b with
  | nil => rfl
  | cons token rest ih =>
    have htoken := hplaced token List.mem_cons_self
    rw [List.map_cons, List.foldl_cons, List.foldl_cons,
      behind_accept hcovers h htoken (hfree token List.mem_cons_self)]
    exact ih (h.accept htoken) (fun t ht => hplaced t (List.mem_cons_of_mem _ ht))
      fun t ht => hfree t (List.mem_cons_of_mem _ ht)

end Builder

end PromptMarkup
