import PromptMarkup.Tree.Builder
import PromptMarkup.Proofs.Tree.Walk
import Mathlib.Logic.Relation
/-!
# Tree — the moves of the builder

Whatever a token does to a tree under construction is a sequence of a few
moves (`Builder.Move`): a remark, a node or a frame added, a branch ended, a
frame closed. Each move says what the builder has checked before it, so an
invariant of the builder is proved once for each move, and holds of every
tree that was built (`reaches_build`).
-/

namespace PromptMarkup

/-- The bodies that a frame has already finished. -/
def FrameKind.bodies : FrameKind → List (List Node)
  | .choice _ done _ => done.map Branch.body
  | _ => []

/-- The block that a frame will become. -/
def FrameKind.blockName? : FrameKind → Option String
  | .block name => some name
  | _ => none

/-- The bodies that the node of a frame will have, the last of them as far as
it has been read. -/
def Frame.bodies (frame : Frame) : List (List Node) :=
  frame.kind.bodies ++ [frame.children.toList]

/-- **The node of a closed frame** has the frame's bodies, and is a block if
the frame was one. -/
theorem Frame.node?_spec {frame : Frame} {source : List Char} {span : Span} {node : Node}
    (h : frame.node? source span = some node) :
    node.bodies = frame.bodies ∧ node.definition?.map Prod.fst = frame.kind.blockName? ∧
      node.isParent = false ∧ node.isExtending = false := by
  obtain ⟨tag, start, position, kind, children⟩ := frame
  cases kind with
  | choice info done current =>
    cases current <;> cases h <;>
      simp [Node.bodies, Frame.bodies, FrameKind.bodies, FrameKind.blockName?, Branch.body,
        Node.definition?, Node.isParent, Node.isExtending]
  | discard => cases h
  | _ =>
    cases h
    simp [Node.bodies, Frame.bodies, FrameKind.bodies, FrameKind.blockName?, Node.definition?,
      Node.isParent, Node.isExtending]

namespace Builder

/-- A single change of a tree under construction, with what has been checked
before it is made. -/
inductive Move : Builder → Builder → Prop
  /-- The issues change. -/
  | remark (b : Builder) (issues : Array Issue) : Move b { b with issues }
  /-- A node without bodies that combines no templates is added. -/
  | leaf (b : Builder) {node : Node} (position : Position) (hplain : node.isCombining = false)
      (hleaf : node.bodies = []) : Move b (b.addNode node position)
  /-- A parent tag is added: inside a block, and in a template that extends
  another. -/
  | parent (b : Builder) (span : Span) (position site : Position)
      (hinside : b.stack.any (·.kind.isBlock)) (hextended : b.extended = true) :
      Move b (b.addNode (.parent span position) site)
  /-- The template is said to extend another, for the first time and before
  all content. -/
  | extending (b : Builder) (span : Span) (position : Position) (template : String)
      (hextended : b.extended = false) (hstack : b.stack = []) (hroot : b.rootFilled = false) :
      Move b { b with
        extended := true, root := b.root.push (.extending span position template) }
  /-- A frame is opened that is no block. -/
  | frame (b : Builder) (tag : String) (span : Span) (position : Position) {kind : FrameKind}
      (hbodies : kind.bodies = []) (hname : kind.blockName? = none) :
      Move b (b.pushFrame tag span position kind)
  /-- A block is opened, under a name that no block of the template had. -/
  | block (b : Builder) (tag : String) (span : Span) (position : Position) {name : String}
      (hname : name ∉ b.blockNames) :
      Move b { b.pushFrame tag span position (.block name) with
        blockNames := name :: b.blockNames }
  /-- The current branch of the innermost frame ends. -/
  | branch (b : Builder) {frame : Frame} {outer : List Frame} {info : NodeInfo}
      {done : List Branch} {current : OpenBranch} (next : Option OpenBranch)
      (hstack : b.stack = frame :: outer) (hkind : frame.kind = .choice info done (some current)) :
      Move b (b.nextBranch frame outer info done current next)
  /-- The innermost frame is closed. -/
  | close (b : Builder) (stop : Nat) : Move b (b.closeFrame stop)

/-- One tree under construction becomes another in some number of moves. -/
abbrev Reaches : Builder → Builder → Prop := Relation.ReflTransGen Move

/-- **What every move keeps holds along every sequence of moves.** -/
theorem Reaches.keeps {P : Builder → Prop} (step : ∀ b b', Move b b' → P b → P b')
    {b b' : Builder} (h : Reaches b b') (hb : P b) : P b' := by
  induction h with
  | refl => exact hb
  | tail _ hmove ih => exact step _ _ hmove ih

/-! ## Opening tags -/

/-- What an opening tag may add to a tree under construction. -/
inductive Admits (b : Builder) : Opening → Prop
  | nothing : Admits b .nothing
  | leaf {node : Node} (hplain : node.isCombining = false) (hleaf : node.bodies = []) :
      Admits b (.node node)
  | parent {span : Span} {position : Position} (hinside : b.stack.any (·.kind.isBlock))
      (hextended : b.extended = true) : Admits b (.node (.parent span position))
  | frame {kind : FrameKind} (hbodies : kind.bodies = []) (hname : kind.blockName? = none) :
      Admits b (.frame kind)
  | block {name : String} (hname : name ∉ b.blockNames) : Admits b (.frame (.block name))

variable {b : Builder} {attrs : Attributes} {span : Span} {position : Position}

theorem admits_misshapen (tag : String) (expected : TagShape) :
    b.Admits (misshapen tag expected).1 := by
  cases expected with
  | selfClosing => exact .frame rfl rfl
  | block => exact .nothing

theorem admits_openVar : b.Admits (b.openVar attrs span position).1 := by
  simp only [openVar]
  split
  · exact .leaf rfl rfl
  · exact .nothing

theorem admits_openChoice : b.Admits (b.openChoice attrs span position).1 :=
  .frame rfl rfl

theorem admits_openLoop : b.Admits (b.openLoop attrs span position).1 := by
  simp only [openLoop]
  split <;> exact .frame rfl rfl

theorem admits_openInclusion : b.Admits (b.openInclusion attrs span position).1 := by
  simp only [openInclusion]
  split
  · exact .leaf rfl rfl
  · exact .nothing

theorem admits_openBlock : b.Admits (b.openBlock attrs).1 := by
  simp only [openBlock]
  split
  · next name _ =>
    split
    · exact .frame rfl rfl
    · next hname => exact .block (by simpa using hname)
  · exact .frame rfl rfl

theorem admits_openParent : b.Admits (b.openParent span position).1 := by
  simp only [openParent]
  split
  · exact .nothing
  · next hinside =>
    split
    · exact .nothing
    · next hextended => exact .parent (by simpa using hinside) (by simpa using hextended)

theorem admits_openMessage : b.Admits (b.openMessage attrs).1 := by
  simp only [openMessage]
  split
  · split <;> exact .frame rfl rfl
  · exact .frame rfl rfl

theorem admits_openOther (shape : TagShape) (tag : String) :
    b.Admits (b.openOther shape tag attrs span position).1 := by
  cases shape with
  | selfClosing => exact .leaf rfl rfl
  | block => exact .frame rfl rfl

/-- **An opening tag adds only what the builder admits.** -/
theorem admits_opening (shape : TagShape) (tag : String) :
    b.Admits (b.opening shape tag attrs span position).1 := by
  have hshape : ∀ (expected : TagShape) (opened : Opening × List Problem), b.Admits opened.1 →
      b.Admits (if shape = expected then opened else misshapen tag expected).1 := by
    intro expected opened hopened
    split
    · exact hopened
    · exact admits_misshapen tag expected
  simp only [opening]
  split
  · exact hshape _ _ admits_openVar
  split
  · exact hshape _ _ admits_openChoice
  split
  · exact hshape _ _ admits_openLoop
  split
  · exact hshape _ _ admits_openInclusion
  split
  · exact hshape _ _ admits_openBlock
  split
  · exact hshape _ _ admits_openParent
  split
  · exact hshape _ _ admits_openMessage
  · exact admits_openOther shape tag

/-! ## Tokens -/

theorem reaches_report (b : Builder) (problems : List Problem) (position : Position)
    (tag : String) : Reaches b (b.report problems position tag) :=
  .single (.remark b _)

theorem reaches_addOpening (tag : String) {opened : Opening} (problems : List Problem)
    (h : b.Admits opened) : Reaches b (b.addOpening tag span position (opened, problems)) := by
  refine (reaches_report b problems position tag).trans ?_
  cases h with
  | nothing => exact .refl
  | leaf hplain hleaf => exact .single (.leaf _ position hplain hleaf)
  | parent hinside hextended =>
    exact .single (.parent (b.report problems position tag) _ _ _ hinside hextended)
  | frame hbodies hname =>
    next kind =>
    cases kind with
    | block name => cases hname
    | _ => exact .single (.frame (b.report problems position tag) tag span position hbodies hname)
  | block hname => exact .single (.block (b.report problems position tag) tag span position hname)

theorem reaches_extending (b : Builder) (shape : TagShape) (attrs : Attributes) (span : Span)
    (position : Position) : Reaches b (b.extending shape attrs span position) := by
  simp only [extending]
  split
  · exact reaches_addOpening _ _ (admits_misshapen Tag.extendsTag .selfClosing)
  · split
    · exact reaches_report _ _ _ _
    · next template _ =>
      split
      · exact reaches_report _ _ _ _
      · next hextended =>
        split
        · exact reaches_report _ _ _ _
        · next hfirst =>
          simp only [Bool.or_eq_true, Bool.not_eq_true', not_or, Bool.not_eq_true,
            Bool.not_eq_false, List.isEmpty_iff] at hfirst hextended
          exact .single (.extending b span position template hextended hfirst.1 hfirst.2)

theorem reaches_branch (b : Builder) (tag : String) (attrs : Attributes) (position : Position) :
    Reaches b (b.branch tag attrs position) := by
  simp only [branch]
  split
  · next frame outer hstack =>
    split
    · next info done current hkind =>
      split
      · next hcurrent =>
        exact (reaches_report b _ position tag).tail (.branch _ _ hstack hkind)
      · exact reaches_report _ _ _ _
    · exact reaches_report _ _ _ _
  · exact reaches_report _ _ _ _

theorem reaches_abandon (b : Builder) (stop n : Nat) : Reaches b (b.abandon stop n) := by
  induction n generalizing b with
  | zero => exact .refl
  | succ n ih =>
    refine Relation.ReflTransGen.trans ?_ (ih (b.abandonFrame stop))
    simp only [abandonFrame]
    split
    · exact .refl
    · exact (reaches_report _ _ _ _).tail (.close _ stop)

theorem reaches_close (b : Builder) (tag : String) (span : Span) (position : Position) :
    Reaches b (b.close tag span position) := by
  simp only [close]
  split
  · next inside _ =>
    refine Relation.ReflTransGen.tail (Relation.ReflTransGen.trans ?_ (reaches_abandon _ _ _))
      (.close _ _)
    split
    · exact .refl
    · exact reaches_report _ _ _ _
  · split
    · exact .refl
    · exact reaches_report _ _ _ _

/-- **A token makes moves and nothing else.** -/
theorem reaches_accept (b : Builder) (token : Token) : Reaches b (b.accept token) := by
  obtain ⟨piece, span, position⟩ := token
  cases piece with
  | text body => exact .single (.leaf b position rfl rfl)
  | comment body => exact .single (.leaf b position rfl rfl)
  | closing name => exact reaches_close b name span position
  | opening shape name attrs =>
    simp only [accept, openTag]
    split
    · exact reaches_branch _ _ _ _
    · split
      · exact reaches_extending _ _ _ _ _
      · exact reaches_addOpening _ _ (admits_opening _ _)

theorem reaches_finish (b : Builder) : Reaches b b.finish := by
  simp only [finish]
  split
  · exact (reaches_abandon _ _ _).tail (.remark _ _)
  · exact reaches_abandon _ _ _

/-- **Every tree is built by moves** from the empty one. -/
theorem reaches_build (resolvers : Resolvers) (name source : String) (tokens : List Token) :
    ∃ b, Reaches { source := source.toList, resolvers := resolvers } b ∧
      (Tree.build resolvers name source tokens).1.nodes = b.root.toList := by
  refine ⟨_, Relation.ReflTransGen.trans ?_ (reaches_finish _), rfl⟩
  suffices go : ∀ b : Builder, Reaches b (tokens.foldl accept b) from go _
  induction tokens with
  | nil => exact fun b => .refl
  | cons token rest ih => exact fun b => (reaches_accept b token).trans (ih _)

end Builder

end PromptMarkup
