import Mathlib.Data.List.Forall2
import PromptMarkup.Proofs.Inherit.Effective
import PromptMarkup.Proofs.Tree.Taking
/-!
# Tree — a tree is read back in document order

Read in document order a tree is a sequence of marks (`Node.marks`): one for
each text, comment and leaf, one for the opening and one for the closing tag of
a node with bodies, and one before each further branch of a choice. A mark
keeps what the token was that it stands for, and where the tree says that this
token began or ended.

A tree under construction is read in the same way, with the open frames behind
what is finished (`Builder.marks`). Every token adds its mark at the end, and
only the closing tag of a branch adds none (`Builder.Takes.readBy`). So an
accepted template has the tokens of its source, each of them once and in their
order (`Template.marks_parse`).
-/

namespace PromptMarkup

/-- The tag of a further branch of a choice. It may be written in either shape,
and may be closed or not. -/
def Tag.isBranch (name : String) : Bool :=
  name = elseIfTag || name = elseTag

theorem Tag.isBranch_iff {name : String} :
    isBranch name = true ↔ name = elseTag ∨ name = elseIfTag := by
  simp [isBranch, or_comm]

theorem Tag.isBranch_of_notMem {name : String} (h : name ∉ [elseIfTag, elseTag, extendsTag]) :
    isBranch name = false := by
  simp only [List.mem_cons, not_or] at h
  simp [isBranch, h]

/-- What a piece is, with its text or its name. -/
inductive Piece.Kind where
  | text (body : String)
  | comment (body : String)
  | leaf (name : String)
  | opening (name : String)
  | branch (name : String)
  | closing (name : String)
  deriving DecidableEq, Repr

namespace Piece

/-- Pieces of this kind are tags. -/
def Kind.isTag : Kind → Bool
  | .text _ | .comment _ => false
  | .leaf _ | .opening _ | .branch _ | .closing _ => true

/-- The kind of a piece. -/
def kind : Piece → Kind
  | .text body => .text body
  | .comment body => .comment body
  | .opening shape name _ =>
    if Tag.isBranch name then .branch name
    else
      match shape with
      | .selfClosing => .leaf name
      | .block => .opening name
  | .closing name => .closing name

/-- The piece closes a branch, which ends where the next one begins. -/
def closesBranch : Piece → Bool
  | .closing name => Tag.isBranch name
  | .text _ | .comment _ | .opening .. => false

theorem kind_opening {name : String} (h : Tag.isBranch name = false) (shape : TagShape)
    (attrs : Attributes) :
    (Piece.opening shape name attrs).kind =
      match shape with
      | .selfClosing => .leaf name
      | .block => .opening name := by
  simp [kind, h]

theorem isTag_kind (piece : Piece) : piece.kind.isTag = piece.tag?.isSome := by
  cases piece with
  | opening shape name attrs =>
    simp only [kind]
    split
    · rfl
    · cases shape <;> rfl
  | text | comment | closing => rfl

end Piece

/-! ## Marks -/

/-- The place of a token in a tree, with the bytes where the token begins and
ends as far as the tree has them. -/
structure Mark where
  kind : Piece.Kind
  start : Option Nat
  stop : Option Nat
  deriving DecidableEq, Repr

namespace Mark

/-- The mark of a single token. -/
def single (kind : Piece.Kind) (span : Span) : Mark :=
  ⟨kind, some span.start, some span.stop⟩

/-- The mark of an opening tag. -/
def opens (tag : String) (start : Nat) : Mark :=
  ⟨.opening tag, some start, none⟩

/-- The mark of a closing tag. -/
def closes (tag : String) (stop : Nat) : Mark :=
  ⟨.closing tag, none, some stop⟩

/-- The mark before a further branch. -/
def branch (tag : String) : Mark :=
  ⟨.branch tag, none, none⟩

/-- The marks of a node around those of its bodies. -/
def around (tag : String) (span : Span) (inner : List Mark) : List Mark :=
  opens tag span.start :: (inner ++ [closes tag span.stop])

/-- The mark stands for the token. -/
structure Of (mark : Mark) (token : Token) : Prop where
  kind : mark.kind = token.piece.kind
  start : ∀ n ∈ mark.start, token.span.start = n
  stop : ∀ n ∈ mark.stop, token.span.stop = n

theorem of_single {kind : Piece.Kind} {token : Token} (h : token.piece.kind = kind) :
    (single kind token.span).Of token := by
  refine ⟨h.symm, ?_, ?_⟩ <;>
    · rintro _ ⟨⟩
      rfl

end Mark

namespace Node

mutual

/-- A node in document order. -/
def marks : Node → List Mark
  | .text span body => [.single (.text body) span]
  | .comment span body => [.single (.comment body) span]
  | .var info _ => [.single (.leaf Tag.var) info.span]
  | .tag info name _ => [.single (.leaf name) info.span]
  | .blockTag info name _ body => Mark.around name info.span (marksAll body)
  | .choice info branches none => Mark.around Tag.ifTag info.span (marksBranches [] branches)
  | .choice info branches (some body) =>
    Mark.around Tag.ifTag info.span
      (marksBranches [] branches ++ .branch Tag.elseTag :: marksAll body)
  | .loop info _ body => Mark.around Tag.forTag info.span (marksAll body)
  | .inclusion info _ _ => [.single (.leaf Tag.includeTag) info.span]
  | .extending span _ _ => [.single (.leaf Tag.extendsTag) span]
  | .block span _ _ body => Mark.around Tag.block span (marksAll body)
  | .parent span _ => [.single (.leaf Tag.parent) span]
  | .message span _ _ body => Mark.around Tag.message span (marksAll body)

/-- A sequence of nodes in document order. -/
def marksAll : List Node → List Mark
  | [] => []
  | node :: rest => marks node ++ marksAll rest

/-- The bodies of branches in document order. Every branch but the first begins
with a mark of its own. -/
def marksBranches (before : List Mark) : List Branch → List Mark
  | [] => []
  | .mk _ _ _ body :: rest =>
    before ++ (marksAll body ++ marksBranches [.branch Tag.elseIfTag] rest)

end

@[simp] theorem marksAll_nil : marksAll [] = [] := rfl

@[simp] theorem marksAll_cons (node : Node) (rest : List Node) :
    marksAll (node :: rest) = marks node ++ marksAll rest := rfl

@[simp] theorem marksAll_append (xs ys : List Node) :
    marksAll (xs ++ ys) = marksAll xs ++ marksAll ys := by
  induction xs with
  | nil => rfl
  | cons node rest ih => simp only [List.cons_append, marksAll_cons, ih, List.append_assoc]

/-- The marks before the body that follows on some branches. -/
def marksBefore (done : List Branch) : List Mark :=
  if done = [] then [] else [.branch Tag.elseIfTag]

theorem marksBranches_append_singleton (done : List Branch) (position : Position)
    (source : String) (condition : Expr) (body : List Node) :
    marksBranches [] (done ++ [.mk position source condition body]) =
      marksBranches [] done ++ (marksBefore done ++ marksAll body) := by
  suffices go : ∀ before, done ≠ [] →
      marksBranches before (done ++ [.mk position source condition body]) =
        marksBranches before done ++ .branch Tag.elseIfTag :: marksAll body by
    by_cases hdone : done = []
    · simp [hdone, marksBranches, marksBefore]
    · rw [go [] hdone, marksBefore, if_neg hdone, List.singleton_append]
  induction done with
  | nil => exact fun _ h => absurd rfl h
  | cons first rest ih =>
    obtain ⟨p, s, c, own⟩ := first
    intro before _
    rw [List.cons_append, marksBranches, marksBranches]
    by_cases hrest : rest = []
    · simp [hrest, marksBranches]
    · rw [ih _ hrest, List.append_assoc, List.append_assoc]

end Node

open Node

/-! ## Frames -/

/-- What a frame has read behind its opening tag. -/
def Frame.interior (frame : Frame) : List Mark :=
  match frame.kind with
  | .choice _ done (some _) =>
    marksBranches [] done ++ (marksBefore done ++ marksAll frame.children.toList)
  | .choice _ done none =>
    marksBranches [] done ++ .branch Tag.elseTag :: marksAll frame.children.toList
  | .loop .. | .block _ | .message _ | .tag .. | .discard => marksAll frame.children.toList

/-- An open frame in document order. -/
def Frame.marks (frame : Frame) : List Mark :=
  .opens frame.tag frame.start :: frame.interior

/-- The frame is that of a tag of this name, and becomes a node. -/
def FrameKind.Named (tag : String) : FrameKind → Prop
  | .choice .. => tag = Tag.ifTag
  | .loop .. => tag = Tag.forTag
  | .block _ => tag = Tag.block
  | .message _ => tag = Tag.message
  | .tag .. => tag ∉ Tag.structural
  | .discard => False

theorem FrameKind.Named.isBranch_eq {tag : String} {kind : FrameKind} (h : kind.Named tag) :
    Tag.isBranch tag = false := by
  cases kind with
  | tag info attrs =>
    exact Tag.isBranch_of_notMem fun hmem => h (List.Sublist.subset (by decide) hmem)
  | discard => exact h.elim
  | _ =>
    obtain rfl : tag = _ := h
    decide

/-- A node more is read behind all others of its frame. -/
theorem Frame.marks_push (frame : Frame) (node : Node) :
    { frame with children := frame.children.push node }.marks = frame.marks ++ node.marks := by
  obtain ⟨tag, start, position, kind, children⟩ := frame
  cases kind with
  | choice info done current => cases current <;> simp [marks, interior]
  | _ => simp [marks, interior]

/-- **The node of a closed frame** is read like the frame, and then its closing
tag. -/
theorem Frame.marks_node? {frame : Frame} (h : frame.kind.Named frame.tag) (source : List Char)
    (stop : Nat) :
    ∃ node, frame.node? source ⟨frame.start, stop⟩ = some node ∧
      node.marks = frame.marks ++ [.closes frame.tag stop] := by
  obtain ⟨tag, start, position, kind, children⟩ := frame
  cases kind with
  | discard => exact h.elim
  | choice info done current =>
    obtain rfl : tag = _ := h
    cases current with
    | none => exact ⟨_, rfl, rfl⟩
    | some current =>
      refine ⟨_, rfl, ?_⟩
      rw [Node.marks, marksBranches_append_singleton]
      rfl
  | tag info attrs => exact ⟨_, rfl, rfl⟩
  | _ =>
    obtain rfl : tag = _ := h
    exact ⟨_, rfl, rfl⟩

namespace Builder

/-! ## A tree under construction -/

/-- What has been read so far, in document order: the finished nodes, and then
the open frames from the outermost to the innermost. -/
def marks (b : Builder) : List Mark :=
  marksAll b.root.toList ++ b.stack.reverse.flatMap Frame.marks

variable {b b' : Builder} {tokens : List Token} {token : Token}

theorem marks_of_stack {frame : Frame} {outer : List Frame} (h : b.stack = frame :: outer) :
    b.marks = marksAll b.root.toList ++ outer.reverse.flatMap Frame.marks ++ frame.marks := by
  simp [marks, h]

/-- A node that is added is read last. -/
theorem marks_addNode (b : Builder) (node : Node) (position : Position) :
    (b.addNode node position).marks = b.marks ++ node.marks := by
  unfold addNode
  cases hstack : b.stack with
  | nil => simp [marks, hstack]
  | cons frame outer => simp [marks, hstack, Frame.marks_push]

theorem stack_addNode {P : Frame → Prop} {node : Node} {position : Position}
    (hsame : ∀ frame, P frame → P { frame with children := frame.children.push node })
    (h : ∀ frame ∈ b.stack, P frame) : ∀ frame ∈ (b.addNode node position).stack, P frame := by
  unfold addNode
  cases hstack : b.stack with
  | nil => simp
  | cons frame outer =>
    rw [hstack, List.forall_mem_cons] at h
    exact List.forall_mem_cons.2 ⟨hsame frame h.1, h.2⟩

/-- What the builder has collected are these tokens. -/
structure ReadBy (tokens : List Token) (b : Builder) : Prop where
  named : ∀ frame ∈ b.stack, frame.kind.Named frame.tag
  marks : List.Forall₂ Mark.Of b.marks (tokens.filter (!·.piece.closesBranch))

theorem readBy_start (resolvers : Resolvers) (source : String) :
    (start resolvers source).ReadBy [] :=
  ⟨List.forall_mem_nil _, .nil⟩

/-- A token is read with its mark at the end. -/
theorem ReadBy.mark (hb : b.ReadBy tokens) (mark : Mark)
    (hnamed : ∀ frame ∈ b'.stack, frame.kind.Named frame.tag)
    (hmarks : b'.marks = b.marks ++ [mark]) (hmark : mark.Of token)
    (hbranch : token.piece.closesBranch = false) : b'.ReadBy (tokens ++ [token]) := by
  refine ⟨hnamed, ?_⟩
  rw [hmarks, List.filter_append, List.filter_cons, hbranch]
  exact List.rel_append hb.marks (.cons hmark .nil)

/-- A node that is a single token is added with its token. -/
theorem ReadBy.addNode (hb : b.ReadBy tokens) {node : Node} {kind : Piece.Kind}
    {position : Position} (hnode : node.marks = [.single kind token.span])
    (hkind : token.piece.kind = kind) (hbranch : token.piece.closesBranch = false) :
    (b.addNode node position).ReadBy (tokens ++ [token]) := by
  have hmarks : (b.addNode node position).marks = b.marks ++ [.single kind token.span] := by
    rw [marks_addNode, hnode]
  exact hb.mark _ (stack_addNode (fun _ h => h) hb.named) hmarks (Mark.of_single hkind) hbranch

/-- Reports are not read. -/
theorem ReadBy.report (hb : b.ReadBy tokens) {problems : List Problem} {position : Position}
    {tag : String} : (b.report problems position tag).ReadBy tokens :=
  ⟨hb.named, hb.marks⟩

/-- A frame that is opened is read as its opening tag. -/
theorem ReadBy.pushFrame (hb : b.ReadBy tokens) {frame : Frame}
    (hstack : b'.stack = frame :: b.stack) (hroot : b'.root = b.root)
    (hnamed : frame.kind.Named frame.tag) (hnew : frame.interior = [])
    (hstart : frame.start = token.span.start) (hkind : token.piece.kind = .opening frame.tag)
    (hbranch : token.piece.closesBranch = false) : b'.ReadBy (tokens ++ [token]) := by
  refine hb.mark (.opens frame.tag frame.start) ?_ ?_ ⟨hkind.symm, ?_, ?_⟩ hbranch
  · rw [hstack]
    exact List.forall_mem_cons.2 ⟨hnamed, hb.named⟩
  · rw [marks_of_stack hstack, hroot, Frame.marks, hnew, Builder.marks]
  · rintro _ ⟨⟩
    exact hstart.symm
  · rintro _ ⟨⟩

theorem ReadBy.addOpening (hb : b.ReadBy tokens) {attrs : Attributes} {span : Span}
    {position : Position} {shape : TagShape} {name : String} {o : Opening}
    {problems : List Problem} (h : b.Opens attrs span position shape name o) :
    (b.addOpening name span position (o, problems)).ReadBy
      (tokens ++ [⟨.opening shape name attrs, span, position⟩]) := by
  have hkind := Piece.kind_opening (Tag.isBranch_of_notMem h.tag_notMem) shape attrs
  cases h with
  | var => exact hb.report.addNode rfl hkind rfl
  | inclusion => exact hb.report.addNode rfl hkind rfl
  | parent => exact hb.report.addNode rfl hkind rfl
  | tag => exact hb.report.addNode rfl hkind rfl
  | choice => exact hb.pushFrame rfl rfl rfl rfl rfl hkind rfl
  | loop => exact hb.pushFrame rfl rfl rfl rfl rfl hkind rfl
  | block => exact hb.pushFrame rfl rfl rfl rfl rfl hkind rfl
  | message => exact hb.pushFrame rfl rfl rfl rfl rfl hkind rfl
  | blockTag _ hname _ => exact hb.pushFrame rfl rfl hname rfl rfl hkind rfl

/-- **A branch that begins** is marked behind the body of the one before. -/
theorem ReadBy.nextBranch (hb : b.ReadBy tokens) {frame : Frame} {outer : List Frame}
    {info : NodeInfo} {done : List Branch} {current : OpenBranch} {next : Option OpenBranch}
    (hstack : b.stack = frame :: outer) (hchoice : frame.kind = .choice info done (some current))
    (hkind : token.piece.kind =
      .branch (if next.isSome then Tag.elseIfTag else Tag.elseTag))
    (hbranch : token.piece.closesBranch = false) :
    (b.nextBranch frame outer info done current next).ReadBy (tokens ++ [token]) := by
  refine hb.mark (.branch (if next.isSome then Tag.elseIfTag else Tag.elseTag)) ?_ ?_
    ⟨hkind.symm, ?_, ?_⟩ hbranch
  · have hnamed := hb.named
    rw [hstack, List.forall_mem_cons, hchoice] at hnamed
    exact List.forall_mem_cons.2 hnamed
  · rw [marks_of_stack hstack, marks_of_stack rfl, List.append_assoc _ frame.marks]
    refine congrArg₂ _ rfl ?_
    cases next <;>
      simp [Frame.marks, Frame.interior, hchoice, marksBranches_append_singleton, marksBefore]
  · rintro _ ⟨⟩
  · rintro _ ⟨⟩

/-- **A frame that is closed** is read on with its closing tag. -/
theorem ReadBy.closeFrame (hb : b.ReadBy tokens) {frame : Frame} {outer : List Frame}
    (hstack : b.stack = frame :: outer) (hpiece : token.piece = .closing frame.tag) :
    (b.closeFrame token.span.stop).ReadBy (tokens ++ [token]) := by
  have hnamed := hb.named
  rw [hstack, List.forall_mem_cons] at hnamed
  have hnotBranch := hnamed.1.isBranch_eq
  obtain ⟨node, hnode, hmarks⟩ := Frame.marks_node? hnamed.1 b.source token.span.stop
  have hclose : b.closeFrame token.span.stop =
      Builder.addNode { b with stack := outer } node frame.position := by
    rw [Builder.closeFrame, hstack]
    simp only [hnode]
  rw [hclose]
  refine hb.mark (.closes frame.tag token.span.stop) ?_ ?_ ⟨?_, ?_, ?_⟩ ?_
  · exact stack_addNode (fun _ h => h) hnamed.2
  · rw [marks_addNode, hmarks, marks_of_stack hstack, ← List.append_assoc]
    rfl
  · rw [hpiece]
    rfl
  · rintro _ ⟨⟩
  · rintro _ ⟨⟩
    rfl
  · rwa [hpiece]

/-- **A token that is taken** is read behind all others, once. The closing tag
of a branch is not read. -/
theorem Takes.readBy (h : b.Takes token b') (hb : b.ReadBy tokens) :
    b'.ReadBy (tokens ++ [token]) := by
  cases h with
  | text => exact hb.addNode rfl rfl rfl
  | comment => exact hb.addNode rfl rfl rfl
  | opening hopens => exact hb.addOpening hopens
  | extending htemplate hfirst hstack hroot =>
    -- the root takes the node, as no frame is open
    refine hb.mark (.single (.leaf Tag.extendsTag) _) hb.named ?_ (Mark.of_single rfl) rfl
    simp [Builder.marks, hstack, Node.marks]
  | elseIf hstack hkind => exact hb.nextBranch hstack hkind rfl rfl
  | otherwise hstack hkind => exact hb.nextBranch hstack hkind rfl rfl
  | close hstack htag =>
    subst htag
    exact hb.closeFrame hstack rfl
  | @closeBranch name _ _ hname =>
    refine ⟨hb.named, ?_⟩
    have hbranch : Tag.isBranch name = true := Tag.isBranch_iff.2 hname
    simpa [Piece.closesBranch, hbranch] using hb.marks

/-- So all tokens are read that are taken one after another. -/
theorem TakesAll.readBy {more : List Token} (h : TakesAll b more b') (hb : b.ReadBy tokens) :
    b'.ReadBy (tokens ++ more) := by
  induction h generalizing tokens with
  | nil => rwa [List.append_nil]
  | cons htakes _ ih =>
    rw [List.append_cons]
    exact ih (htakes.readBy hb)

end Builder

namespace Template

/-- A template without an open frame has the marks of its root. -/
theorem of_parse_marks {d : Delimiters} {rs : Resolvers} {name source : String} {t : Template}
    (h : Template.parse d rs name source = .ok t) :
    ∃ tokens, Token.read d source = .ok tokens ∧
      List.Forall₂ Mark.Of (marksAll t.tree.nodes)
        (tokens.filter (!·.piece.closesBranch)) := by
  obtain ⟨tokens, b, hread, htakes, hstack, rfl⟩ := parse_eq_ok_iff.1 h
  have hb := (htakes.readBy (Builder.readBy_start rs source)).marks
  rw [Builder.marks, hstack] at hb
  exact ⟨tokens, hread, by simpa using hb⟩

/-- **No token is lost, doubled or moved.** Read in document order, the tree of
an accepted template has the texts, comments and tags of its source, except for
the closing tags of branches. -/
theorem marks_parse {d : Delimiters} {rs : Resolvers} {name source : String} {t : Template}
    (h : Template.parse d rs name source = .ok t) :
    ∃ tokens, Token.read d source = .ok tokens ∧
      (marksAll t.tree.nodes).map Mark.kind =
        (tokens.filter (!·.piece.closesBranch)).map (·.piece.kind) := by
  obtain ⟨tokens, hread, hmarks⟩ := of_parse_marks h
  refine ⟨tokens, hread, ?_⟩
  have hkinds := hmarks.imp fun _ _ hmark => hmark.kind
  rw [← List.forall₂_eq_eq_eq, List.forall₂_map_left_iff, List.forall₂_map_right_iff]
  exact hkinds

end Template

namespace Sample

/-- A choice of three branches in a turn, with a comment, an escaped delimiter
and a verbatim text in them. One branch is closed with a tag of its own, and
one is opened by a tag that is complete in itself. -/
def answer : String :=
  tagged "prompty.message role=\"user\"" ++ tagged "prompty.if eval=\"a\"" ++ "1\\\x7b~" ++
    tagged "prompty.comment" ++ "c" ++ tagged "/prompty.comment" ++
    tagged "prompty.elseif eval=\"b\"" ++ tagged "prompty.raw" ++ tagged "x" ++
    tagged "/prompty.raw" ++ tagged "/prompty.elseif" ++ tagged "prompty.else /" ++
    tagged "prompty.var name=\"v\" /" ++ tagged "/prompty.if" ++ tagged "/prompty.message"

/-- It is read back in document order. -/
theorem marks_parse_answer :
    ∃ t, Template.parse .standard .builtin "answer" answer = .ok t ∧
      (∃ tokens, Token.read .standard answer = .ok tokens ∧
        (marksAll t.tree.nodes).map Mark.kind =
          (tokens.filter (!·.piece.closesBranch)).map (·.piece.kind)) ∧
      (marksAll t.tree.nodes).map Mark.kind =
        [.opening Tag.message, .opening Tag.ifTag, .text "1\x7b~", .comment "c",
          .branch Tag.elseIfTag, .text "\x7b~x~\x7d", .branch Tag.elseTag, .leaf Tag.var,
          .closing Tag.ifTag, .closing Tag.message] := by
  have hread : ((Template.parse .standard .builtin "answer" answer).toOption.any fun t =>
      decide ((marksAll t.tree.nodes).map Mark.kind =
        [.opening Tag.message, .opening Tag.ifTag, .text "1\x7b~", .comment "c",
          .branch Tag.elseIfTag, .text "\x7b~x~\x7d", .branch Tag.elseTag, .leaf Tag.var,
          .closing Tag.ifTag, .closing Tag.message])) = true := by
    decide +kernel
  cases hparse : Template.parse .standard .builtin "answer" answer with
  | error failure =>
    rw [hparse] at hread
    cases hread
  | ok t =>
    rw [hparse] at hread
    exact ⟨t, rfl, Template.marks_parse hparse, of_decide_eq_true hread⟩

end Sample

end PromptMarkup
