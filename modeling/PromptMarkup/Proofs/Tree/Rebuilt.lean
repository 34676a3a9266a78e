import PromptMarkup.Proofs.Tree.Listed
import PromptMarkup.Proofs.Tree.Written
/-!
# Tree — a tree is built from what it is written as

The source that a tree is written as is accepted where the tree keeps the
rules, and its tree is the same, up to where the nodes stand and to the
source text they keep (`Template.parse_written`).

It is proved node by node. Where nodes may stand (`Builder.Ready`) the tokens
of what they are written as are taken without an error, and the builder has
collected such nodes, and nothing else (`Builder.Collects`). For a node with
bodies a frame is opened, finishes one body after another
(`Builder.Opened`) and becomes the node with the last of them.
-/

namespace PromptMarkup

open Node

/-- All places are one, and no source text is kept. -/
def Relocation.nowhere : Relocation :=
  ⟨fun _ => 0, fun _ => .origin, fun _ => ""⟩

/-- The nodes are the same up to where they stand and to the source text they
keep. -/
def Node.Alike (xs ys : List Node) : Prop :=
  relocateAll .nowhere xs = relocateAll .nowhere ys

namespace Node

variable {xs xs' ys ys' : List Node}

theorem Alike.append (hx : Alike xs xs') (hy : Alike ys ys') : Alike (xs ++ ys) (xs' ++ ys') := by
  rw [Alike, relocateAll_append, relocateAll_append, hx, hy]

/-- Two nodes are alike where they are the same in no place. -/
theorem alike_singleton {node node' : Node} :
    Alike [node] [node'] ↔ relocate .nowhere node = relocate .nowhere node' := by
  simp [Alike, relocateAll]

end Node

/-- An open tag of this kind is that of a node, and becomes a node like it with
the last of the node's bodies. -/
structure FrameKind.Makes (kind : FrameKind) (tag : String) (last : List Node) (node : Node) :
    Prop where
  name : kind.blockName? = node.definition?.map Prod.fst
  message : kind.isMessage = node.isMessage
  node : ∀ start position (children : Array Node) source span, Alike children.toList last →
    ∃ found, Frame.node? ⟨tag, start, position, kind, children⟩ source span = some found ∧
      Alike [found] [node]

namespace Builder

/-! ## What has been collected -/

/-- The open tags and the nodes outside all tags. -/
def content (b : Builder) : List Frame × Array Node :=
  (b.stack, b.root)

/-- The innermost open tag, or else the template itself, has these nodes
more. -/
def withNodes (nodes : List Node) : List Frame × Array Node → List Frame × Array Node
  | ([], root) => ([], root ++ nodes.toArray)
  | (frame :: outer, root) =>
    ({ frame with children := frame.children ++ nodes.toArray } :: outer, root)

theorem withNodes_nil (content : List Frame × Array Node) : withNodes [] content = content := by
  obtain ⟨stack, root⟩ := content
  cases stack <;> simp [withNodes]

theorem withNodes_withNodes (xs ys : List Node) (content : List Frame × Array Node) :
    withNodes ys (withNodes xs content) = withNodes (xs ++ ys) content := by
  obtain ⟨stack, root⟩ := content
  cases stack <;> simp [withNodes]

theorem content_addNode (b : Builder) (node : Node) (position : Position) :
    (b.addNode node position).content = withNodes [node] b.content := by
  cases hstack : b.stack with
  | nil => simp [addNode_of_root hstack, content, hstack, withNodes]
  | cons frame outer => simp [addNode_of_frame hstack, content, hstack, withNodes]

/-- The second builder has collected these nodes more than the first one. -/
structure Collects (b b' : Builder) (nodes : List Node) : Prop where
  resolvers : b'.resolvers = b.resolvers
  extended : b'.extended = b.extended
  names : ∀ name ∈ b'.blockNames, name ∈ b.blockNames ∨ name ∈ Node.blockNames nodes
  /-- Blanks are no content. -/
  filled : b'.rootFilled = true → b.rootFilled = true ∨ ∃ node ∈ nodes, node.isBlank = false
  content : ∃ found, Alike found nodes ∧ b'.content = withNodes found b.content

variable {b b' b'' : Builder} {xs ys nodes : List Node} {node : Node}

theorem collects_nil (b : Builder) : b.Collects b [] where
  resolvers := rfl
  extended := rfl
  names _ h := .inl h
  filled h := .inl h
  content := ⟨[], rfl, (withNodes_nil _).symm⟩

theorem Collects.trans (h : b.Collects b' xs) (h' : b'.Collects b'' ys) :
    b.Collects b'' (xs ++ ys) where
  resolvers := h'.resolvers.trans h.resolvers
  extended := h'.extended.trans h.extended
  names name hname := by
    rw [blockNames_append, List.mem_append]
    have := h'.names name hname
    have := h.names name
    tauto
  filled hfilled := by
    obtain hfirst | ⟨node, hnode, hblank⟩ := h'.filled hfilled
    · obtain hzero | ⟨node, hnode, hblank⟩ := h.filled hfirst
      · exact .inl hzero
      · exact .inr ⟨node, List.mem_append_left _ hnode, hblank⟩
    · exact .inr ⟨node, List.mem_append_right _ hnode, hblank⟩
  content := by
    obtain ⟨found, halike, hcontent⟩ := h.content
    obtain ⟨found', halike', hcontent'⟩ := h'.content
    refine ⟨found ++ found', halike.append halike', ?_⟩
    rw [hcontent', hcontent, withNodes_withNodes]

/-- A node is collected by adding one like it. -/
theorem collects_addNode {found : Node} (h : Alike [found] [node]) (b : Builder)
    (position : Position) :
    b.Collects (b.addNode found position) [node] := by
  refine ⟨?_, extended_addNode _ _, ?_, fun hfilled => ?_, [found], h, content_addNode _ _ _⟩
  · unfold addNode
    cases b.stack <;> rfl
  · rw [blockNames_addNode]
    exact fun name hname => .inl hname
  · cases hstack : b.stack with
    | cons frame outer =>
      rw [addNode_of_frame hstack] at hfilled
      exact .inl hfilled
    | nil =>
      rw [addNode_of_root hstack, Bool.or_eq_true, Bool.not_eq_true'] at hfilled
      refine hfilled.imp_right fun hcontent => ⟨node, List.mem_singleton_self node, ?_⟩
      have hsame := isFiller_relocate .nowhere found
      rw [alike_singleton.1 h, isFiller_relocate, hcontent] at hsame
      cases node <;> first | exact hsame | rfl

/-! ## What may be collected -/

/-- The nodes can be written where the builder stands. -/
structure Ready (b : Builder) (nodes : List Node) : Prop where
  fits : Fits b.resolvers b.stack nodes
  writable : Throughout Writable nodes
  statement : NoExtending nodes
  parents : b.extended = false → Throughout (·.isParent = false) nodes
  distinct : (Node.blockNames nodes).Nodup
  fresh : ∀ name ∈ Node.blockNames nodes, name ∉ b.blockNames

theorem fits_congr {rs : Resolvers} {stack stack' : List Frame}
    (h : stack'.map Frame.kind = stack.map Frame.kind) (hfits : Fits rs stack nodes) :
    Fits rs stack' nodes := by
  have hany : ∀ p : FrameKind → Bool, stack'.any (p ·.kind) = stack.any (p ·.kind) := by
    intro p
    have hkinds := congrArg (List.any · p) h
    rw [List.any_map, List.any_map] at hkinds
    exact hkinds
  refine ⟨hfits.regular, fun hblock => hfits.enclosed ?_, fun hmessage => hfits.unnested ?_⟩
  · rw [← hblock, hany FrameKind.isBlock]
  · rw [← hmessage, hany FrameKind.isMessage]

theorem kinds_withNodes (nodes : List Node) (stack : List Frame) (root : Array Node) :
    (withNodes nodes (stack, root)).1.map Frame.kind = stack.map Frame.kind := by
  cases stack <;> rfl

/-- Where two sequences are ready, the first one is. -/
theorem Ready.left (h : b.Ready (xs ++ ys)) : b.Ready xs := by
  have hparents := fun hext => (throughout_append.1 (h.parents hext)).1
  obtain ⟨⟨hregular, henclosed, hunnested⟩, hwritable, hstatement, -, hdistinct, hfresh⟩ := h
  rw [blockNames_append] at hdistinct hfresh
  refine ⟨⟨(throughout_append.1 hregular).1, fun hstack hmem => ?_, fun hstack => ?_⟩,
    (throughout_append.1 hwritable).1, (throughout_append.1 hstatement).1, hparents,
    (List.nodup_append.1 hdistinct).1, fun name hname => hfresh name (List.mem_append_left _ hname)⟩
  · refine henclosed hstack ?_
    rw [parentsNearAll_append]
    exact List.mem_append_left _ hmem
  · exact (throughout_append.1 (hunnested hstack)).1

/-- And the second one is where the first has been collected. -/
theorem Ready.right (h : b.Ready (xs ++ ys)) (hcollects : b.Collects b' xs) : b'.Ready ys := by
  have hparents := fun hext => (throughout_append.1 (h.parents hext)).2
  obtain ⟨⟨hregular, henclosed, hunnested⟩, hwritable, hstatement, -, hdistinct, hfresh⟩ := h
  rw [blockNames_append] at hdistinct hfresh
  refine ⟨?_, (throughout_append.1 hwritable).2, (throughout_append.1 hstatement).2,
    hcollects.extended ▸ hparents, (List.nodup_append.1 hdistinct).2.1, fun name hname hmem => ?_⟩
  · obtain ⟨found, -, hcontent⟩ := hcollects.content
    have hkinds : b'.stack.map Frame.kind = b.stack.map Frame.kind := by
      rw [← kinds_withNodes found b.stack b.root]
      exact congrArg (fun c : List Frame × Array Node => c.1.map Frame.kind) hcontent
    rw [hcollects.resolvers]
    refine fits_congr hkinds ⟨(throughout_append.1 hregular).2, fun hstack hmem => ?_,
      fun hstack => (throughout_append.1 (hunnested hstack)).2⟩
    refine henclosed hstack ?_
    rw [parentsNearAll_append]
    exact List.mem_append_right _ hmem
  · obtain hold | hnew := hcollects.names name hmem
    · exact hfresh name (List.mem_append_right _ hname) hold
    · exact (List.nodup_append.1 hdistinct).2.2 name hnew name hname rfl

/-! ## Open tags -/

/-- The first builder has opened a frame, in which the second one has finished
these bodies. -/
structure Opened (b b' : Builder) (frame : Frame) (bodies : List (List Node)) : Prop where
  resolvers : b'.resolvers = b.resolvers
  extended : b'.extended = b.extended
  stack : b'.stack = frame :: b.stack
  root : b'.root = b.root
  names : ∀ name ∈ b'.blockNames, name ∈ b.blockNames ∨
    name ∈ frame.kind.blockName?.toList ++ bodies.flatMap Node.blockNames

/-- A frame is opened where its tag is taken without an error. -/
theorem opened_addOpening (b : Builder) (tag : String) (span : Span) (position : Position)
    (kind : FrameKind) (problems : List Problem) :
    b.Opened (b.addOpening tag span position (.frame kind, problems))
      ⟨tag, span.start, position, kind, #[]⟩ [] := by
  cases kind with
  | block name =>
    refine ⟨rfl, rfl, rfl, rfl, fun other hother => ?_⟩
    obtain rfl | hother := List.mem_cons.1 hother
    · exact .inr List.mem_cons_self
    · exact .inl hother
  | _ => exact ⟨rfl, rfl, rfl, rfl, fun _ hname => .inl hname⟩

/-- What is collected in a frame is its next body. -/
theorem Opened.collect {frame : Frame} {bodies : List (List Node)}
    (h : b.Opened b' frame bodies) (hempty : frame.children = #[])
    (hcollects : b'.Collects b'' nodes) :
    ∃ found, Alike found nodes ∧
      b.Opened b'' { frame with children := found.toArray } (bodies ++ [nodes]) := by
  obtain ⟨found, halike, hcontent⟩ := hcollects.content
  rw [content, content, h.stack, withNodes, hempty] at hcontent
  obtain ⟨hstack, hroot⟩ := Prod.mk.inj hcontent
  refine ⟨found, halike, hcollects.resolvers.trans h.resolvers,
    hcollects.extended.trans h.extended, by simpa using hstack, hroot.trans h.root,
    fun name hname => ?_⟩
  have := hcollects.names name hname
  have := h.names name
  simp only [List.flatMap_append, List.mem_append, List.flatMap_cons, List.flatMap_nil,
    List.append_nil] at this ⊢
  tauto

/-- The next body of a node is ready in the frame that was opened for it. -/
theorem Ready.body {frame : Frame} {before after : List (List Node)} {body : List Node}
    (h : b.Ready [node]) (hopened : b.Opened b' frame before)
    (hbodies : node.bodies = before ++ body :: after)
    (hname : frame.kind.blockName? = node.definition?.map Prod.fst)
    (hmessage : frame.kind.isMessage = node.isMessage) : b'.Ready body := by
  have hbody : body ∈ node.bodies := by simp [hbodies]
  obtain ⟨hregular, hregulars⟩ := throughout_singleton.1 h.fits.regular
  have hdistinct := h.distinct
  have hfresh := h.fresh
  rw [blockNames_singleton, hbodies, ← hname, List.flatMap_append, List.flatMap_cons,
    ← List.append_assoc, ← List.append_assoc] at hdistinct hfresh
  refine ⟨⟨hopened.resolvers ▸ hregulars body hbody, fun hblock hmem => ?_, fun hstack => ?_⟩,
    (throughout_singleton.1 h.writable).2 body hbody,
    (throughout_singleton.1 h.statement).2 body hbody,
    fun hext => (throughout_singleton.1 (h.parents (hopened.extended ▸ hext))).2 body hbody,
    (List.nodup_append.1 (List.nodup_append.1 hdistinct).1).2.1, fun name hmem hlist => ?_⟩
  · rw [hopened.stack, List.any_cons, Bool.or_eq_false_iff] at hblock
    refine h.fits.enclosed hblock.2 ?_
    rw [parentsNearAll, parentsNearAll, List.append_nil]
    obtain ⟨s, p, n, own, rfl⟩ | ⟨s, p, rfl⟩ | ⟨s, p, t, rfl⟩ | hplain :=
      combining_or_ordinary node
    · -- a block is read in the frame of a block
      obtain ⟨tag, start, position, kind, children⟩ := frame
      cases kind with
      | block name => cases hblock.1
      | _ => cases hname
    · cases hbody
    · cases hbody
    · rw [parentsNear_of_ordinary hplain]
      exact List.mem_flatMap_of_mem hbody hmem
  · rw [hopened.stack, List.any_cons, Bool.or_eq_true] at hstack
    obtain hown | houter := hstack
    · rw [hmessage] at hown
      cases node with
      | message span position role own =>
        obtain rfl := List.mem_singleton.1 hbody
        exact hregular.2
      | _ => cases hown
    · exact (throughout_singleton.1 (h.fits.unnested houter)).2 body hbody
  · have hown : name ∉ frame.kind.blockName?.toList ++ before.flatMap Node.blockNames :=
      fun hbefore => (List.nodup_append.1 (List.nodup_append.1 hdistinct).1).2.2 name hbefore
        name hmem rfl
    obtain hold | hnew := hopened.names name hlist
    · exact hfresh name (List.mem_append_left _ (List.mem_append_right _ hmem)) hold
    · exact hown hnew

/-! ## Nodes -/

/-- The tokens of what the nodes are written as are taken without an error, and
the nodes are collected. -/
def Builds (nodes : List Node) : Prop :=
  ∀ b tokens, Ready b nodes → tokens.map Token.piece = piecesAll nodes →
    ∃ b', TakesAll b tokens b' ∧ b.Collects b' nodes

theorem TakesAll.append {xs ys : List Token} (h : TakesAll b xs b') (h' : TakesAll b' ys b'') :
    TakesAll b (xs ++ ys) b'' := by
  induction h with
  | nil => exact h'
  | cons htakes _ ih => exact .cons htakes (ih h')

/-- A tag with a node of its own adds one like that node. -/
theorem takes_of_opens_node {shape : TagShape} {tag : String} {attrs : Attributes} {token : Token}
    {found : Node} (hpiece : token.piece = .opening shape tag attrs)
    (hopens : b.Opens attrs token.span token.position shape tag (.node found))
    (halike : Alike [found] [node]) :
    ∃ b', TakesAll b [token] b' ∧ b.Collects b' [node] := by
  obtain ⟨piece, span, position⟩ := token
  obtain rfl : piece = _ := hpiece
  generalize hproblems : (b.opening shape tag attrs span position).2 = problems
  have hcollects := collects_addNode halike (b.report problems position tag) position
  refine ⟨_, .cons (.opening hopens) .nil, ?_⟩
  rw [hproblems]
  exact ⟨hcollects.resolvers, hcollects.extended, hcollects.names, hcollects.filled,
    hcollects.content⟩

/-- **A frame is finished** with the last body of its node. -/
theorem Opened.finish {frame : Frame} {before : List (List Node)} {last : List Node}
    {tokens : List Token} (h : b.Opened b' frame before) (hready : b.Ready [node])
    (hbodies : node.bodies = before ++ [last]) (hempty : frame.children = #[])
    (hmakes : frame.kind.Makes frame.tag last node) (hbuilds : Builds last)
    (htokens : tokens.map Token.piece = piecesAll last ++ [.closing frame.tag]) :
    ∃ b'', TakesAll b' tokens b'' ∧ b.Collects b'' [node] := by
  obtain ⟨inner, closing, rfl, hinner, hclosing⟩ := List.map_eq_append_iff.1 htokens
  obtain ⟨⟨piece, span, position⟩, rfl, rfl⟩ := List.map_eq_singleton_iff.1 hclosing
  obtain ⟨b₁, htakes, hcollects⟩ :=
    hbuilds b' inner (hready.body h hbodies hmakes.name hmakes.message) hinner
  obtain ⟨children, halike, hopened⟩ := h.collect hempty hcollects
  obtain ⟨found, hfound, hsame⟩ := hmakes.node frame.start frame.position children.toArray
    b₁.source ⟨frame.start, span.stop⟩ halike
  refine ⟨_, htakes.append (.cons (.close hopened.stack rfl) .nil), ?_⟩
  -- the node is added where the frame was opened
  have hclosed : b₁.closeFrame span.stop =
      { b₁ with stack := b.stack }.addNode found frame.position := by
    rw [closeFrame, hopened.stack]
    simp only [hfound]
  have hadded := collects_addNode hsame { b₁ with stack := b.stack } frame.position
  rw [hclosed]
  refine ⟨hadded.resolvers.trans hopened.resolvers, hadded.extended.trans hopened.extended,
    fun name hname => ?_, fun _ => .inr ⟨node, List.mem_singleton_self node, ?_⟩,
    [found], hsame, ?_⟩
  · rw [blockNames_addNode] at hname
    rw [blockNames_singleton, hbodies, ← hmakes.name]
    exact hopened.names name hname
  · cases node <;> first | rfl | simp [Node.bodies] at hbodies
  · rw [content_addNode, content, content]
    simp only [hopened.root]

/-- A node with one body is built from its two tags and what stands between
them. -/
theorem builds_around {tag : String} {attrs : Attributes} {last : List Node}
    {tokens : List Token} (hready : b.Ready [node]) (hbodies : node.bodies = [last])
    (hbuilds : Builds last)
    (hopens : ∀ span position, ∃ kind, b.Opens attrs span position .block tag (.frame kind) ∧
      kind.Makes tag last node)
    (htokens : tokens.map Token.piece =
      .opening .block tag attrs :: (piecesAll last ++ [.closing tag])) :
    ∃ b', TakesAll b tokens b' ∧ b.Collects b' [node] := by
  obtain ⟨⟨piece, span, position⟩, rest, rfl, rfl, hrest⟩ := List.map_eq_cons_iff.1 htokens
  obtain ⟨kind, hopen, hmakes⟩ := hopens span position
  obtain ⟨b', htakes, hcollects⟩ :=
    (opened_addOpening b tag span position kind _).finish hready hbodies rfl hmakes hbuilds hrest
  exact ⟨b', .cons (.opening hopen) htakes, hcollects⟩

/-- The info of a tag is that of the node it is written for. -/
theorem relocate_infoOf {attrs : Attributes} {info : NodeInfo} (h : attrs.Handle info)
    (b : Builder) (span : Span) (position : Position) :
    (b.infoOf attrs span position).1.relocate .nowhere = info.relocate .nowhere := by
  simp only [infoOf, h.strategy, h.fallback]
  rfl

theorem harmless_of_handle {attrs : Attributes} {info : NodeInfo} (h : attrs.Handle info) :
    Harmless (strategyOf attrs).2 := by
  rw [h.strategy]
  exact harmless_nil

/-! ## Branches -/

section Choice

variable {info info' : NodeInfo} {done done' : List Branch}

/-- A choice without a last body ends with its last branch. -/
theorem makes_choice (hinfo : info'.relocate .nowhere = info.relocate .nowhere)
    (hdone : done'.map (Branch.relocate .nowhere) = done.map (Branch.relocate .nowhere))
    (place : Position) (branch : Branch) :
    (FrameKind.choice info' done' (some ⟨place, branch.source, branch.condition⟩)).Makes Tag.ifTag
      branch.body (.choice info (done ++ [branch]) none) := by
  refine ⟨rfl, rfl, fun start position children source span hbody => ?_⟩
  obtain ⟨old, written, condition, body⟩ := branch
  have hlast : relocateAll .nowhere children.toList = relocateAll .nowhere body := hbody
  refine ⟨_, rfl, alike_singleton.2 ?_⟩
  rw [relocate_choice, relocate_choice, List.map_append, List.map_append, hdone]
  simp only [List.map_cons, List.map_nil, Branch.relocate, hlast, Branch.source,
    Branch.condition, Option.map_none]
  congr 1

/-- A choice with a last body ends with it. -/
theorem makes_choice_otherwise (hinfo : info'.relocate .nowhere = info.relocate .nowhere)
    (hdone : done'.map (Branch.relocate .nowhere) = done.map (Branch.relocate .nowhere))
    (last : List Node) :
    (FrameKind.choice info' done' none).Makes Tag.ifTag last (.choice info done (some last)) := by
  refine ⟨rfl, rfl, fun start position children source span hbody => ?_⟩
  refine ⟨_, rfl, alike_singleton.2 ?_⟩
  rw [relocate_choice, relocate_choice, hdone, Option.map_some, Option.map_some, hbody]
  congr 1

variable {branches rest : List Branch} {branch : Branch} {otherwise : Option (List Node)}
  {start : Nat} {position place : Position} {tokens : List Token}

theorem bodies_choice (info : NodeInfo) (branches : List Branch)
    (otherwise : Option (List Node)) :
    (Node.choice info branches otherwise).bodies =
      branches.map Branch.body ++ otherwise.toList := by
  cases otherwise <;> simp [Node.bodies]

/-- A branch that has been begun ends with its body, and another one or the
last body can begin. -/
theorem Opened.nextBranch (hready : b.Ready [.choice info branches otherwise])
    (hbuilds : ∀ body ∈ (Node.choice info branches otherwise).bodies, Builds body)
    (hbranches : branches = done ++ branch :: rest)
    (hdone : done'.map (Branch.relocate .nowhere) = done.map (Branch.relocate .nowhere))
    (h : b.Opened b' ⟨Tag.ifTag, start, position,
      .choice info' done' (some ⟨place, branch.source, branch.condition⟩), #[]⟩
      (done.map Branch.body))
    (htokens : tokens.map Token.piece = piecesAll branch.body) :
    ∃ b₁ frame ended, TakesAll b' tokens b₁ ∧ b₁.stack = frame :: b.stack ∧
      frame.kind = .choice info' done' (some ⟨place, branch.source, branch.condition⟩) ∧
      (done' ++ [ended]).map (Branch.relocate .nowhere) =
        (done ++ [branch]).map (Branch.relocate .nowhere) ∧
      ∀ next, b.Opened
        (b₁.nextBranch frame b.stack info' done' ⟨place, branch.source, branch.condition⟩ next)
        ⟨Tag.ifTag, start, position, .choice info' (done' ++ [ended]) next, #[]⟩
        ((done ++ [branch]).map Branch.body) := by
  have hbodies : (Node.choice info branches otherwise).bodies =
      done.map Branch.body ++ branch.body :: (rest.map Branch.body ++ otherwise.toList) := by
    rw [bodies_choice, hbranches]
    simp
  obtain ⟨b₁, htakes, hcollects⟩ := hbuilds branch.body (by simp [hbodies]) b' tokens
    (hready.body h hbodies rfl rfl) htokens
  obtain ⟨found, halike, hopened⟩ := h.collect rfl hcollects
  refine ⟨b₁, _, .mk place branch.source branch.condition found, htakes, hopened.stack, rfl, ?_,
    fun next => ?_⟩
  · obtain ⟨old, source, condition, body⟩ := branch
    have hbody : relocateAll .nowhere found = relocateAll .nowhere body := halike
    rw [List.map_append, List.map_append, hdone]
    simp only [List.map_cons, List.map_nil, Branch.relocate, hbody]
    rfl
  · rw [List.map_append]
    exact ⟨hopened.resolvers, hopened.extended, rfl, hopened.root, hopened.names⟩

/-- **The branches of a choice are built** one after another, from any one that
has been begun. -/
theorem Opened.choice (hready : b.Ready [.choice info branches otherwise])
    (hbuilds : ∀ body ∈ (Node.choice info branches otherwise).bodies, Builds body)
    (hinfo : info'.relocate .nowhere = info.relocate .nowhere)
    (hbranches : branches = done ++ branch :: rest)
    (hdone : done'.map (Branch.relocate .nowhere) = done.map (Branch.relocate .nowhere))
    (h : b.Opened b' ⟨Tag.ifTag, start, position,
      .choice info' done' (some ⟨place, branch.source, branch.condition⟩), #[]⟩
      (done.map Branch.body))
    (htokens : tokens.map Token.piece = piecesAll branch.body ++
      (piecesBranches Tag.elseIfTag [] rest ++
        (piecesOtherwise otherwise ++ [.closing Tag.ifTag]))) :
    ∃ b'', TakesAll b' tokens b'' ∧ b.Collects b'' [.choice info branches otherwise] := by
  induction rest generalizing b' done done' branch place tokens with
  | nil =>
    rw [piecesBranches, List.nil_append] at htokens
    cases otherwise with
    | none =>
      subst hbranches
      refine h.finish hready ?_ rfl (makes_choice hinfo hdone place branch) ?_ htokens
      · simp [Node.bodies]
      · exact hbuilds _ (by simp [Node.bodies])
    | some last =>
      obtain ⟨first, tail, rfl, hfirst, htail⟩ := List.map_eq_append_iff.1 htokens
      obtain ⟨⟨piece, span, site⟩, final, rfl, rfl, hfinal⟩ := List.map_eq_cons_iff.1 htail
      obtain ⟨b₁, frame, ended, htakes, hstack, hkind, hdone', hnext⟩ :=
        h.nextBranch hready hbuilds hbranches hdone hfirst
      subst hbranches
      obtain ⟨b₂, hmore, hcollects⟩ := (hnext none).finish hready rfl rfl
        (makes_choice_otherwise hinfo hdone' last) (hbuilds last (by simp [Node.bodies])) hfinal
      exact ⟨b₂, htakes.append (.cons (.otherwise hstack hkind) hmore), hcollects⟩
  | cons next rest ih =>
    obtain ⟨first, tail, rfl, hfirst, htail⟩ := List.map_eq_append_iff.1 htokens
    obtain ⟨b₁, frame, ended, htakes, hstack, hkind, hdone', hnext⟩ :=
      h.nextBranch hready hbuilds hbranches hdone hfirst
    have hregular := (throughout_singleton.1 hready.fits.regular).1
    have hwritable := (throughout_singleton.1 hready.writable).1
    have hmem : next ∈ branches := by simp [hbranches]
    have hcondition := hregular.2 next hmem
    have hsource : Attributes.filled? ⟨[("eval", next.source)]⟩ "eval" = some next.source :=
      Attributes.filled?_of_get? rfl (hwritable next hmem)
    obtain ⟨old, source, condition, body⟩ := next
    rw [piecesBranches, List.cons_append, List.append_assoc] at htail
    obtain ⟨⟨piece, span, site⟩, final, rfl, rfl, hfinal⟩ := List.map_eq_cons_iff.1 htail
    have hlater : branches = (done ++ [branch]) ++ .mk old source condition body :: rest := by
      rw [hbranches, List.append_assoc]
      rfl
    obtain ⟨b₂, hmore, hcollects⟩ := ih hlater hdone' (hnext _) hfinal
    exact ⟨b₂, htakes.append (.cons (.elseIf hstack hkind hsource hcondition) hmore), hcollects⟩

end Choice

/-- **A node is built** where its bodies are. -/
theorem exists_collects_node {tokens : List Token} (hready : b.Ready [node])
    (hbuilds : ∀ body ∈ node.bodies, Builds body)
    (htokens : tokens.map Token.piece = pieces node) :
    ∃ b', TakesAll b tokens b' ∧ b.Collects b' [node] := by
  have hregular := (throughout_singleton.1 hready.fits.regular).1
  have hwritable := (throughout_singleton.1 hready.writable).1
  cases node with
  | text span body =>
    obtain ⟨⟨piece, span, position⟩, rfl, rfl⟩ := List.map_eq_singleton_iff.1 htokens
    refine ⟨_, .cons .text .nil, collects_addNode (alike_singleton.2 ?_) _ _⟩
    rfl
  | comment span body =>
    obtain ⟨⟨piece, span, position⟩, rfl, rfl⟩ := List.map_eq_singleton_iff.1 htokens
    refine ⟨_, .cons .comment .nil, collects_addNode (alike_singleton.2 ?_) _ _⟩
    rfl
  | var info path =>
    obtain ⟨token, rfl, hpiece⟩ := List.map_eq_singleton_iff.1 htokens
    have hhandle : (info.attributes [("name", path)]).Handle info :=
      NodeInfo.handle_attributes rfl rfl
    have hpath : (info.attributes [("name", path)]).filled? "name" = some path :=
      Attributes.filled?_of_get? rfl hregular
    refine takes_of_opens_node hpiece (.var (harmless_of_handle hhandle) hpath)
      (alike_singleton.2 ?_)
    rw [relocate, relocate, relocate_infoOf hhandle]
  | tag info name attrs =>
    obtain ⟨token, rfl, hpiece⟩ := List.map_eq_singleton_iff.1 htokens
    obtain ⟨-, -, hhandle⟩ := hwritable
    refine takes_of_opens_node hpiece (.tag (harmless_of_handle hhandle) hregular.1 hregular.2)
      (alike_singleton.2 ?_)
    rw [relocate, relocate, relocate_infoOf hhandle]
  | inclusion info template data =>
    obtain ⟨token, rfl, hpiece⟩ := List.map_eq_singleton_iff.1 htokens
    generalize hattrs : info.attributes
      (("template", template) :: (data.map fun path => ("with", path)).toList) = attrs at hpiece
    have hhandle : attrs.Handle info := by
      rw [← hattrs]
      cases data <;> exact NodeInfo.handle_attributes rfl rfl
    have htemplate : attrs.filled? "template" = some template :=
      Attributes.filled?_of_get? (hattrs ▸ rfl) hregular
    have hdata : attrs.get? "with" = data := by
      rw [← hattrs, NodeInfo.get?_attributes (by decide) (by decide)]
      cases data <;> rfl
    refine takes_of_opens_node hpiece (.inclusion (harmless_of_handle hhandle) htemplate)
      (alike_singleton.2 ?_)
    rw [relocate, relocate, relocate_infoOf hhandle, hdata]
  | extending span position template =>
    cases (throughout_singleton.1 hready.statement).1
  | parent span position =>
    obtain ⟨token, rfl, hpiece⟩ := List.map_eq_singleton_iff.1 htokens
    have hinside : b.stack.any (·.kind.isBlock) = true := by
      rw [← Bool.not_eq_false]
      exact fun houtside => hready.fits.enclosed houtside List.mem_cons_self
    have hextended : b.extended = true := by
      rw [← Bool.not_eq_false]
      intro hnone
      cases (throughout_singleton.1 (hready.parents hnone)).1
    exact takes_of_opens_node hpiece (.parent hinside hextended) (alike_singleton.2 rfl)
  | blockTag info name attrs body =>
    obtain ⟨-, -, hhandle⟩ := hwritable
    refine builds_around hready rfl (hbuilds body List.mem_cons_self) (fun span position => ?_)
      htokens
    refine ⟨_, .blockTag (harmless_of_handle hhandle) hregular.1 hregular.2, rfl, rfl, ?_⟩
    intro start place children source whole hbody
    refine ⟨_, rfl, alike_singleton.2 ?_⟩
    rw [relocate, relocate, hbody]
    congr 1
    exact relocate_infoOf hhandle b span position
  | loop info head body =>
    generalize hattrs : info.attributes head.attributes = attrs
    have hhandle : attrs.Handle info := hattrs ▸ head.handle_attributes info
    have hget : ∀ {name}, name ≠ "onerror" → name ≠ "default" →
        attrs.get? name = head.attributes.lookup name :=
      fun hstrategy hfallback => hattrs ▸ NodeInfo.get?_attributes hstrategy hfallback
    obtain ⟨hlimit, hharmless⟩ := LoopHead.limitOf_attributes hwritable info
    have hitem : attrs.filled? "item" = some head.item :=
      Attributes.filled?_of_get? (by rw [hget (by decide) (by decide), head.lookup_item]) hregular.1
    have hsource : attrs.filled? "in" = some head.source :=
      Attributes.filled?_of_get? (by rw [hget (by decide) (by decide), head.lookup_in]) hregular.2
    rw [hattrs] at hlimit hharmless
    refine builds_around hready rfl (hbuilds body List.mem_cons_self) (fun span position => ?_)
      (by rw [htokens, pieces, hattrs])
    refine ⟨_, .loop (harmless_of_handle hhandle) hitem hsource hharmless, rfl, rfl, ?_⟩
    intro start place children source whole hbody
    refine ⟨_, rfl, alike_singleton.2 ?_⟩
    rw [relocate, relocate, hbody, hlimit, hget (by decide) (by decide), head.lookup_index]
    congr 1
    exact relocate_infoOf hhandle b span position
  | block span position name body =>
    have hname : Attributes.filled? ⟨[("name", name)]⟩ "name" = some name :=
      Attributes.filled?_of_get? rfl hregular
    have hfresh := hready.fresh name (by rw [blockNames_singleton]; exact List.mem_cons_self)
    refine builds_around hready rfl (hbuilds body List.mem_cons_self) (fun span position => ?_)
      htokens
    refine ⟨_, .block harmless_nil hname hfresh, rfl, rfl, ?_⟩
    intro start place children source whole hbody
    refine ⟨_, rfl, alike_singleton.2 ?_⟩
    rw [relocate, relocate, hbody]
    rfl
  | message span position role body =>
    obtain ⟨hknown, -⟩ := hregular
    have hblank : Text.isBlankText role = false := by
      have hall : messageRoles.all (!Text.isBlankText ·) = true := by decide
      simpa using List.all_eq_true.1 hall role hknown
    have hrole : Attributes.filled? ⟨[("role", role)]⟩ "role" = some role :=
      Attributes.filled?_of_get? rfl hblank
    have houtside : b.stack.any (·.kind.isMessage) = false := by
      rw [← Bool.not_eq_true]
      intro hinside
      cases (throughout_singleton.1 (hready.fits.unnested hinside)).1
    refine builds_around hready rfl (hbuilds body List.mem_cons_self) (fun span position => ?_)
      htokens
    refine ⟨_, .message harmless_nil hrole hknown houtside, rfl, rfl, ?_⟩
    intro start place children source whole hbody
    refine ⟨_, rfl, alike_singleton.2 ?_⟩
    rw [relocate, relocate, hbody]
    rfl
  | choice info branches otherwise =>
    obtain ⟨hne, hconditions⟩ := hregular
    obtain ⟨⟨old, source, condition, body⟩, rest, rfl⟩ := List.exists_cons_of_ne_nil hne
    rw [pieces_choice, piecesBranches, List.cons_append, List.append_assoc] at htokens
    obtain ⟨⟨piece, span, position⟩, more, rfl, rfl, hmore⟩ := List.map_eq_cons_iff.1 htokens
    generalize hattrs : (⟨("eval", source) :: info.handling⟩ : Attributes) = attrs
    have hhandle : attrs.Handle info := by
      have := @NodeInfo.handle_attributes info [("eval", source)] rfl rfl
      rwa [NodeInfo.attributes, List.singleton_append, hattrs] at this
    have hsource : attrs.filled? "eval" = some source :=
      Attributes.filled?_of_get? (hattrs ▸ rfl) (hwritable _ List.mem_cons_self)
    have hcondition : Expr.parse source = .ok condition := hconditions _ List.mem_cons_self
    have hfirst : Branch.mk old source condition body :: rest =
        [] ++ .mk old source condition body :: rest := rfl
    obtain ⟨b', htakes, hcollects⟩ := (opened_addOpening b Tag.ifTag span position _ _).choice
      hready hbuilds (relocate_infoOf hhandle b span position) hfirst rfl hmore
    have hopens : b.Opens attrs span position .block Tag.ifTag _ :=
      .choice (harmless_of_handle hhandle) hsource hcondition
    exact ⟨b', .cons (.opening hopens) htakes, hcollects⟩

/-- **Nodes are built from what they are written as.** -/
theorem builds (nodes : List Node) : Builds nodes := by
  induction nodes using inductionAll with
  | nil =>
    intro b tokens _ htokens
    obtain rfl := List.map_eq_nil_iff.1 htokens
    exact ⟨b, .nil, collects_nil b⟩
  | cons node rest inside ih =>
    intro b tokens hready htokens
    rw [piecesAll] at htokens
    rw [← List.singleton_append] at hready ⊢
    obtain ⟨first, later, rfl, hfirst, hlater⟩ := List.map_eq_append_iff.1 htokens
    obtain ⟨b₁, htakes, hcollects⟩ := exists_collects_node hready.left inside hfirst
    obtain ⟨b₂, hmore, hrest⟩ := ih b₁ later (hready.right hcollects) hlater
    exact ⟨b₂, htakes.append hmore, hcollects.trans hrest⟩

/-- Outside all tags what is collected stands behind what was there. -/
theorem Collects.root (h : b.Collects b' nodes) (hstack : b.stack = []) :
    b'.stack = [] ∧ ∃ found, Alike found nodes ∧ b'.root.toList = b.root.toList ++ found := by
  obtain ⟨found, halike, hcontent⟩ := h.content
  rw [Builder.content, Builder.content, hstack, withNodes] at hcontent
  obtain ⟨hstack', hroot⟩ := Prod.mk.inj hcontent
  exact ⟨hstack', found, halike, by simp [hroot]⟩

theorem bodies_of_isBlank (h : node.isBlank = true) : node.bodies = [] := by
  cases node <;> first | rfl | cases h

/-- Blanks hold nothing. -/
theorem throughout_of_blank {Q : Node → Prop} (hblank : ∀ node ∈ nodes, node.isBlank = true)
    (h : ∀ node, node.isBlank = true → Q node) : Throughout Q nodes := by
  intro inner hinner
  obtain ⟨node, hnode, rfl | ⟨body, hbody, -⟩⟩ := mem_withinAll_iff.1 hinner
  · exact h inner (hblank inner hnode)
  · rw [bodies_of_isBlank (hblank node hnode)] at hbody
    cases hbody

/-- Outside all tags the rules for a tree make its nodes ready. -/
theorem ready_of_root {rs : Resolvers} (hresolvers : b.resolvers = rs) (hstack : b.stack = [])
    (hregular : Throughout (Node.Regular rs) nodes) (henclosed : none ∉ parentsNearAll none nodes)
    (hwritable : Throughout Writable nodes) (hstatement : NoExtending nodes)
    (hparents : b.extended = false → Throughout (·.isParent = false) nodes)
    (hdistinct : (Node.blockNames nodes).Nodup)
    (hfresh : ∀ name ∈ Node.blockNames nodes, name ∉ b.blockNames) : b.Ready nodes := by
  refine ⟨⟨hresolvers ▸ hregular, fun _ => henclosed, fun hmessage => ?_⟩, hwritable, hstatement,
    hparents, hdistinct, hfresh⟩
  rw [hstack] at hmessage
  cases hmessage

section Sources

variable {rs : Resolvers} {tokens : List Token} {source : String}

/-- A template that extends no other is built like any nodes. -/
theorem exists_takesAll_of_noExtending (hregular : Throughout (Node.Regular rs) nodes)
    (henclosed : none ∉ parentsNearAll none nodes) (hwritable : Throughout Writable nodes)
    (hstatement : NoExtending nodes) (hparents : Throughout (·.isParent = false) nodes)
    (hdistinct : (Node.blockNames nodes).Nodup)
    (htokens : tokens.map Token.piece = piecesAll nodes) :
    ∃ b, TakesAll (start rs source) tokens b ∧ b.stack = [] ∧ Alike b.root.toList nodes := by
  have hready : (start rs source).Ready nodes := ready_of_root rfl rfl hregular henclosed hwritable
    hstatement (fun _ => hparents) hdistinct fun _ _ => List.not_mem_nil
  obtain ⟨b, htakes, hcollects⟩ := builds nodes _ tokens hready htokens
  obtain ⟨hstack, found, halike, hroot⟩ := hcollects.root rfl
  exact ⟨b, htakes, hstack, hroot ▸ halike⟩

/-- A template that extends another has been said to before its content is
built. -/
theorem exists_takesAll_of_extending {before after : List Node} {span : Span}
    {position : Position} {template : String}
    (hnodes : nodes = before ++ .extending span position template :: after)
    (hblank : ∀ node ∈ before, node.isBlank = true) (hafter : NoExtending after)
    (hregular : Throughout (Node.Regular rs) nodes) (henclosed : none ∉ parentsNearAll none nodes)
    (hwritable : Throughout Writable nodes) (hdistinct : (Node.blockNames nodes).Nodup)
    (htokens : tokens.map Token.piece = piecesAll nodes) :
    ∃ b, TakesAll (start rs source) tokens b ∧ b.stack = [] ∧ Alike b.root.toList nodes := by
  subst hnodes
  rw [piecesAll_append, piecesAll, pieces] at htokens
  obtain ⟨first, tail, rfl, hfirst, htail⟩ := List.map_eq_append_iff.1 htokens
  obtain ⟨⟨piece, place, site⟩, later, rfl, rfl, hlater⟩ := List.map_eq_cons_iff.1 htail
  obtain ⟨hregularBefore, hregularRest⟩ := throughout_append.1 hregular
  obtain ⟨⟨htemplate, -⟩, hregularAfter⟩ := throughout_cons.1 hregularRest
  obtain ⟨hwritableBefore, hwritableRest⟩ := throughout_append.1 hwritable
  have hwritableAfter := (throughout_cons.1 hwritableRest).2
  rw [parentsNearAll_append, List.mem_append, not_or] at henclosed
  rw [blockNames_append] at hdistinct
  obtain ⟨hdistinctBefore, hdistinctAfter, hapart⟩ := List.nodup_append.1 hdistinct
  have hplain : ∀ node : Node, node.isBlank = true →
      node.isExtending = false ∧ node.isParent = false := by
    intro node h
    cases node <;> first | exact ⟨rfl, rfl⟩ | cases h
  have hready : (start rs source).Ready before := ready_of_root rfl rfl hregularBefore henclosed.1
    hwritableBefore (throughout_of_blank hblank fun node h => (hplain node h).1)
    (fun _ => throughout_of_blank hblank fun node h => (hplain node h).2)
    hdistinctBefore fun _ _ => List.not_mem_nil
  obtain ⟨b₁, htakes, hcollects⟩ := builds before _ first hready hfirst
  obtain ⟨hstack, found, halike, hroot⟩ := hcollects.root rfl
  have hunfilled : b₁.rootFilled = false := by
    rw [← Bool.not_eq_true]
    intro hfilled
    obtain hstart | ⟨node, hnode, hnot⟩ := hcollects.filled hfilled
    · cases hstart
    · rw [hblank node hnode] at hnot
      cases hnot
  -- the statement comes behind blanks alone
  have hsource : Attributes.filled? ⟨[("template", template)]⟩ "template" = some template :=
    Attributes.filled?_of_get? rfl htemplate
  let b₂ := { b₁ with extended := true, root := b₁.root.push (.extending place site template) }
  have hstatement : Takes b₁ ⟨.opening .selfClosing Tag.extendsTag ⟨[("template", template)]⟩,
      place, site⟩ b₂ := .extending hsource hcollects.extended hstack hunfilled
  have hreadyAfter : b₂.Ready after := by
    refine ready_of_root hcollects.resolvers hstack hregularAfter ?_ hwritableAfter hafter ?_
      ?_ fun name hname hmem => ?_
    · exact fun hmem => henclosed.2 hmem
    · rintro ⟨⟩
    · exact hdistinctAfter
    · obtain hstart | hbefore := hcollects.names name hmem
      · cases hstart
      · exact hapart name hbefore name hname rfl
  obtain ⟨b₃, htakes', hcollects'⟩ := builds after b₂ later hreadyAfter hlater
  obtain ⟨hstack', found', halike', hroot'⟩ := hcollects'.root hstack
  refine ⟨b₃, htakes.append (.cons hstatement htakes'), hstack', ?_⟩
  have hall : b₃.root.toList = found ++ ([.extending place site template] ++ found') := by
    rw [hroot', Array.toList_push, hroot, List.append_assoc]
    rfl
  rw [hall, ← List.singleton_append]
  exact halike.append (Alike.append (alike_singleton.2 rfl) halike')

/-- **A tree that keeps the rules is built** from what it is written as. -/
theorem exists_takesAll_of_regular {tree : Tree} (hregular : tree.Regular rs)
    (hwritable : Throughout Writable tree.nodes)
    (htokens : tokens.map Token.piece = piecesAll tree.nodes) :
    ∃ b, TakesAll (start rs source) tokens b ∧ b.stack = [] ∧
      Alike b.root.toList tree.nodes := by
  obtain ⟨hstatement, henclosed, hinherited, hdistinct, hfields⟩ := hregular
  obtain hnone | ⟨before, span, position, template, after, hnodes, hblank, hafter⟩ := hstatement
  · refine exists_takesAll_of_noExtending hfields henclosed hwritable hnone (fun node hnode => ?_)
      hdistinct htokens
    by_contra hparent
    obtain ⟨other, hother, hext⟩ := hinherited ⟨node, hnode, by simpa using hparent⟩
    rw [hnone other hother] at hext
    cases hext
  · exact exists_takesAll_of_extending hnodes hblank hafter hfields henclosed hwritable hdistinct
      htokens

end Sources

end Builder

/-! ## Sources -/

/-- The trees have one name and the same nodes, up to where they stand and to
the source text they keep. -/
structure Tree.Alike (tree tree' : Tree) : Prop where
  name : tree.name = tree'.name
  nodes : Node.Alike tree.nodes tree'.nodes

open Builder in
/-- **A tree that keeps the rules is read again** from what it is written as. -/
theorem Template.parse_written {rs : Resolvers} {tree : Tree} (hregular : tree.Regular rs)
    (hwritable : Throughout Writable tree.nodes)
    (happart : (piecesAll tree.nodes).IsChain Piece.Apart) :
    ∃ t, Template.parse .standard rs tree.name tree.written = .ok t ∧ t.tree.Alike tree := by
  obtain ⟨tokens, hread, hpieces⟩ :=
    Token.read_written (writable_piecesAll hregular.regular hwritable) happart
  obtain ⟨b, htakes, hstack, halike⟩ :=
    Builder.exists_takesAll_of_regular hregular hwritable hpieces
  exact ⟨_, Template.parse_eq_ok_iff.2 ⟨tokens, b, hread, htakes, hstack, rfl⟩, rfl, halike⟩

namespace Sample

/-- What a node carries that has no place yet. -/
def unplaced (strategy : Option Strategy) (fallback : Option String) : NodeInfo :=
  ⟨⟨0, 0⟩, .origin, "", strategy, fallback⟩

/-- A turn that is added to a dialogue. Its texts, values and its comment have
in them what ends or escapes something. -/
def turn : Tree where
  name := "turn"
  nodes := [
    .comment ⟨0, 0⟩ "by \x7b~ and ~\x7d",
    .text ⟨0, 0⟩ "\n",
    .extending ⟨0, 0⟩ .origin "opening",
    .block ⟨0, 0⟩ .origin "turns" [
      .parent ⟨0, 0⟩ .origin,
      .message ⟨0, 0⟩ .origin "user" [
        .text ⟨0, 0⟩ "a tag \\\x7b~ is \x7b~ x ~\x7d",
        .choice (unplaced (some .log) none) [
            .mk .origin "items" (.path "items") [
              .loop (unplaced none none) ⟨"i", some "n", "items", some 12⟩ [
                .var (unplaced (some .fallback) (some "\"none\"\\")) "i"]],
            .mk .origin "!x" (.not (.path "x")) []]
          (some [
            .tag (unplaced (some .remove) none) "prompty.env"
              ⟨[("name", "TEXT"), ("onerror", " Remove")]⟩,
            .inclusion (unplaced none (some "")) "part" (some "items")])]],
    .blockTag (unplaced none none) "note" ⟨[("to:", "all")]⟩ [.text ⟨0, 0⟩ "\x7b"],
    .text ⟨0, 0⟩ "the end\\"]

/-- It keeps the rules. -/
theorem regular_turn : turn.Regular .builtin where
  statement := .inr ⟨[.comment ⟨0, 0⟩ "by \x7b~ and ~\x7d", .text ⟨0, 0⟩ "\n"], _, _, _, _, rfl,
    List.all_eq_true.1 (by decide), List.forall_iff_forall_mem.1 (by decide)⟩
  enclosed := by decide
  inherited _ := ⟨.extending ⟨0, 0⟩ .origin "opening", mem_withinAll_of_mem (by simp [turn]), rfl⟩
  distinct := by decide
  regular := by
    have henv : Resolvers.builtin.Accept .selfClosing "prompty.env"
        ⟨[("name", "TEXT"), ("onerror", " Remove")]⟩ := by
      rintro r ⟨⟩
      exact ⟨rfl, rfl⟩
    -- no resolver is asked about it
    have hnote : Resolvers.builtin.Accept .block "note" ⟨[("to:", "all")]⟩ := by
      rintro r ⟨⟩
    have hitems : Expr.parse "items" = .ok (.path "items") := by with_unfolding_all rfl
    have hnot : Expr.parse "!x" = .ok (.not (.path "x")) := by with_unfolding_all rfl
    have hnames : "prompty.env" ∉ Tag.structural ∧ "note" ∉ Tag.structural := by decide
    have hfields : ["opening", "turns", "items", "i", "part"].map Text.isBlankText =
        [false, false, false, false, false] := by decide
    simp only [List.map_cons, List.cons.injEq] at hfields
    simp [turn, throughout_cons, throughout_nil, Node.Regular, Node.bodies, Branch.body,
      Branch.source, Branch.condition, Node.isMessage, messageRoles, henv, hnote, hitems, hnot,
      hnames, hfields]

/-- And it can be written. -/
theorem writable_turn : Throughout Writable turn.nodes := by
  have hcomment : Writable (.comment ⟨0, 0⟩ "by \x7b~ and ~\x7d") :=
    Token.not_closes_of_notMem (by decide)
  have henv : Writable (.tag (unplaced (some .remove) none) "prompty.env"
      ⟨[("name", "TEXT"), ("onerror", " Remove")]⟩) :=
    ⟨by decide, ⟨List.forall_iff_forall_mem.1 (by decide), by decide⟩, rfl, rfl⟩
  have hnote : Writable (.blockTag (unplaced none none) "note" ⟨[("to:", "all")]⟩
      [.text ⟨0, 0⟩ "\x7b"]) :=
    ⟨by decide, ⟨List.forall_iff_forall_mem.1 (by decide), by decide⟩, rfl, rfl⟩
  have hconditions : Text.isBlankText "items" = false ∧ Text.isBlankText "!x" = false := by decide
  simp only [turn, throughout_cons, throughout_nil, Node.bodies, Branch.body, List.map_cons,
    List.map_nil, List.cons_append, List.nil_append, List.forall_mem_cons, hcomment, henv, hnote]
  simp [Node.Writable, Branch.source, hconditions]

/-- It is written as this source, which is read as the tree again. -/
theorem parse_written_turn :
    turn.written = tagged "prompty.comment" ++ "by \x7b~ and ~\x7d" ++ tagged "/prompty.comment" ++
        "\n" ++ tagged "prompty.extends template=\"opening\" /" ++
        tagged "prompty.block name=\"turns\"" ++ tagged "prompty.parent /" ++
        tagged "prompty.message role=\"user\"" ++ "a tag \\\\\x7b~ is \\\x7b~ x ~\x7d" ++
        tagged "prompty.if eval=\"items\" onerror=\"log\"" ++
        tagged "prompty.for item=\"i\" index=\"n\" in=\"items\" limit=\"12\"" ++
        tagged
          "prompty.var name=\"i\" onerror=\"default\" default=\"\\\"none\\\"\\\\\" /" ++
        tagged "/prompty.for" ++ tagged "prompty.elseif eval=\"!x\"" ++ tagged "prompty.else" ++
        tagged "prompty.env name=\"TEXT\" onerror=\" Remove\" /" ++
        tagged "prompty.include template=\"part\" with=\"items\" default=\"\" /" ++
        tagged "/prompty.if" ++ tagged "/prompty.message" ++ tagged "/prompty.block" ++
        tagged "note to:=\"all\"" ++ "\x7b" ++ tagged "/note" ++ "the end\\" ∧
      ∃ t, Template.parse .standard .builtin "turn" turn.written = .ok t ∧ t.tree.Alike turn := by
  refine ⟨by decide +kernel, @Template.parse_written .builtin turn regular_turn writable_turn ?_⟩
  simp only [turn, piecesAll, pieces, piecesBranches, List.cons_append, List.nil_append,
    List.append_nil, List.isChain_cons_cons, List.isChain_singleton, Piece.Apart, and_true,
    true_and]
  decide

end Sample

end PromptMarkup
