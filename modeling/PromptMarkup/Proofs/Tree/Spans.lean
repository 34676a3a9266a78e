import PromptMarkup.Proofs.Token.Spans
import PromptMarkup.Proofs.Tree.Kept
import PromptMarkup.Proofs.Tree.Reading
/-!
# Tree — nodes stand in their source

The marks of a tree name the bytes where its tokens begin and end, and these
grow from one mark to the next because the tokens stand one behind the other
(`Mark.pairwise_ends`). Every node begins and ends with the first and the last
byte that its marks name, and those of its bodies come in between
(`Node.ends_marks`). So a node's span holds the spans of the nodes in it, and
these follow one another; it covers the node from its opening tag to its own
closing tag (`Node.holds_of_run`). And the source that a node keeps is what its
span covers (`Builder.Takes.keepsRaw`).
-/

namespace PromptMarkup

open Text Node

/-! ## The bytes that marks name -/

namespace Mark

/-- The bytes where the mark's token begins and ends, if they are known. -/
def ends (mark : Mark) : List Nat :=
  mark.start.toList ++ mark.stop.toList

theorem Of.ends_sublist {mark : Mark} {token : Token} (h : mark.Of token) :
    mark.ends.Sublist [token.span.start, token.span.stop] := by
  obtain ⟨kind, start, stop⟩ := mark
  obtain ⟨-, hstart, hstop⟩ := h
  cases start <;> cases stop <;> simp_all [ends]

theorem Of.single {kind : Piece.Kind} {span : Span} {token : Token}
    (h : (Mark.single kind span).Of token) : token.span = span := by
  obtain ⟨piece, ⟨start, stop⟩, position⟩ := token
  obtain rfl : start = _ := h.start _ rfl
  obtain rfl : stop = _ := h.stop _ rfl
  rfl

/-- **Marks of tokens that follow one another** name bytes that grow. -/
theorem pairwise_ends {marks : List Mark} {tokens : List Token} (h : List.Forall₂ Of marks tokens)
    (hforward : ∀ token ∈ tokens, token.span.start ≤ token.span.stop)
    (horder : tokens.Pairwise (·.span.stop ≤ ·.span.start)) :
    (marks.flatMap ends).Pairwise (· ≤ ·) := by
  have hsub : (marks.flatMap ends).Sublist
      (tokens.flatMap fun token => [token.span.start, token.span.stop]) := by
    clear hforward horder
    induction h with
    | nil => exact .slnil
    | cons hmark _ ih => exact hmark.ends_sublist.append ih
  refine List.Pairwise.sublist hsub (List.pairwise_flatMap.2 ⟨fun token htoken => ?_, ?_⟩)
  · simpa using hforward token htoken
  · refine horder.imp_of_mem fun ha hb hab => ?_
    have := hforward _ ha
    have := hforward _ hb
    simp only [List.mem_cons, List.not_mem_nil, or_false]
    rintro _ (rfl | rfl) _ (rfl | rfl) <;> omega

/-- Marks that are read one after another stand for tokens that do. -/
theorem of_append {xs ys : List Mark} {tokens : List Token}
    (h : List.Forall₂ Of (xs ++ ys) tokens) :
    ∃ us vs, tokens = us ++ vs ∧ List.Forall₂ Of xs us ∧ List.Forall₂ Of ys vs := by
  induction xs generalizing tokens with
  | nil => exact ⟨[], tokens, rfl, .nil, h⟩
  | cons mark xs ih =>
    obtain ⟨token, rest, hmark, hrest, rfl⟩ := List.forall₂_cons_left_iff.1 h
    obtain ⟨us, vs, rfl, hus, hvs⟩ := ih hrest
    exact ⟨token :: us, vs, rfl, .cons hmark hus, hvs⟩

theorem of_infix {part marks : List Mark} {tokens : List Token} (h : List.Forall₂ Of marks tokens)
    (hpart : part <:+: marks) : ∃ run, run <:+: tokens ∧ List.Forall₂ Of part run := by
  obtain ⟨before, after, rfl⟩ := hpart
  obtain ⟨us, vs, rfl, hus, -⟩ := of_append h
  obtain ⟨us, run, rfl, -, hrun⟩ := of_append hus
  exact ⟨run, List.infix_append _ _ _, hrun⟩

end Mark

namespace Node

/-- The bytes where the nodes of a sequence and the tags in them begin and
end. -/
def endsAll (nodes : List Node) : List Nat :=
  (marksAll nodes).flatMap Mark.ends

/-- Further branches begin with marks that name no bytes. -/
theorem ends_marksBranches (branches : List Branch) :
    ∀ before : List Mark, before.flatMap Mark.ends = [] →
      (marksBranches before branches).flatMap Mark.ends =
        endsAll (branches.map Branch.body).flatten := by
  induction branches with
  | nil => intro _ _; rfl
  | cons branch rest ih =>
    obtain ⟨position, source, condition, body⟩ := branch
    intro before hbefore
    rw [marksBranches, List.flatMap_append, List.flatMap_append, hbefore, ih _ rfl]
    simp [Branch.body, endsAll]

/-- **A node begins and ends with its span**, around its bodies. -/
theorem ends_marks (node : Node) : node.marks.flatMap Mark.ends =
    node.span.start :: (endsAll node.bodies.flatten ++ [node.span.stop]) := by
  have haround : ∀ tag span inner, (Mark.around tag span inner).flatMap Mark.ends =
      span.start :: (inner.flatMap Mark.ends ++ [span.stop]) := by
    intro tag span inner
    simp [Mark.around, Mark.opens, Mark.closes, Mark.ends]
  cases node with
  | choice info branches otherwise =>
    cases otherwise with
    | none =>
      rw [marks, haround, ends_marksBranches branches [] rfl]
      rfl
    | some body =>
      rw [marks, haround, List.flatMap_append, ends_marksBranches branches [] rfl]
      simp [bodies, endsAll, Mark.branch, Mark.ends, span]
  | blockTag | loop | block | message => simp [marks, haround, bodies, endsAll, Node.span]
  | _ => rfl

theorem span_mem_endsAll {node : Node} {nodes : List Node} (h : node ∈ nodes) :
    node.span.start ∈ endsAll nodes ∧ node.span.stop ∈ endsAll nodes := by
  obtain ⟨before, after, rfl⟩ := List.append_of_mem h
  simp [endsAll, ends_marks]

/-- Where the bytes grow, the nodes of a sequence follow one another. -/
theorem pairwise_of_ends {nodes : List Node} (h : (endsAll nodes).Pairwise (· ≤ ·)) :
    nodes.Pairwise (·.span.stop ≤ ·.span.start) := by
  induction nodes with
  | nil => exact .nil
  | cons node rest ih =>
    have hcons : endsAll (node :: rest) = node.marks.flatMap Mark.ends ++ endsAll rest := by
      simp [endsAll]
    rw [hcons, List.pairwise_append] at h
    obtain ⟨-, hrest, hbefore⟩ := h
    refine .cons (fun later hlater => ?_) (ih hrest)
    exact hbefore _ (by simp [ends_marks]) _ (span_mem_endsAll hlater).1

/-! ## The tokens of a node -/

theorem marksAll_infix_of_mem_branches {branches : List Branch} {branch : Branch}
    (h : branch ∈ branches) :
    ∀ before, marksAll branch.body <:+: marksBranches before branches := by
  induction branches with
  | nil => exact absurd h List.not_mem_nil
  | cons first rest ih =>
    obtain ⟨position, source, condition, body⟩ := first
    intro before
    rw [marksBranches]
    rcases List.mem_cons.1 h with rfl | h
    · exact List.infix_append' _ _ _
    · rw [← List.append_assoc]
      exact (ih h _).trans (List.suffix_append _ _).isInfix

/-- A body is read in its node without a break. -/
theorem marksAll_infix_marks {node : Node} {body : List Node} (h : body ∈ node.bodies) :
    marksAll body <:+: node.marks := by
  have haround : ∀ {inner tag span}, marksAll body <:+: inner →
      marksAll body <:+: Mark.around tag span inner := by
    intro inner tag span hinner
    exact hinner.trans ⟨[.opens tag span.start], [.closes tag span.stop], rfl⟩
  cases node with
  | choice info branches otherwise =>
    cases otherwise with
    | none =>
      obtain ⟨branch, hbranch, rfl⟩ := List.mem_map.1 h
      exact haround (marksAll_infix_of_mem_branches hbranch [])
    | some last =>
      rcases List.mem_append.1 h with h | h
      · obtain ⟨branch, hbranch, rfl⟩ := List.mem_map.1 h
        exact haround ((marksAll_infix_of_mem_branches hbranch []).trans
          (List.prefix_append _ _).isInfix)
      · obtain rfl := List.mem_singleton.1 h
        exact haround ((List.suffix_cons _ _).isInfix.trans (List.suffix_append _ _).isInfix)
  | blockTag | loop | block | message =>
    obtain rfl := List.mem_singleton.1 h
    exact haround List.infix_rfl
  | _ => exact absurd h List.not_mem_nil

/-- So is every node of a sequence, at any depth. -/
theorem infix_of_within {node : Node} {nodes : List Node} (h : node ∈ withinAll nodes) :
    node.marks <:+: marksAll nodes := by
  induction nodes using inductionAll with
  | nil => exact absurd h List.not_mem_nil
  | cons first rest inside ih =>
    rw [marksAll_cons]
    rcases List.mem_append.1 h with h | h
    · refine List.IsInfix.trans ?_ (List.prefix_append _ _).isInfix
      rw [within_eq] at h
      rcases List.mem_cons.1 h with rfl | h
      · exact List.infix_rfl
      · obtain ⟨body, hbody, h⟩ := List.mem_flatMap.1 h
        exact (inside body hbody h).trans (marksAll_infix_marks hbody)
    · exact (ih h).trans (List.suffix_append _ _).isInfix

/-- The node is a tag, and no text or comment. -/
def isTag : Node → Bool
  | .text .. | .comment .. => false
  | _ => true

/-- A node is a single token, or begins and ends with a token of its own. -/
theorem marks_shape (node : Node) :
    (∃ kind, node.marks = [.single kind node.span] ∧ kind.isTag = node.isTag) ∨
      ∃ tag inner, node.marks = Mark.around tag node.span inner := by
  cases node with
  | choice info branches otherwise => cases otherwise <;> exact .inr ⟨_, _, rfl⟩
  | blockTag | loop | block | message => exact .inr ⟨_, _, rfl⟩
  | _ => exact .inl ⟨_, rfl, rfl⟩

/-- **A node covers a text of its source**, from its opening tag to its own
closing tag. -/
theorem holds_of_run {d : Delimiters} {source : List Char} {node : Node} {run : List Token}
    (hrun : List.Forall₂ Mark.Of node.marks run) (hcut : ∀ token ∈ run, token.Cut d source)
    (horder : run.Pairwise (·.span.stop ≤ ·.span.start)) :
    ∃ body, node.span.Holds source body ∧ (node.isTag → ∃ content, body = d.around content) := by
  have hnamed : ∀ {mark : Mark} {token : Token}, mark.Of token → mark.kind.isTag →
      token.piece.tag?.isSome := fun hmark h => by
    rwa [← Piece.isTag_kind, ← hmark.kind]
  obtain ⟨kind, hmarks, htag⟩ | ⟨tag, inner, hmarks⟩ := marks_shape node
  · rw [hmarks] at hrun
    obtain ⟨token, _, hmark, -, rfl⟩ := List.forall₂_cons_left_iff.1 hrun
    obtain ⟨body, hbody, hcontent⟩ := hcut token List.mem_cons_self
    exact ⟨body, hmark.single ▸ hbody, fun h => hcontent (hnamed hmark (htag.trans h))⟩
  · rw [hmarks, Mark.around] at hrun
    obtain ⟨opener, _, hopens, hrest, rfl⟩ := List.forall₂_cons_left_iff.1 hrun
    obtain ⟨between, _, rfl, -, hlast⟩ := Mark.of_append hrest
    obtain ⟨closer, _, hcloses, hnil, rfl⟩ := List.forall₂_cons_left_iff.1 hlast
    cases hnil
    obtain ⟨u, hu, hopening⟩ := hcut opener List.mem_cons_self
    obtain ⟨v, hv, hclosing⟩ := hcut closer (by simp)
    obtain ⟨x, rfl⟩ := hopening (hnamed hopens rfl)
    obtain ⟨y, rfl⟩ := hclosing (hnamed hcloses rfl)
    -- the text from the one tag to the other has the delimiters of both
    have hle : opener.span.stop ≤ closer.span.start :=
      (List.pairwise_cons.1 horder).1 closer (by simp)
    obtain ⟨mid, hmid⟩ := hu.across hv hle
    rw [hopens.start _ rfl, hcloses.stop _ rfl] at hmid
    refine ⟨_, hmid, fun _ => ⟨x ++ d.closing.toList ++ mid ++ d.opening.toList ++ y, ?_⟩⟩
    simp only [Delimiters.around, List.append_assoc]

/-- The source that the node keeps is what its span covers. -/
def KeepsRaw (source : List Char) (node : Node) : Prop :=
  ∀ info ∈ node.info?, info.raw = node.span.slice source

end Node

/-- The node of a frame keeps the source from its opening tag to where it is
closed. -/
theorem Frame.keepsRaw_node? {frame : Frame} {source : List Char} {span : Span} {node : Node}
    (h : frame.node? source span = some node) : node.KeepsRaw source := by
  obtain ⟨tag, start, position, kind, children⟩ := frame
  cases kind with
  | choice info done current =>
    cases current <;>
      · cases h
        rintro _ ⟨⟩
        rfl
  | discard => cases h
  | loop | tag =>
    cases h
    rintro _ ⟨⟩
    rfl
  | block | message =>
    cases h
    rintro _ ⟨⟩

namespace Builder

/-! ## The source that nodes keep -/

variable {source : List Char} {b b' : Builder} {token : Token}

/-- All nodes read so far keep what their spans cover. -/
structure KeepsRaw (source : List Char) (b : Builder) : Prop where
  source_eq : b.source = source
  root : Throughout (Node.KeepsRaw source) b.root.toList
  frames : ∀ frame ∈ b.stack, ∀ body ∈ frame.bodies, Throughout (Node.KeepsRaw source) body

theorem keepsRaw_start (resolvers : Resolvers) (source : String) :
    (start resolvers source).KeepsRaw source.toList :=
  ⟨rfl, throughout_nil, List.forall_mem_nil _⟩

/-- **Every token keeps it** that what nodes keep is what they cover. -/
theorem Takes.keepsRaw (h : b.Takes token b') (hb : b.KeepsRaw source) : b'.KeepsRaw source := by
  obtain ⟨hsource, hroot, hframes⟩ := hb
  have hkeeps : b.Keeps (Node.KeepsRaw source) fun _ _ => True :=
    ⟨hroot, fun _ _ => trivial, hframes⟩
  have hleaf : ∀ node, b.Leaf token node → node.KeepsRaw source := by
    rintro node ⟨-, hread, -⟩ info hinfo
    obtain ⟨hspan, attrs, rfl⟩ := hread info hinfo
    rw [hspan, ← hsource]
    rfl
  have hkept : b'.Keeps (Node.KeepsRaw source) fun _ _ => True :=
    h.keeps hkeeps hleaf (fun _ _ => id) (fun _ _ _ _ _ _ => trivial)
      (fun _ _ _ _ _ _ _ _ _ => trivial) fun _ _ _ _ hnode => hsource ▸ Frame.keepsRaw_node? hnode
  exact ⟨h.source_eq.trans hsource, hkept.root, hkept.bodies⟩

end Builder

/-! ## Templates -/

/-- The node stands in a source that is read as these tokens. -/
structure Node.Placed (d : Delimiters) (source : List Char) (tokens : List Token)
    (node : Node) : Prop where
  /-- It is read from tokens that follow one another. Its span begins with the
  first and ends with the last of them. -/
  run : ∃ run, run <:+: tokens ∧ List.Forall₂ Mark.Of node.marks run
  start : Edge source node.span.start
  stop : Edge source node.span.stop
  forward : node.span.start ≤ node.span.stop
  inside : ∀ inner ∈ node.bodies.flatten,
    node.span.start ≤ inner.span.start ∧ inner.span.stop ≤ node.span.stop
  apart : node.bodies.flatten.Pairwise (·.span.stop ≤ ·.span.start)
  tag : node.isTag → ∃ content, node.span.slice source = String.ofList (d.around content)
  raw : node.KeepsRaw source

/-- **A node that is read from tokens of a source** stands in it. -/
theorem Node.placed_of_run {d : Delimiters} {source : List Char} {tokens run : List Token}
    {node : Node} (hcut : ∀ token ∈ tokens, token.Cut d source)
    (horder : tokens.Pairwise (·.span.stop ≤ ·.span.start)) (hpart : run <:+: tokens)
    (hrun : List.Forall₂ Mark.Of node.marks run) (hraw : node.KeepsRaw source) :
    node.Placed d source tokens := by
  have hcut' : ∀ token ∈ run, token.Cut d source := fun token h => hcut token (hpart.subset h)
  have horder' := List.Pairwise.sublist hpart.sublist horder
  have hforward : ∀ token ∈ run, token.span.start ≤ token.span.stop := fun token h =>
    (hcut' token h).choose_spec.1.start_le_stop
  obtain ⟨body, hbody, htag⟩ := holds_of_run hrun hcut' horder'
  have hends := Mark.pairwise_ends hrun hforward horder'
  rw [ends_marks, List.pairwise_cons, List.pairwise_append] at hends
  obtain ⟨hfirst, hinner, -, hlast⟩ := hends
  refine ⟨⟨run, hpart, hrun⟩, hbody.edge_start, hbody.edge_stop, hbody.start_le_stop,
    fun inner h => ?_, pairwise_of_ends hinner, fun h => ?_, hraw⟩
  · obtain ⟨hstart, hstop⟩ := span_mem_endsAll h
    exact ⟨hfirst _ (List.mem_append_left _ hstart), hlast _ hstop _ (List.mem_singleton_self _)⟩
  · obtain ⟨content, rfl⟩ := htag h
    exact ⟨content, hbody.slice_eq⟩

/-- **All nodes of an accepted template** stand in its source. -/
theorem Template.placed_of_parse {d : Delimiters} {rs : Resolvers} {name source : String}
    {t : Template} (h : Template.parse d rs name source = .ok t) :
    ∃ tokens, Token.read d source = .ok tokens ∧
      Throughout
        (Node.Placed d source.toList (tokens.filter (!·.piece.closesBranch))) t.tree.nodes ∧
      t.tree.nodes.Pairwise (·.span.stop ≤ ·.span.start) := by
  obtain ⟨tokens, hread, hmarks⟩ := of_parse_marks h
  obtain ⟨_, b, -, htakes, -, rfl⟩ := parse_eq_ok_iff.1 h
  obtain ⟨last, hlaid⟩ := Token.laid_read hread
  have hraw := htakes.keeps (fun _ _ _ htoken hb => htoken.keepsRaw hb)
    (Builder.keepsRaw_start rs source)
  have hkept : ∀ token ∈ tokens.filter (!·.piece.closesBranch), token.Cut d source.toList :=
    fun token htoken => hlaid.cut (Cursor.onward_refl _) token (List.mem_of_mem_filter htoken)
  have horder := hlaid.pairwise.filter (!·.piece.closesBranch)
  refine ⟨tokens, hread, fun node hnode => ?_, pairwise_of_ends ?_⟩
  · obtain ⟨run, hpart, hrun⟩ := Mark.of_infix hmarks (infix_of_within hnode)
    exact placed_of_run hkept horder hpart hrun (hraw.root node hnode)
  · exact Mark.pairwise_ends hmarks
      (fun token htoken => (hkept token htoken).choose_spec.1.start_le_stop) horder

end PromptMarkup
