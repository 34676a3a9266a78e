import PromptMarkup.Proofs.Token.Joined
import PromptMarkup.Proofs.Tree.Listed
/-!
# Tree — the tree of two sources put together

Where two sources are accepted, neither extends a template and they share no
name of a block, what they make put together is accepted too, and its tree is
that of the one before that of the other (`Template.parse_append`). Only the
texts that meet at the seam are one, and the places have changed
(`Node.Appended`).
-/

namespace PromptMarkup

/-- The last are the nodes of the first and then those of the second, up to
their places and to two texts that became one. -/
inductive Node.Appended : List Node → List Node → List Node → Prop
  | apart {r r' : Relocation} (hr : r.Faithful) (hr' : r'.Faithful) (xs ys : List Node) :
      Appended xs ys (relocateAll r xs ++ relocateAll r' ys)
  | merged {r r' r'' : Relocation} (hr : r.Faithful) (hr' : r'.Faithful) (hr'' : r''.Faithful)
      (xs ys : List Node) (s s' s'' : Span) (u v : String) :
      Appended (xs ++ [.text s u]) (.text s' v :: relocateAll r ys)
        (relocateAll r' xs ++ .text s'' (u ++ v) :: relocateAll r'' ys)

/-! ## Spans -/

theorem covers_refl (source : List Char) : Covers source .origin source := by
  intro span _ _
  simp [Span.relocate, Relocation.behind, Position.origin]

theorem covers_append (source more : List Char) : Covers (source ++ more) .origin source := by
  intro span hstart hstop
  have hsame : span.relocate (.behind .origin) = span := by
    simp [Span.relocate, Relocation.behind, Position.origin]
  rw [hsame, Span.slice_append hstart hstop]

theorem covers_behind (front source : List Char) :
    Covers (front ++ source) (Position.origin.advanceBy front) source := by
  intro span _ _
  have hoffset : (Position.origin.advanceBy front).offset = Text.bytes front := by
    simp [Position.origin]
  rw [Span.relocate, Relocation.behind, hoffset]
  exact Span.slice_behind front source span.start span.stop

namespace Builder

variable {rs : Resolvers} {front b : Builder} {q : Position} {source : String}
  {tokens : List Token}

theorem clean_behind : (behind front q b).Clean ↔ front.Clean ∧ b.Clean := by
  have hmapped : (behind front q b).issues.toList =
      front.issues.toList ++ b.issues.toList.map (Issue.behind q) := by
    simp [behind]
  rw [Clean, hmapped, List.forall_mem_append, List.forall_mem_map]
  rfl

@[simp] theorem blockNames_behind :
    (behind front q b).blockNames = b.blockNames ++ front.blockNames := rfl

theorem root_behind : (behind front q b).root.toList =
    front.root.toList ++ Node.relocateAll (.behind q) b.root.toList := by
  simp [behind, Node.relocateAll_eq_map]

/-- Nothing is open, and nothing has been said of a template to extend. -/
structure Closed (rs : Resolvers) (b : Builder) : Prop where
  resolvers : b.resolvers = rs
  stack : b.stack = []
  extended : b.extended = false

theorem closed_start (rs : Resolvers) (source : String) : (start rs source).Closed rs :=
  ⟨rfl, rfl, rfl⟩

theorem Closed.behind (h : b.Closed rs) : (Builder.behind front q b).Closed rs := by
  refine ⟨h.resolvers, ?_, h.extended⟩
  rw [Builder.behind, h.stack]
  rfl

theorem closed_behind_iff : (behind front q b).Closed rs ↔ b.Closed rs := by
  refine ⟨fun h => ⟨h.resolvers, ?_, h.extended⟩, Closed.behind⟩
  exact List.map_eq_nil_iff.1 h.stack

/-- Where nothing is open a source begins anew. -/
theorem Closed.behind_start (h : front.Closed rs) (q : Position) (source : String) :
    Builder.behind front q (start rs source) = front := by
  obtain ⟨source, resolvers, root, stack, issues, extended, rootFilled, ignored, names⟩ := front
  obtain ⟨rfl, rfl, rfl⟩ := h
  simp [Builder.behind, start]

/-- **A source is built behind another** that has left nothing open. -/
theorem Closed.foldl_accept (h : front.Closed rs)
    (hcovers : Covers front.source q source.toList) (hplaced : ∀ t ∈ tokens, t.Placed source.toList)
    (hfree : ∀ t ∈ tokens, t.Free front.blockNames) :
    (tokens.map (Token.relocate (.behind q))).foldl accept front =
      Builder.behind front q (tokens.foldl accept (start rs source)) := by
  have hreading : (start rs source).Reading source.toList :=
    ⟨rfl, List.forall_mem_nil _⟩
  rw [← behind_foldl_accept hcovers hreading hplaced hfree, h.behind_start]

/-- The same in the place where it was read. -/
theorem Closed.foldl_accept_origin (h : front.Closed rs)
    (hcovers : Covers front.source .origin source.toList)
    (hplaced : ∀ t ∈ tokens, t.Placed source.toList)
    (hfree : ∀ t ∈ tokens, t.Free front.blockNames) :
    tokens.foldl accept front =
      Builder.behind front .origin (tokens.foldl accept (start rs source)) := by
  rw [← h.foldl_accept hcovers hplaced hfree,
    (List.map_congr_left fun t ht => (hplaced t ht).relocate_origin).trans (List.map_id tokens)]

/-- What is known of a source that is accepted and extends nothing, of its
tokens and of what is built of them. -/
structure Plain (rs : Resolvers) (source : String) (tokens : List Token) (b : Builder) : Prop where
  placed : ∀ t ∈ tokens, t.Placed source.toList
  built : tokens.foldl accept (start rs source) = b
  clean : b.Clean
  closed : b.Closed rs
  /-- The names on the list are those of its blocks. -/
  listed : ∀ name ∈ b.blockNames, name ∈ Node.blockNames b.root.toList
  free : ∀ names, (∀ name ∈ b.blockNames, name ∉ names) → ∀ t ∈ tokens, t.Free names

/-- A template is plain that says nowhere that it extends another. -/
theorem plain_of_parse {d : Delimiters} (hd : d.Apart) {name : String} {t : Template}
    (h : Template.parse d rs name source = .ok t) (hnone : Node.NoExtending t.tree.nodes) :
    ∃ tokens b, Token.read d source = .ok tokens ∧ Plain rs source tokens b ∧
      t.tree.nodes = b.root.toList := by
  obtain ⟨tokens, b, hread, htakes, hstack, rfl⟩ := Template.parse_eq_ok_iff.1 h
  obtain ⟨-, hplaced⟩ := Token.readFrom_relocate hd hread .origin
  obtain ⟨-, hregular⟩ := htakes.regular
  have hextended : b.extended = false := by
    by_contra hext
    obtain ⟨before, span, position, template, after, hroot, -, -⟩ :=
      hregular.statement (by simpa using hext)
    have hmem : .extending span position template ∈ b.root.toList := by simp [hroot]
    exact absurd (hnone _ (Node.mem_withinAll_of_mem hmem)) (by simp [Node.isExtending])
  have hlisted : b.Listed := htakes.keeps (fun _ _ _ htake h => h.takes htake)
    ⟨List.forall_mem_nil _, List.forall_mem_nil _⟩
  refine ⟨tokens, b, hread, ⟨hplaced, htakes.foldl_eq, htakes.clean_iff.2 (clean_start rs source),
    ⟨hregular.resolvers, hstack, hextended⟩, fun n hn => ?_,
    fun names hnames => htakes.free hextended hnames⟩, rfl⟩
  have := hlisted.listed n hn
  rwa [names, hstack, List.flatMap_nil, List.append_nil] at this

/-- **Behind what has left nothing open** it is built as it is alone. -/
theorem Plain.foldl_behind (h : Plain rs source tokens b) (hfront : front.Closed rs)
    (hcovers : Covers front.source q source.toList)
    (hnames : ∀ name ∈ b.blockNames, name ∉ front.blockNames) :
    (tokens.map (Token.relocate (.behind q))).foldl accept front = behind front q b := by
  rw [hfront.foldl_accept hcovers h.placed (h.free _ hnames), h.built]

theorem Plain.foldl_origin (h : Plain rs source tokens b) (hfront : front.Closed rs)
    (hcovers : Covers front.source .origin source.toList)
    (hnames : ∀ name ∈ b.blockNames, name ∉ front.blockNames) :
    tokens.foldl accept front = behind front .origin b := by
  rw [hfront.foldl_accept_origin hcovers h.placed (h.free _ hnames), h.built]

section Text

variable {span : Span} {position : Position} {body : String}

/-- A text outside all tags opens nothing. -/
theorem Closed.addText (h : b.Closed rs) (span : Span) (body : String) (position : Position) :
    (b.addNode (.text span body) position).Closed rs := by
  rw [addNode_of_root h.stack]
  exact ⟨h.resolvers, h.stack, h.extended⟩

theorem Closed.root_addNode (h : b.Closed rs) (node : Node) (position : Position) :
    (b.addNode node position).root.toList = b.root.toList ++ [node] ∧
      (b.addNode node position).source = b.source := by
  rw [addNode_of_root h.stack]
  exact ⟨Array.toList_push, rfl⟩

theorem closed_of_addText (h : (b.addNode (.text span body) position).Closed rs) :
    b.Closed rs := by
  cases hstack : b.stack with
  | nil =>
    rw [addNode_of_root hstack] at h
    exact ⟨h.resolvers, hstack, h.extended⟩
  | cons frame outer =>
    rw [addNode_of_frame hstack] at h
    exact absurd h.stack (List.cons_ne_nil _ _)

/-- The text at the end of a source can be left off, -/
theorem Plain.dropLast (h : Plain rs source (tokens ++ [⟨.text body, span, position⟩]) b) :
    ∃ c, Plain rs source tokens c ∧ b.root.toList = c.root.toList ++ [.text span body] ∧
      b.blockNames = c.blockNames := by
  obtain ⟨hplaced, rfl, hclean, hclosed, hlisted, hfree⟩ := h
  rw [List.foldl_append, List.foldl_cons, List.foldl_nil] at hclean hclosed hlisted hfree ⊢
  generalize hc : tokens.foldl accept (start rs source) = c at hclean hclosed hlisted hfree ⊢
  have hclosed' : c.Closed rs := closed_of_addText hclosed
  obtain ⟨hroot, -⟩ := hclosed'.root_addNode (.text span body) position
  have hnames : (c.accept ⟨.text body, span, position⟩).blockNames = c.blockNames :=
    blockNames_addNode _ _
  refine ⟨c, ⟨?_, hc, clean_addNode.1 hclean, hclosed', fun name hname => ?_, ?_⟩, hroot, hnames⟩
  · exact fun t ht => hplaced t (List.mem_append_left _ ht)
  · have hmem := hlisted name (hnames ▸ hname)
    rw [accept, hroot, Node.blockNames_append] at hmem
    exact (List.mem_append.1 hmem).resolve_right List.not_mem_nil
  · rw [hnames] at hfree
    exact fun names hnot t ht => hfree names hnot t (List.mem_append_left _ ht)

/-- and so can the one at its beginning. -/
theorem Plain.tail (h : Plain rs source (⟨.text body, span, position⟩ :: tokens) b) :
    ∃ c, Plain rs source tokens c ∧
      b.root.toList = .text span body :: Node.relocateAll (.behind .origin) c.root.toList ∧
      b.blockNames = c.blockNames := by
  obtain ⟨hplaced, rfl, hclean, hclosed, hlisted, hfree⟩ := h
  have hplaced' : ∀ t ∈ tokens, t.Placed source.toList :=
    fun t ht => hplaced t (List.mem_cons_of_mem _ ht)
  have hfirst := (closed_start rs source).addText span body position
  obtain ⟨hroot, hsource⟩ := (closed_start rs source).root_addNode (.text span body) position
  have hnames : ((start rs source).addNode (.text span body) position).blockNames = [] :=
    blockNames_addNode _ _
  have hnone : ∀ t ∈ tokens,
      t.Free ((start rs source).addNode (.text span body) position).blockNames := by
    rw [hnames]
    exact fun t ht => hfree [] (fun _ _ => List.not_mem_nil) t (List.mem_cons_of_mem _ ht)
  have hbuilt := hfirst.foldl_accept_origin (hsource ▸ covers_refl source.toList) hplaced' hnone
  rw [List.foldl_cons, accept, hbuilt] at hclean hclosed hlisted hfree ⊢
  generalize hc : tokens.foldl accept (start rs source) = c at hclean hclosed hlisted hfree ⊢
  rw [blockNames_behind, hnames, List.append_nil] at hlisted hfree ⊢
  rw [root_behind, hroot] at hlisted ⊢
  refine ⟨c, ⟨hplaced', hc, (clean_behind.1 hclean).2, closed_behind_iff.1 hclosed,
    fun name hname => ?_, fun names hnot t ht => ?_⟩, rfl, rfl⟩
  · have hmem := hlisted name hname
    rw [Node.blockNames_append, Node.blockNames_relocateAll] at hmem
    exact (List.mem_append.1 hmem).resolve_left List.not_mem_nil
  · exact hfree names hnot t (List.mem_cons_of_mem _ ht)

end Text

variable {s₁ s₂ : String} {tokens₁ tokens₂ joined : List Token} {b₁ b₂ : Builder}

/-- **What is built of two sources one behind the other.** -/
theorem foldl_joined
    (hjoined : Token.Joined (Position.origin.advanceBy s₁.toList) tokens₁
      (tokens₂.map (Token.relocate (.behind (Position.origin.advanceBy s₁.toList)))) joined)
    (h₁ : Plain rs s₁ tokens₁ b₁) (h₂ : Plain rs s₂ tokens₂ b₂)
    (hnames : ∀ name ∈ b₂.blockNames, name ∉ b₁.blockNames) :
    (joined.foldl accept (start rs (s₁ ++ s₂))).Clean ∧
      (joined.foldl accept (start rs (s₁ ++ s₂))).Closed rs ∧
      Node.Appended b₁.root.toList b₂.root.toList
        (joined.foldl accept (start rs (s₁ ++ s₂))).root.toList := by
  generalize hq : Position.origin.advanceBy s₁.toList = q at hjoined
  have hsource : (start rs (s₁ ++ s₂)).source = s₁.toList ++ s₂.toList := String.toList_append
  have hfirst : Covers (start rs (s₁ ++ s₂)).source .origin s₁.toList :=
    hsource ▸ covers_append _ _
  have hsecond : Covers (start rs (s₁ ++ s₂)).source q s₂.toList :=
    hsource ▸ hq ▸ covers_behind _ _
  have hclosed := closed_start rs (s₁ ++ s₂)
  -- the first source is built from the start, whatever is left off at its end
  have hbegin : ∀ {xs c}, Plain rs s₁ xs c →
      xs.foldl accept (start rs (s₁ ++ s₂)) = behind (start rs (s₁ ++ s₂)) .origin c :=
    fun h => h.foldl_origin hclosed hfirst fun _ _ => List.not_mem_nil
  have hclean : ∀ {c : Builder}, c.Clean → (behind (start rs (s₁ ++ s₂)) .origin c).Clean :=
    fun h => clean_behind.2 ⟨clean_start _ _, h⟩
  generalize hmoved : tokens₂.map (Token.relocate (.behind q)) = moved at hjoined
  cases hjoined with
  | apart =>
    have hfront : (behind (start rs (s₁ ++ s₂)) .origin b₁).Closed rs := h₁.closed.behind
    have hbuilt := h₂.foldl_behind hfront hsecond (by simpa [start] using hnames)
    rw [List.foldl_append, hbegin h₁, ← hmoved, hbuilt, root_behind, root_behind]
    exact ⟨clean_behind.2 ⟨hclean h₁.clean, h₂.clean⟩, h₂.closed.behind,
      .apart (Relocation.faithful_behind _) (Relocation.faithful_behind _) _ _⟩
  | @merged xs ys p stop u v =>
    obtain ⟨⟨piece, span, position⟩, rest, rfl, htoken, rfl⟩ := List.map_eq_cons_iff.1 hmoved
    obtain rfl : piece = .text v := congrArg Token.piece htoken
    obtain ⟨c₁, hc₁, hroot₁, hnames₁⟩ := h₁.dropLast
    obtain ⟨c₂, hc₂, hroot₂, hnames₂⟩ := h₂.tail
    have hbefore : (behind (start rs (s₁ ++ s₂)) .origin c₁).Closed rs := hc₁.closed.behind
    have hfront := hbefore.addText ⟨p.offset, stop⟩ (u ++ v) p
    obtain ⟨hroot, hsame⟩ := hbefore.root_addNode (.text ⟨p.offset, stop⟩ (u ++ v)) p
    have hbuilt := hc₂.foldl_behind hfront (hsame ▸ hsecond)
      (by simpa [start, ← hnames₁, ← hnames₂] using hnames)
    rw [List.foldl_append, List.foldl_cons, hbegin hc₁, accept, hbuilt, root_behind, hroot,
      root_behind, hroot₁, hroot₂]
    refine ⟨clean_behind.2 ⟨clean_addNode.2 (hclean hc₁.clean), hc₂.clean⟩, hc₂.closed.behind, ?_⟩
    rw [List.append_assoc, List.singleton_append]
    exact .merged (Relocation.faithful_behind _) (Relocation.faithful_behind _)
      (Relocation.faithful_behind _) _ _ _ _ _ _ _

end Builder

/-- Where nothing is said of a parent there is none. -/
theorem Tree.parent?_eq_none {t : Tree} (h : Node.NoExtending t.nodes) : t.parent? = none := by
  by_contra hparent
  obtain ⟨node, hnode, hext⟩ :=
    exists_isExtending_of_parentOf? (Option.isSome_iff_ne_none.2 hparent)
  rw [h node (Node.mem_withinAll_of_mem hnode)] at hext
  cases hext

/-- **Two sources put together are accepted** where each of them is, if nothing
new comes about at the seam, neither extends a template and no name of a block
is in both. -/
theorem Template.parse_append {d : Delimiters} (hd : d.Apart) {rs : Resolvers}
    {name s₁ s₂ : String} {t₁ t₂ : Template} (h₁ : Template.parse d rs name s₁ = .ok t₁)
    (h₂ : Template.parse d rs name s₂ = .ok t₂) (hseam : d.Unjoined s₁.toList s₂.toList)
    (hnone₁ : Node.NoExtending t₁.tree.nodes) (hnone₂ : Node.NoExtending t₂.tree.nodes)
    (hnames : List.Disjoint (Node.blockNames t₁.tree.nodes) (Node.blockNames t₂.tree.nodes)) :
    ∃ t, Template.parse d rs name (s₁ ++ s₂) = .ok t ∧ t.tree.parent? = none ∧
      Node.Appended t₁.tree.nodes t₂.tree.nodes t.tree.nodes := by
  obtain ⟨tokens₁, b₁, hread₁, hplain₁, hnodes₁⟩ := Builder.plain_of_parse hd h₁ hnone₁
  obtain ⟨tokens₂, b₂, hread₂, hplain₂, hnodes₂⟩ := Builder.plain_of_parse hd h₂ hnone₂
  rw [hnodes₁, hnodes₂] at hnames ⊢
  obtain ⟨joined, hread, hjoined⟩ := Token.read_append hd hread₁ hread₂ hseam
  obtain ⟨hclean, hclosed, happended⟩ := Builder.foldl_joined hjoined hplain₁ hplain₂
    fun n hn₂ hn₁ => hnames (hplain₁.listed n hn₁) (hplain₂.listed n hn₂)
  have htakes := Builder.takesAll_of_clean (Token.built_of_read hread) hclean
  refine ⟨_, Template.parse_eq_ok_iff.2 ⟨joined, _, hread, htakes, hclosed.stack, rfl⟩, ?_,
    happended⟩
  have hsettled := (htakes.regular.1.settled hclosed.extended).1
  exact Tree.parent?_eq_none fun node hnode => (hsettled node hnode).2

end PromptMarkup
