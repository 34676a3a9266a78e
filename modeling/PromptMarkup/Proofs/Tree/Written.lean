import PromptMarkup.Proofs.Text.Numeral
import PromptMarkup.Proofs.Token.Written
import PromptMarkup.Proofs.Tree.Regular
/-!
# Tree — how a tree is written

A tree is written as a sequence of pieces (`Node.pieces`): a text and a
comment as what they are, a leaf as a tag complete in itself, and a node with
bodies as an opening tag, the pieces of its bodies and a closing tag. The
attributes of a tag are the fields of its node. What the node keeps of its
strategy and its default stands behind them (`NodeInfo.attributes`), and is
found there again.

Where every node can be written (`Node.Writable`) every piece can
(`writable_piecesAll`).
-/

namespace PromptMarkup

open Text

/-! ## Pieces -/

/-- The attributes that say what is done when a node fails. -/
def NodeInfo.handling (info : NodeInfo) : List (String × String) :=
  (info.strategy.map fun strategy => ("onerror", strategy.name)).toList ++
    (info.fallback.map fun text => ("default", text)).toList

/-- The attributes of a node that can fail, behind its own ones. -/
def NodeInfo.attributes (info : NodeInfo) (own : List (String × String)) : Attributes :=
  ⟨own ++ info.handling⟩

/-- What a loop binds and what it runs over. -/
def LoopHead.attributes (head : LoopHead) : List (String × String) :=
  ("item", head.item) :: (head.index.map fun name => ("index", name)).toList ++
    ("in", head.source) :: (head.limit.map fun n => ("limit", toString n)).toList

namespace Node

mutual

/-- The pieces that a node is written as. -/
def pieces : Node → List Piece
  | .text _ body => [.text body]
  | .comment _ body => [.comment body]
  | .var info path => [.opening .selfClosing Tag.var (info.attributes [("name", path)])]
  | .tag _ name attrs => [.opening .selfClosing name attrs]
  | .blockTag _ name attrs body =>
    .opening .block name attrs :: (piecesAll body ++ [.closing name])
  | .choice info branches none =>
    piecesBranches Tag.ifTag info.handling branches ++ [.closing Tag.ifTag]
  | .choice info branches (some body) =>
    piecesBranches Tag.ifTag info.handling branches ++
      .opening .block Tag.elseTag .empty :: (piecesAll body ++ [.closing Tag.ifTag])
  | .loop info head body =>
    .opening .block Tag.forTag (info.attributes head.attributes) ::
      (piecesAll body ++ [.closing Tag.forTag])
  | .inclusion info template data =>
    [.opening .selfClosing Tag.includeTag (info.attributes
      (("template", template) :: (data.map fun path => ("with", path)).toList))]
  | .extending _ _ template =>
    [.opening .selfClosing Tag.extendsTag ⟨[("template", template)]⟩]
  | .block _ _ name body =>
    .opening .block Tag.block ⟨[("name", name)]⟩ :: (piecesAll body ++ [.closing Tag.block])
  | .parent _ _ => [.opening .selfClosing Tag.parent .empty]
  | .message _ _ role body =>
    .opening .block Tag.message ⟨[("role", role)]⟩ :: (piecesAll body ++ [.closing Tag.message])

/-- The pieces of nodes one after another. -/
def piecesAll : List Node → List Piece
  | [] => []
  | node :: rest => pieces node ++ piecesAll rest

/-- The pieces of branches, each behind its condition. The first one has the
tag of the choice and says what is done when the choice fails. -/
def piecesBranches (tag : String) (handling : List (String × String)) :
    List Branch → List Piece
  | [] => []
  | .mk _ source _ body :: rest =>
    .opening .block tag ⟨("eval", source) :: handling⟩ ::
      (piecesAll body ++ piecesBranches Tag.elseIfTag [] rest)

end

theorem piecesAll_append (xs ys : List Node) :
    piecesAll (xs ++ ys) = piecesAll xs ++ piecesAll ys := by
  induction xs with
  | nil => rfl
  | cons node rest ih => rw [List.cons_append, piecesAll, piecesAll, ih, List.append_assoc]

/-- The pieces of the last body of a choice, behind its tag. -/
def piecesOtherwise : Option (List Node) → List Piece
  | none => []
  | some body => .opening .block Tag.elseTag .empty :: piecesAll body

theorem pieces_choice (info : NodeInfo) (branches : List Branch) (otherwise : Option (List Node)) :
    pieces (.choice info branches otherwise) =
      piecesBranches Tag.ifTag info.handling branches ++
        (piecesOtherwise otherwise ++ [.closing Tag.ifTag]) := by
  cases otherwise <;> simp [pieces, piecesOtherwise]

end Node

namespace Tree

/-- The source that a tree is written as. -/
def written (tree : Tree) : String :=
  String.ofList (Piece.writtenAll .standard (Node.piecesAll tree.nodes))

end Tree

/-! ## Fields and attributes -/

/-- The attributes say what is done when the node fails. -/
structure Attributes.Handle (attrs : Attributes) (info : NodeInfo) : Prop where
  strategy : Builder.strategyOf attrs = (info.strategy, [])
  fallback : attrs.get? "default" = info.fallback

namespace NodeInfo

variable {info : NodeInfo} {own : List (String × String)} {name : String}

theorem lookup_handling (hstrategy : name ≠ "onerror") (hfallback : name ≠ "default") :
    info.handling.lookup name = none := by
  obtain ⟨span, position, raw, strategy, fallback⟩ := info
  cases strategy <;> cases fallback <;>
    simp [handling, List.lookup_cons, beq_eq_false_iff_ne.2 hstrategy,
      beq_eq_false_iff_ne.2 hfallback]

/-- An attribute of another name is one of the node's own. -/
theorem get?_attributes (hstrategy : name ≠ "onerror") (hfallback : name ≠ "default") :
    (info.attributes own).get? name = own.lookup name := by
  rw [attributes, Attributes.get?, List.lookup_append, lookup_handling hstrategy hfallback,
    Option.or_none]

/-- **What a node keeps is found again** behind attributes of other names. -/
theorem handle_attributes (hstrategy : own.lookup "onerror" = none)
    (hfallback : own.lookup "default" = none) : (info.attributes own).Handle info := by
  obtain ⟨span, position, raw, strategy, fallback⟩ := info
  have hread : ∀ s : Strategy, Strategy.read s.name = .ok s := by
    intro s
    cases s <;> rfl
  constructor
  · rw [Builder.strategyOf, attributes, Attributes.get?, List.lookup_append, hstrategy]
    cases strategy <;> cases fallback <;> simp [handling, List.lookup_cons, hread]
  · rw [attributes, Attributes.get?, List.lookup_append, hfallback]
    cases strategy <;> cases fallback <;> simp [handling, List.lookup_cons]

end NodeInfo

/-- A field that is not blank fills its attribute. -/
theorem Attributes.filled?_of_get? {attrs : Attributes} {name value : String}
    (hget : attrs.get? name = some value) (hblank : isBlankText value = false) :
    attrs.filled? name = some value := by
  simp [filled?, hget, hblank]

namespace LoopHead

variable (head : LoopHead)

@[simp] theorem lookup_item : head.attributes.lookup "item" = some head.item := rfl

@[simp] theorem lookup_index : head.attributes.lookup "index" = head.index := by
  obtain ⟨item, index, source, limit⟩ := head
  cases index <;> cases limit <;> rfl

@[simp] theorem lookup_in : head.attributes.lookup "in" = some head.source := by
  obtain ⟨item, index, source, limit⟩ := head
  cases index <;> rfl

@[simp] theorem lookup_limit : head.attributes.lookup "limit" = head.limit.map toString := by
  obtain ⟨item, index, source, limit⟩ := head
  cases index <;> cases limit <;> rfl

theorem handle_attributes (info : NodeInfo) : (info.attributes head.attributes).Handle info := by
  obtain ⟨item, index, source, limit⟩ := head
  cases index <;> cases limit <;> exact NodeInfo.handle_attributes rfl rfl

/-- The limit of a loop is read as it was. -/
theorem limitOf_attributes {head : LoopHead} (h : ∀ n ∈ head.limit, n < 2 ^ 64)
    (info : NodeInfo) :
    (Builder.limitOf (info.attributes head.attributes)).1 = head.limit ∧
      Harmless (Builder.limitOf (info.attributes head.attributes)).2 := by
  rw [Builder.limitOf, NodeInfo.get?_attributes (by decide) (by decide), lookup_limit]
  cases hlimit : head.limit with
  | none => simp [Problem.severity]
  | some n =>
    simp only [Option.map_some, nat64?_toString (h n hlimit), harmless_nil, and_self]

end LoopHead

/-! ## What can be written -/

namespace Node

/-- The fields of a node that its source has to carry: a text is not empty, a
comment does not end before its end, a resolver's tag can be read and says what
its node does when it fails, and a limit is a number of the machine. -/
def Writable : Node → Prop
  | .text _ body => body ≠ ""
  | .comment _ body => ¬ Token.Closes .standard Token.commentTag body.toList
  | .tag info name attrs | .blockTag info name attrs _ =>
    Token.isTagName name = true ∧ attrs.Writable ∧ attrs.Handle info
  | .choice _ branches _ => ∀ branch ∈ branches, isBlankText branch.source = false
  | .loop _ head _ => ∀ n ∈ head.limit, n < 2 ^ 64
  | .var .. | .inclusion .. | .extending .. | .block .. | .parent .. | .message .. => True

end Node

/-- Attributes whose names are among these can be written. -/
theorem Attributes.writable_of_sublist {attrs : Attributes} (names : List String)
    (h : (attrs.entries.map Prod.fst).Sublist names)
    (hnames : names.all Token.isAttributeName = true) (hdistinct : names.Nodup) :
    attrs.Writable :=
  ⟨fun _ hentry => List.all_eq_true.1 hnames _ (h.subset (List.mem_map_of_mem hentry)),
    hdistinct.sublist h⟩

namespace NodeInfo

theorem sublist_handling (info : NodeInfo) :
    (info.handling.map Prod.fst).Sublist ["onerror", "default"] := by
  obtain ⟨span, position, raw, strategy, fallback⟩ := info
  cases strategy <;> cases fallback <;> simp [handling]

/-- So can those of a node that can fail. -/
theorem writable_attributes {info : NodeInfo} {own : List (String × String)}
    (names : List String) (h : (own.map Prod.fst).Sublist names)
    (hnames : (names ++ ["onerror", "default"]).all Token.isAttributeName = true)
    (hdistinct : (names ++ ["onerror", "default"]).Nodup) :
    (info.attributes own).Writable := by
  refine Attributes.writable_of_sublist _ ?_ hnames hdistinct
  rw [attributes, List.map_append]
  exact h.append info.sublist_handling

end NodeInfo

theorem LoopHead.sublist_attributes (head : LoopHead) :
    (head.attributes.map Prod.fst).Sublist ["item", "index", "in", "limit"] := by
  obtain ⟨item, index, source, limit⟩ := head
  cases index <;> cases limit <;> simp [attributes]

namespace Node

/-- What holds of the tags of branches and of the pieces in them holds of their
pieces. -/
theorem forall_piecesBranches {P : Piece → Prop} {tag : String}
    {handling : List (String × String)} {branches : List Branch}
    (hfirst : ∀ source, P (.opening .block tag ⟨("eval", source) :: handling⟩))
    (hnext : ∀ source, P (.opening .block Tag.elseIfTag ⟨[("eval", source)]⟩))
    (hbodies : ∀ body ∈ branches.map Branch.body, ∀ p ∈ piecesAll body, P p) :
    ∀ p ∈ piecesBranches tag handling branches, P p := by
  induction branches generalizing tag handling with
  | nil => exact List.forall_mem_nil _
  | cons branch rest ih =>
    obtain ⟨position, source, condition, body⟩ := branch
    obtain ⟨hbody, hrest⟩ := List.forall_mem_cons.1 hbodies
    rw [piecesBranches, List.forall_mem_cons, List.forall_mem_append]
    exact ⟨hfirst source, hbody, ih hnext hrest⟩

/-- And what holds of a tag and of what it is written around holds of all
pieces of its node. -/
theorem forall_around {P : Piece → Prop} {first last : Piece} {inner : List Piece}
    (hfirst : P first) (hinner : ∀ p ∈ inner, P p) (hlast : P last) :
    ∀ p ∈ first :: (inner ++ [last]), P p := by
  rw [List.forall_mem_cons, List.forall_mem_append, List.forall_mem_singleton]
  exact ⟨hfirst, hinner, hlast⟩

/-- **Every piece of nodes that can be written** can be written. -/
theorem writable_piecesAll {rs : Resolvers} {nodes : List Node}
    (hregular : Throughout (Regular rs) nodes) (hwritable : Throughout Writable nodes) :
    ∀ p ∈ piecesAll nodes, p.Writable .standard := by
  induction nodes using inductionAll with
  | nil => exact List.forall_mem_nil _
  | cons node rest inside ih =>
    obtain ⟨⟨hown, hbodies⟩, hrest⟩ := throughout_cons.1 hwritable
    obtain ⟨⟨hfields, hregulars⟩, hregularRest⟩ := throughout_cons.1 hregular
    have hinside : ∀ body ∈ node.bodies, ∀ p ∈ piecesAll body, p.Writable .standard :=
      fun body hbody => inside body hbody (hregulars body hbody) (hbodies body hbody)
    rw [piecesAll, List.forall_mem_append]
    refine ⟨?_, ih hregularRest hrest⟩
    have hsingle : ∀ name value : String, Token.isAttributeName name = true →
        Attributes.Writable ⟨[(name, value)]⟩ := fun name value hname =>
      Attributes.writable_of_sublist [name] (List.Sublist.refl _) (by simpa using hname)
        (List.nodup_singleton name)
    have hempty : Attributes.Writable .empty := ⟨List.forall_mem_nil _, List.nodup_nil⟩
    have hclosing : ∀ {name}, Token.isTagName name = true →
        (Piece.closing name).Writable .standard := id
    -- a resolver's tag is no verbatim one
    have hother : ∀ {shape name attrs}, name ∉ Tag.structural → Token.isTagName name = true →
        attrs.Writable → (Piece.opening shape name attrs).Writable .standard := by
      intro shape name attrs hname htag hattrs
      refine ⟨htag, ?_, ?_, hattrs⟩ <;> rintro rfl <;> exact hname (by decide)
    cases node with
    | text span body => exact List.forall_mem_singleton.2 hown
    | comment span body => exact List.forall_mem_singleton.2 hown
    | var info path =>
      refine List.forall_mem_singleton.2 ⟨by decide, by decide, by decide, ?_⟩
      exact NodeInfo.writable_attributes ["name"] (List.Sublist.refl _) (by decide) (by decide)
    | tag info name attrs =>
      exact List.forall_mem_singleton.2 (hother hfields.1 hown.1 hown.2.1)
    | blockTag info name attrs body =>
      exact forall_around (hother hfields.1 hown.1 hown.2.1)
        (hinside body List.mem_cons_self) (hclosing hown.1)
    | choice info branches otherwise =>
      have hhandling : ∀ source, Attributes.Writable ⟨("eval", source) :: info.handling⟩ :=
        fun source => @NodeInfo.writable_attributes info [("eval", source)] ["eval"]
          (List.Sublist.refl _) (by decide) (by decide)
      have hbranches : ∀ p ∈ piecesBranches Tag.ifTag info.handling branches,
          p.Writable .standard := by
        refine forall_piecesBranches (fun source => ?_) (fun source => ?_) fun body hbody =>
          hinside body (mem_bodies_choice.2 (.inl hbody))
        · exact ⟨by decide, by decide, by decide, hhandling source⟩
        · exact ⟨by decide, by decide, by decide, hsingle "eval" source (by decide)⟩
      cases otherwise with
      | none =>
        rw [pieces, List.forall_mem_append, List.forall_mem_singleton]
        exact ⟨hbranches, hclosing (by decide)⟩
      | some body =>
        rw [pieces, List.forall_mem_append]
        exact ⟨hbranches, forall_around ⟨by decide, by decide, by decide, hempty⟩
          (hinside body (mem_bodies_choice.2 (.inr rfl))) (hclosing (by decide))⟩
    | loop info head body =>
      refine forall_around ⟨by decide, by decide, by decide, ?_⟩
        (hinside body List.mem_cons_self) (hclosing (by decide))
      exact NodeInfo.writable_attributes _ head.sublist_attributes (by decide) (by decide)
    | inclusion info template data =>
      refine List.forall_mem_singleton.2 ⟨by decide, by decide, by decide, ?_⟩
      refine NodeInfo.writable_attributes ["template", "with"] ?_ (by decide) (by decide)
      cases data <;> simp
    | extending span position template =>
      exact List.forall_mem_singleton.2
        ⟨by decide, by decide, by decide, hsingle "template" _ (by decide)⟩
    | block span position name body =>
      exact forall_around ⟨by decide, by decide, by decide, hsingle "name" _ (by decide)⟩
        (hinside body List.mem_cons_self) (hclosing (by decide))
    | parent span position =>
      exact List.forall_mem_singleton.2 ⟨by decide, by decide, by decide, hempty⟩
    | message span position role body =>
      exact forall_around ⟨by decide, by decide, by decide, hsingle "role" _ (by decide)⟩
        (hinside body List.mem_cons_self) (hclosing (by decide))

end Node

end PromptMarkup
