import Mathlib.Data.List.Basic
import PromptMarkup.Tree.Inherit
/-!
# Tree — walking a sequence of nodes

What a node holds directly is a list of sequences (`bodies`), and what it
holds at any depth a list of nodes (`within`). `inductionAll` is the
induction that every statement about sequences of nodes is proved by, and
`replace_of_ordinary` the one equation of replacement: a node that combines
no templates keeps its place and has its bodies replaced.
-/

namespace PromptMarkup

/-- The branch with another body. -/
def Branch.mapBody (f : List Node → List Node) : Branch → Branch
  | .mk position source condition body => .mk position source condition (f body)

namespace Node

/-! ## What a node holds -/

/-- The sequences of nodes directly inside a node, in document order. -/
def bodies : Node → List (List Node)
  | .blockTag _ _ _ body | .loop _ _ body | .block _ _ _ body | .message _ _ _ body => [body]
  | .choice _ branches none => branches.map Branch.body
  | .choice _ branches (some body) => branches.map Branch.body ++ [body]
  | .text .. | .comment .. | .var .. | .tag .. | .inclusion .. | .extending .. | .parent .. => []

/-- The node with the sequences directly inside it changed. -/
def mapBodies (f : List Node → List Node) : Node → Node
  | .blockTag info name attrs body => .blockTag info name attrs (f body)
  | .loop info head body => .loop info head (f body)
  | .block span position name body => .block span position name (f body)
  | .message span position role body => .message span position role (f body)
  | .choice info branches otherwise =>
    .choice info (branches.map (·.mapBody f)) (otherwise.map f)
  | node => node

mutual

/-- A node and all nodes inside it, at any depth. -/
def within : Node → List Node
  | .blockTag info name attrs body => .blockTag info name attrs body :: withinAll body
  | .loop info head body => .loop info head body :: withinAll body
  | .block span position name body => .block span position name body :: withinAll body
  | .message span position role body => .message span position role body :: withinAll body
  | .choice info branches none => .choice info branches none :: withinBranches branches
  | .choice info branches (some body) =>
    .choice info branches (some body) :: (withinBranches branches ++ withinAll body)
  | .text span body => [.text span body]
  | .comment span body => [.comment span body]
  | .var info path => [.var info path]
  | .tag info name attrs => [.tag info name attrs]
  | .inclusion info template data => [.inclusion info template data]
  | .extending span position template => [.extending span position template]
  | .parent span position => [.parent span position]

/-- The nodes of a sequence at any depth, in document order. -/
def withinAll : List Node → List Node
  | [] => []
  | node :: rest => within node ++ withinAll rest

/-- The nodes in the bodies of branches, at any depth. -/
def withinBranches : List Branch → List Node
  | [] => []
  | .mk _ _ _ body :: rest => withinAll body ++ withinBranches rest

end

/-- The statement that a template extends another. -/
def isExtending : Node → Bool
  | .extending .. => true
  | _ => false

/-- A region that templates may replace. -/
def isBlock : Node → Bool
  | .block .. => true
  | _ => false

/-- The place of what a block replaces. -/
def isParent : Node → Bool
  | .parent .. => true
  | _ => false

/-- A node that combines templates: a block, a parent tag or the statement
that the template extends another. -/
def isCombining (node : Node) : Bool :=
  node.isBlock || node.isParent || node.isExtending

/-- What a node that can fail carries. -/
def info? : Node → Option NodeInfo
  | .var info _ | .tag info _ _ | .blockTag info _ _ _ | .choice info _ _ | .loop info _ _
  | .inclusion info _ _ => some info
  | .text .. | .comment .. | .extending .. | .block .. | .parent .. | .message .. => none

/-! ## Induction -/

section Induction

variable {P : List Node → Prop}

mutual

theorem forall_bodies (nil : P [])
    (cons : ∀ node rest, (∀ body ∈ node.bodies, P body) → P rest → P (node :: rest)) :
    ∀ node : Node, ∀ body ∈ node.bodies, P body
  | .blockTag _ _ _ body, b, h | .loop _ _ body, b, h | .block _ _ _ body, b, h
  | .message _ _ _ body, b, h => by
    rw [List.mem_singleton.1 h]
    exact inductionAll nil cons body
  | .choice _ branches none, b, h => forall_branches nil cons branches b h
  | .choice _ branches (some body), b, h => by
    rcases List.mem_append.1 h with h | h
    · exact forall_branches nil cons branches b h
    · rw [List.mem_singleton.1 h]
      exact inductionAll nil cons body
  | .text .., _, h | .comment .., _, h | .var .., _, h | .tag .., _, h | .inclusion .., _, h
  | .extending .., _, h | .parent .., _, h => absurd h List.not_mem_nil

/-- **Induction on a sequence of nodes**: what holds of the rest and of all
bodies of the first node holds of the sequence. -/
@[elab_as_elim] theorem inductionAll (nil : P [])
    (cons : ∀ node rest, (∀ body ∈ node.bodies, P body) → P rest → P (node :: rest)) :
    ∀ nodes : List Node, P nodes
  | [] => nil
  | node :: rest => cons node rest (forall_bodies nil cons node) (inductionAll nil cons rest)

theorem forall_branches (nil : P [])
    (cons : ∀ node rest, (∀ body ∈ node.bodies, P body) → P rest → P (node :: rest)) :
    ∀ branches : List Branch, ∀ body ∈ branches.map Branch.body, P body
  | [], _, h => absurd h List.not_mem_nil
  | .mk _ _ _ own :: rest, b, h => by
    rcases List.mem_cons.1 h with h | h
    · rw [h]
      exact inductionAll nil cons own
    · exact forall_branches nil cons rest b h

end

end Induction

/-! ## Bodies -/

@[simp] theorem bodies_mapBodies (f : List Node → List Node) (node : Node) :
    (node.mapBodies f).bodies = node.bodies.map f := by
  have hbranch : Branch.body ∘ Branch.mapBody f = f ∘ Branch.body := by
    funext branch
    cases branch
    rfl
  cases node with
  | choice info branches otherwise => cases otherwise <;> simp [mapBodies, bodies, hbranch]
  | _ => rfl

/-- The bodies of a choice are those of its branches and the last one. -/
theorem mem_bodies_choice {info : NodeInfo} {branches : List Branch}
    {otherwise : Option (List Node)} {body : List Node} :
    body ∈ (Node.choice info branches otherwise).bodies ↔
      body ∈ branches.map Branch.body ∨ otherwise = some body := by
  cases otherwise <;> simp [bodies, eq_comm]

@[simp] theorem isExtending_mapBodies (f : List Node → List Node) (node : Node) :
    (node.mapBodies f).isExtending = node.isExtending := by
  cases node <;> rfl

@[simp] theorem isParent_mapBodies (f : List Node → List Node) (node : Node) :
    (node.mapBodies f).isParent = node.isParent := by
  cases node <;> rfl

@[simp] theorem isBlock_mapBodies (f : List Node → List Node) (node : Node) :
    (node.mapBodies f).isBlock = node.isBlock := by
  cases node <;> rfl

@[simp] theorem isCombining_mapBodies (f : List Node → List Node) (node : Node) :
    (node.mapBodies f).isCombining = node.isCombining := by
  rw [isCombining, isBlock_mapBodies, isParent_mapBodies, isExtending_mapBodies, isCombining]

/-- Changes that agree on the bodies of a node change it alike. -/
theorem mapBodies_congr {f g : List Node → List Node} {node : Node}
    (h : ∀ body ∈ node.bodies, f body = g body) : node.mapBodies f = node.mapBodies g := by
  have hbranches : ∀ branches : List Branch, (∀ body ∈ branches.map Branch.body, f body = g body) →
      branches.map (·.mapBody f) = branches.map (·.mapBody g) := by
    intro branches hb
    refine List.map_congr_left fun branch hmem => ?_
    have := hb branch.body (List.mem_map_of_mem hmem)
    cases branch
    exact congrArg (Branch.mk _ _ _) this
  cases node with
  | choice info branches otherwise =>
    cases otherwise with
    | none => simp only [mapBodies, hbranches branches h, Option.map_none]
    | some body =>
      have hb := hbranches branches fun b hb => h b (List.mem_append_left _ hb)
      have ho := h body (List.mem_append_right _ (List.mem_singleton_self _))
      simp only [mapBodies, hb, Option.map_some, ho]
  | blockTag info name attrs body => simp only [mapBodies, h body (List.mem_singleton_self _)]
  | loop info head body => simp only [mapBodies, h body (List.mem_singleton_self _)]
  | block span position name body => simp only [mapBodies, h body (List.mem_singleton_self _)]
  | message span position role body => simp only [mapBodies, h body (List.mem_singleton_self _)]
  | _ => rfl

@[simp] theorem mapBodies_id (node : Node) : node.mapBodies id = node := by
  have hbranch : Branch.mapBody id = id := by
    funext branch
    cases branch
    rfl
  cases node with
  | choice info branches otherwise => simp [mapBodies, hbranch]
  | _ => rfl

@[simp] theorem mapBodies_mapBodies (f g : List Node → List Node) (node : Node) :
    (node.mapBodies f).mapBodies g = node.mapBodies (g ∘ f) := by
  have hbranch : Branch.mapBody g ∘ Branch.mapBody f = Branch.mapBody (g ∘ f) := by
    funext branch
    cases branch
    rfl
  cases node with
  | choice info branches otherwise => simp [mapBodies, hbranch]
  | _ => rfl

/-! ## Nodes at any depth -/

@[simp] theorem withinAll_nil : withinAll [] = [] := rfl

@[simp] theorem withinAll_cons (node : Node) (rest : List Node) :
    withinAll (node :: rest) = within node ++ withinAll rest := rfl

@[simp] theorem withinAll_append (xs ys : List Node) :
    withinAll (xs ++ ys) = withinAll xs ++ withinAll ys := by
  induction xs with
  | nil => rfl
  | cons node rest ih => simp only [List.cons_append, withinAll_cons, ih, List.append_assoc]

theorem withinBranches_eq (branches : List Branch) :
    withinBranches branches = (branches.map Branch.body).flatMap withinAll := by
  induction branches with
  | nil => rfl
  | cons branch rest ih =>
    obtain ⟨position, source, condition, body⟩ := branch
    simp only [withinBranches, ih, List.map_cons, List.flatMap_cons, Branch.body]

/-- A node is within itself, and else what is within its bodies. -/
theorem within_eq (node : Node) : within node = node :: node.bodies.flatMap withinAll := by
  cases node with
  | choice info branches otherwise =>
    cases otherwise <;> simp [within, bodies, withinBranches_eq]
  | _ => simp [within, bodies]

theorem mem_withinAll_iff {inner : Node} {nodes : List Node} :
    inner ∈ withinAll nodes ↔
      ∃ node ∈ nodes, inner = node ∨ ∃ body ∈ node.bodies, inner ∈ withinAll body := by
  induction nodes with
  | nil => simp
  | cons node rest ih => simp [ih, within_eq, or_assoc]

/-- What is within a body of a node of a sequence is within the sequence. -/
theorem mem_withinAll_of_mem_body {inner node : Node} {nodes body : List Node}
    (hnode : node ∈ nodes) (hbody : body ∈ node.bodies) (h : inner ∈ withinAll body) :
    inner ∈ withinAll nodes :=
  mem_withinAll_iff.2 ⟨node, hnode, .inr ⟨body, hbody, h⟩⟩

/-- And the nodes of a sequence are within it. -/
theorem mem_withinAll_of_mem {node : Node} {nodes : List Node} (h : node ∈ nodes) :
    node ∈ withinAll nodes :=
  mem_withinAll_iff.2 ⟨node, h, .inl rfl⟩

/-- What is within the body of a block that is within a sequence is within
the sequence. -/
theorem mem_withinAll_trans {inner node : Node} {nodes body : List Node}
    (hnode : node ∈ withinAll nodes) (hbody : body ∈ node.bodies)
    (h : inner ∈ withinAll body) : inner ∈ withinAll nodes := by
  induction nodes using inductionAll with
  | nil => exact absurd hnode List.not_mem_nil
  | cons first rest inside ih =>
    rcases List.mem_append.1 hnode with hnode | hnode
    · rw [within_eq] at hnode
      rcases List.mem_cons.1 hnode with rfl | hnode
      · exact mem_withinAll_of_mem_body List.mem_cons_self hbody h
      · obtain ⟨outer, houter, hnode⟩ := List.mem_flatMap.1 hnode
        exact mem_withinAll_of_mem_body List.mem_cons_self houter (inside outer houter hnode)
    · exact List.mem_append_right _ (ih hnode)

/-- What is within a node that is within a sequence stands there in the same
order. -/
theorem within_sublist {node : Node} {nodes : List Node} (h : node ∈ withinAll nodes) :
    (within node).Sublist (withinAll nodes) := by
  induction nodes using inductionAll with
  | nil => exact absurd h List.not_mem_nil
  | cons first rest inside ih =>
    rcases List.mem_append.1 h with h | h
    · refine List.Sublist.trans ?_ (List.sublist_append_left _ _)
      rw [within_eq first] at h ⊢
      rcases List.mem_cons.1 h with rfl | h
      · rw [within_eq]
      · obtain ⟨body, hbody, h⟩ := List.mem_flatMap.1 h
        refine (inside body hbody h).trans (List.Sublist.trans ?_ (List.sublist_cons_self _ _))
        exact List.sublist_flatten_of_mem (List.mem_map_of_mem hbody)
    · exact (ih h).trans (List.sublist_append_right _ _)

/-- A property holds of all nodes of a sequence, at any depth. -/
def Throughout (Q : Node → Prop) (nodes : List Node) : Prop :=
  ∀ node ∈ withinAll nodes, Q node

section Throughout

variable {Q : Node → Prop}

theorem throughout_nil : Throughout Q [] :=
  fun _ h => absurd h List.not_mem_nil

theorem throughout_append {xs ys : List Node} :
    Throughout Q (xs ++ ys) ↔ Throughout Q xs ∧ Throughout Q ys := by
  simp only [Throughout, withinAll_append, List.forall_mem_append]

/-- A property holds throughout a node if it holds of the node and
throughout its bodies. -/
theorem throughout_singleton {node : Node} :
    Throughout Q [node] ↔ Q node ∧ ∀ body ∈ node.bodies, Throughout Q body := by
  simp only [Throughout, withinAll_cons, withinAll_nil, List.append_nil, within_eq,
    List.forall_mem_cons, List.mem_flatMap]
  constructor
  · rintro ⟨hself, hinside⟩
    exact ⟨hself, fun body hbody inner hinner => hinside inner ⟨body, hbody, hinner⟩⟩
  · rintro ⟨hself, hbodies⟩
    exact ⟨hself, fun inner ⟨body, hbody, hinner⟩ => hbodies body hbody inner hinner⟩

theorem throughout_cons {node : Node} {rest : List Node} :
    Throughout Q (node :: rest) ↔
      (Q node ∧ ∀ body ∈ node.bodies, Throughout Q body) ∧ Throughout Q rest := by
  rw [← List.singleton_append, throughout_append, throughout_singleton]

theorem Throughout.imp {R : Node → Prop} (himp : ∀ node, Q node → R node) {nodes : List Node}
    (h : Throughout Q nodes) : Throughout R nodes :=
  fun node hnode => himp node (h node hnode)

end Throughout

/-- Induction on a sequence of nodes that remembers where its nodes come
from: each is within the sequence that the induction began with. -/
theorem inductionWithin {P : List Node → Prop} {nodes : List Node} (nil : P [])
    (cons : ∀ node rest, node ∈ withinAll nodes → (∀ body ∈ node.bodies, P body) → P rest →
      P (node :: rest)) : P nodes := by
  suffices go : ∀ part, (∀ node ∈ withinAll part, node ∈ withinAll nodes) → P part from
    go nodes fun _ h => h
  intro part hpart
  induction part using inductionAll with
  | nil => exact nil
  | cons node rest inside ih =>
    refine cons node rest (hpart node (mem_withinAll_of_mem List.mem_cons_self)) ?_ ?_
    · intro body hbody
      exact inside body hbody fun n hn =>
        hpart n (mem_withinAll_of_mem_body List.mem_cons_self hbody hn)
    · exact ih fun n hn => hpart n (List.mem_append_right _ hn)

/-! ## Blocks -/

/-- The block that a node is, with its body. -/
def definition? : Node → Option (String × List Node)
  | .block _ _ name body => some (name, body)
  | _ => none

/-- The blocks in a sequence of nodes at any depth, in document order, with
their bodies. -/
def blocks (nodes : List Node) : List (String × List Node) :=
  (withinAll nodes).filterMap definition?

/-- The names of the blocks in a sequence of nodes, in document order. -/
def blockNames (nodes : List Node) : List String :=
  (blocks nodes).map Prod.fst

/-- No block of the sequence stands in another. -/
def Unnested (nodes : List Node) : Prop :=
  ∀ block ∈ blocks nodes, blocks block.2 = []

instance (nodes : List Node) : Decidable (Unnested nodes) :=
  inferInstanceAs (Decidable (∀ block ∈ blocks nodes, blocks block.2 = []))

@[simp] theorem blocks_nil : blocks [] = [] := rfl

@[simp] theorem blocks_append (xs ys : List Node) : blocks (xs ++ ys) = blocks xs ++ blocks ys := by
  rw [blocks, withinAll_append, List.filterMap_append, blocks, blocks]

/-- The blocks in a node: the node itself if it is one, and those in its
bodies. -/
theorem blocks_singleton (node : Node) :
    blocks [node] = node.definition?.toList ++ node.bodies.flatMap blocks := by
  rw [blocks, withinAll_cons, withinAll_nil, List.append_nil, within_eq, List.filterMap_cons,
    List.filterMap_flatMap]
  cases node.definition? <;> rfl

theorem definitionsOfBranches_eq (branches : List Branch) :
    definitionsOfBranches branches = (branches.map Branch.body).flatMap definitionsOfAll := by
  induction branches with
  | nil => rfl
  | cons branch rest ih =>
    obtain ⟨position, source, condition, body⟩ := branch
    simp only [definitionsOfBranches, ih, List.map_cons, List.flatMap_cons, Branch.body]

/-- A node defines the block that it is, and else what its bodies define. -/
theorem definitions_eq (node : Node) :
    definitions node = node.definition?.toList ++ node.bodies.flatMap definitionsOfAll := by
  cases node with
  | choice info branches otherwise =>
    cases otherwise <;> simp [definitions, definition?, bodies, definitionsOfBranches_eq]
  | _ => simp [definitions, definition?, bodies]

/-- **What a sequence defines are the blocks in it.** -/
theorem definitionsOfAll_eq (nodes : List Node) : definitionsOfAll nodes = blocks nodes := by
  induction nodes using inductionAll with
  | nil => rfl
  | cons node rest inside ih =>
    have hbodies : node.bodies.flatMap definitionsOfAll = node.bodies.flatMap blocks :=
      List.flatMap_congr inside
    rw [definitionsOfAll, definitions_eq, hbodies, ih, ← blocks_singleton, ← blocks_append,
      List.singleton_append]

theorem mem_blocks {name : String} {body nodes : List Node} :
    (name, body) ∈ blocks nodes ↔
      ∃ span position, .block span position name body ∈ withinAll nodes := by
  rw [blocks, List.mem_filterMap]
  constructor
  · rintro ⟨node, hnode, h⟩
    cases node with
    | block span position n b =>
      obtain ⟨rfl, rfl⟩ := Prod.mk.inj (Option.some.inj h)
      exact ⟨span, position, hnode⟩
    | _ => cases h
  · rintro ⟨span, position, h⟩
    exact ⟨_, h, rfl⟩

theorem mem_blockNames_of_block {span : Span} {position : Position} {name : String}
    {body nodes : List Node} (h : .block span position name body ∈ withinAll nodes) :
    name ∈ blockNames nodes :=
  List.mem_map_of_mem (mem_blocks.2 ⟨span, position, h⟩)

/-- In nodes whose blocks have different names, what is found for the name of
a block is its body. -/
theorem lookup_of_block {span : Span} {position : Position} {name : String}
    {body nodes : List Node} (hdistinct : (blockNames nodes).Nodup)
    (h : .block span position name body ∈ withinAll nodes) :
    (blocks nodes).lookup name = some body := by
  obtain ⟨before, after, heq⟩ := List.append_of_mem (mem_blocks.2 ⟨_, _, h⟩)
  refine List.lookup_eq_some_iff.2 ⟨before, after, heq, fun entry hentry => ?_⟩
  rw [blockNames, heq, List.map_append, List.map_cons] at hdistinct
  have := (List.nodup_append.1 hdistinct).2.2 _ (List.mem_map_of_mem hentry) _ List.mem_cons_self
  simpa using this.symm

/-- What is found for a name is the body of a block of that name. -/
theorem block_of_lookup {name : String} {own nodes : List Node}
    (h : (blocks nodes).lookup name = some own) :
    ∃ span position, .block span position name own ∈ withinAll nodes := by
  obtain ⟨before, after, heq, _⟩ := List.lookup_eq_some_iff.1 h
  exact mem_blocks.1 (heq ▸ List.mem_append_right _ List.mem_cons_self)

/-- Where no block stands in another, there is none in the body of a block. -/
theorem Unnested.isBlock_of_lookup {name : String} {own nodes : List Node} (h : Unnested nodes)
    (hown : (blocks nodes).lookup name = some own) : Throughout (·.isBlock = false) own := by
  obtain ⟨span, position, hblock⟩ := block_of_lookup hown
  have hnone := h (name, own) (mem_blocks.2 ⟨span, position, hblock⟩)
  rw [blocks, List.filterMap_eq_nil_iff] at hnone
  intro node hnode
  cases node with
  | block span position name body => cases hnone _ hnode
  | _ => rfl

/-- In nodes whose blocks have different names, no block is within a block of
its name. -/
theorem not_mem_blockNames_of_block {span : Span} {position : Position} {name : String}
    {body nodes : List Node} (hdistinct : (blockNames nodes).Nodup)
    (h : .block span position name body ∈ withinAll nodes) : name ∉ blockNames body := by
  have hsub := ((within_sublist h).filterMap definition?).map Prod.fst
  have hnodup := hsub.nodup hdistinct
  simp only [within, List.filterMap_cons, definition?, List.map_cons] at hnodup
  exact (List.nodup_cons.1 hnodup).1

/-! ## Replacement -/

@[simp] theorem replaceAll_nil (r : Replacement) : replaceAll r [] = [] := rfl

@[simp] theorem replaceAll_cons (r : Replacement) (node : Node) (rest : List Node) :
    replaceAll r (node :: rest) = replace r node ++ replaceAll r rest := rfl

@[simp] theorem replaceAll_append (r : Replacement) (xs ys : List Node) :
    replaceAll r (xs ++ ys) = replaceAll r xs ++ replaceAll r ys := by
  induction xs with
  | nil => rfl
  | cons node rest ih => simp only [List.cons_append, replaceAll_cons, ih, List.append_assoc]

theorem replaceBranches_eq (r : Replacement) (branches : List Branch) :
    replaceBranches r branches = branches.map (·.mapBody (replaceAll r)) := by
  induction branches with
  | nil => rfl
  | cons branch rest ih =>
    obtain ⟨position, source, condition, body⟩ := branch
    simp only [replaceBranches, ih, List.map_cons, Branch.mapBody]

/-- **A node that combines no templates keeps its place**, with its bodies
replaced. -/
theorem replace_of_ordinary {r : Replacement} {node : Node} (h : node.isCombining = false) :
    replace r node = [node.mapBodies (replaceAll r)] := by
  cases node with
  | choice info branches otherwise =>
    cases otherwise <;> simp [replace, mapBodies, replaceBranches_eq]
  | block span position name body => cases h
  | parent span position => cases h
  | extending span position template => cases h
  | _ => rfl

/-- Every node either combines templates, and is of one of the three kinds,
or is ordinary. -/
theorem combining_or_ordinary (node : Node) :
    (∃ span position name body, node = .block span position name body) ∨
      (∃ span position, node = .parent span position) ∨
      (∃ span position template, node = .extending span position template) ∨
      node.isCombining = false := by
  cases node with
  | block span position name body => exact .inl ⟨span, position, name, body, rfl⟩
  | parent span position => exact .inr (.inl ⟨span, position, rfl⟩)
  | extending span position template =>
    exact .inr (.inr (.inl ⟨span, position, template, rfl⟩))
  | _ => exact .inr (.inr (.inr rfl))

/-- **What a replacement keeps.** A property that does not look into bodies
holds throughout a replaced sequence if it holds of the ordinary nodes there
were, and throughout all that the combining ones are replaced by. -/
theorem throughout_replaceAll {Q : Node → Prop} {r : Replacement} {nodes : List Node}
    (hshape : ∀ node f, Q node → Q (node.mapBodies f))
    (hordinary : ∀ node ∈ withinAll nodes, node.isCombining = false → Q node)
    (hblock : ∀ span position name body, .block span position name body ∈ withinAll nodes →
      Throughout Q (replaceAll r body) →
      Throughout Q (r.block span position name (replaceAll r body)))
    (hparent : ∀ span position, .parent span position ∈ withinAll nodes →
      Throughout Q (r.parent span position))
    (hextending : ∀ span position template, .extending span position template ∈ withinAll nodes →
      Throughout Q (r.extending span position template)) :
    Throughout Q (replaceAll r nodes) := by
  refine inductionWithin (P := fun nodes => Throughout Q (replaceAll r nodes)) throughout_nil ?_
  intro node rest hnode inside ih
  rw [replaceAll_cons, throughout_append]
  refine ⟨?_, ih⟩
  obtain ⟨s, p, n, b, rfl⟩ | ⟨s, p, rfl⟩ | ⟨s, p, t, rfl⟩ | hplain := combining_or_ordinary node
  · exact hblock s p n b hnode (inside b (List.mem_singleton_self _))
  · exact hparent s p hnode
  · exact hextending s p t hnode
  · rw [replace_of_ordinary hplain, throughout_singleton, bodies_mapBodies]
    refine ⟨hshape node _ (hordinary node hnode hplain), fun body hbody => ?_⟩
    obtain ⟨own, hown, rfl⟩ := List.mem_map.1 hbody
    exact inside own hown

/-- **Two replacements, one after the other**, make a third one if they do
at the nodes that combine templates. -/
theorem replaceAll_replaceAll {r₁ r₂ r₃ : Replacement} {nodes : List Node}
    (hblock : ∀ span position name body, .block span position name body ∈ withinAll nodes →
      replaceAll r₂ (replaceAll r₁ body) = replaceAll r₃ body →
      replaceAll r₂ (r₁.block span position name (replaceAll r₁ body)) =
        r₃.block span position name (replaceAll r₃ body))
    (hparent : ∀ span position, .parent span position ∈ withinAll nodes →
      replaceAll r₂ (r₁.parent span position) = r₃.parent span position)
    (hextending : ∀ span position template, .extending span position template ∈ withinAll nodes →
      replaceAll r₂ (r₁.extending span position template) =
        r₃.extending span position template) :
    replaceAll r₂ (replaceAll r₁ nodes) = replaceAll r₃ nodes := by
  refine inductionWithin
    (P := fun nodes => replaceAll r₂ (replaceAll r₁ nodes) = replaceAll r₃ nodes) rfl ?_
  intro node rest hnode inside ih
  rw [replaceAll_cons, replaceAll_append, replaceAll_cons, ih]
  congr 1
  obtain ⟨s, p, n, b, rfl⟩ | ⟨s, p, rfl⟩ | ⟨s, p, t, rfl⟩ | hplain := combining_or_ordinary node
  · exact hblock s p n b hnode (inside b (List.mem_singleton_self _))
  · exact hparent s p hnode
  · exact hextending s p t hnode
  · have hkept : (node.mapBodies (replaceAll r₁)).isCombining = false := by
      rwa [isCombining_mapBodies]
    rw [replace_of_ordinary hplain, replace_of_ordinary hplain, replaceAll_cons,
      replaceAll_nil, List.append_nil, replace_of_ordinary hkept, mapBodies_mapBodies]
    exact congrArg (fun node => [node]) (mapBodies_congr inside)

/-- **A replacement that changes no combining node** changes nothing. -/
theorem replaceAll_eq_self {r : Replacement} {nodes : List Node}
    (hblock : ∀ span position name body, .block span position name body ∈ withinAll nodes →
      r.block span position name body = [.block span position name body])
    (hparent : ∀ span position, .parent span position ∈ withinAll nodes →
      r.parent span position = [.parent span position])
    (hextending : ∀ span position template, .extending span position template ∈ withinAll nodes →
      r.extending span position template = [.extending span position template]) :
    replaceAll r nodes = nodes := by
  refine inductionWithin (P := fun nodes => replaceAll r nodes = nodes) rfl ?_
  intro node rest hnode inside ih
  rw [replaceAll_cons, ih, ← List.singleton_append]
  congr 1
  obtain ⟨s, p, n, b, rfl⟩ | ⟨s, p, rfl⟩ | ⟨s, p, t, rfl⟩ | hplain := combining_or_ordinary node
  · rw [replace, inside b (List.mem_singleton_self _), hblock s p n b hnode]
  · exact hparent s p hnode
  · exact hextending s p t hnode
  · rw [replace_of_ordinary hplain, mapBodies_congr inside]
    exact congrArg (fun node => [node]) (mapBodies_id node)

end Node

end PromptMarkup
