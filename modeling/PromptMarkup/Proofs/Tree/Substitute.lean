import PromptMarkup.Proofs.Tree.Walk
/-!
# Tree — substitution from the outside in

`substituteAll` puts other nodes in the place of the nodes that a
substitution chooses, wherever they stand, and looks at nothing inside those.
A substitution sees the name of the block around a node, which replacement,
going from the inside out, does not. `replaceAll_eq_substituteAll` says when
the two come to the same; filling in parent tags is the first case of it.
-/

namespace PromptMarkup

namespace Node

/-- What is put in place of a node, if anything is. The first argument is the
name of the innermost block around the node. -/
abbrev Substitution := Option String → Node → Option (List Node)

mutual

/-- The nodes that take the place of one node. -/
def substitute (sub : Substitution) (near : Option String) : Node → List Node
  | .block span position name body =>
    (sub near (.block span position name body)).getD
      [.block span position name (substituteAll sub (some name) body)]
  | .blockTag info name attrs body =>
    (sub near (.blockTag info name attrs body)).getD
      [.blockTag info name attrs (substituteAll sub near body)]
  | .choice info branches none =>
    (sub near (.choice info branches none)).getD
      [.choice info (substituteBranches sub near branches) none]
  | .choice info branches (some body) =>
    (sub near (.choice info branches (some body))).getD
      [.choice info (substituteBranches sub near branches) (some (substituteAll sub near body))]
  | .loop info head body =>
    (sub near (.loop info head body)).getD [.loop info head (substituteAll sub near body)]
  | .message span position role body =>
    (sub near (.message span position role body)).getD
      [.message span position role (substituteAll sub near body)]
  | .text span body => (sub near (.text span body)).getD [.text span body]
  | .comment span body => (sub near (.comment span body)).getD [.comment span body]
  | .var info path => (sub near (.var info path)).getD [.var info path]
  | .tag info name attrs => (sub near (.tag info name attrs)).getD [.tag info name attrs]
  | .inclusion info template data =>
    (sub near (.inclusion info template data)).getD [.inclusion info template data]
  | .extending span position template =>
    (sub near (.extending span position template)).getD [.extending span position template]
  | .parent span position => (sub near (.parent span position)).getD [.parent span position]

/-- The nodes that take the place of a sequence of nodes. -/
def substituteAll (sub : Substitution) (near : Option String) : List Node → List Node
  | [] => []
  | node :: rest => substitute sub near node ++ substituteAll sub near rest

/-- The branches with the nodes in their bodies replaced. -/
def substituteBranches (sub : Substitution) (near : Option String) : List Branch → List Branch
  | [] => []
  | .mk position source condition body :: rest =>
    .mk position source condition (substituteAll sub near body) ::
      substituteBranches sub near rest

end

/-- The substitution of each parent tag by the body for the block around
it. -/
def Substitution.parents (bodyFor : Option String → List Node) : Substitution
  | near, .parent _ _ => some (bodyFor near)
  | _, _ => none

/-- The substitution of each block by the body for its name. -/
def Substitution.blocks (bodyFor : String → List Node) : Substitution
  | _, .block _ _ name _ => some (bodyFor name)
  | _, _ => none

/-! ## Equations -/

variable {sub : Substitution} {near : Option String}

@[simp] theorem substituteAll_nil : substituteAll sub near [] = [] := rfl

@[simp] theorem substituteAll_cons (node : Node) (rest : List Node) :
    substituteAll sub near (node :: rest) =
      substitute sub near node ++ substituteAll sub near rest := rfl

theorem substituteBranches_eq (branches : List Branch) :
    substituteBranches sub near branches =
      branches.map (·.mapBody (substituteAll sub near)) := by
  induction branches with
  | nil => rfl
  | cons branch rest ih =>
    obtain ⟨position, source, condition, body⟩ := branch
    simp only [substituteBranches, ih, List.map_cons, Branch.mapBody]

/-- **A node that is not chosen keeps its place**, and what is chosen inside
it is replaced. -/
theorem substitute_of_ordinary {node : Node} (h : node.isCombining = false) :
    substitute sub near node = (sub near node).getD [node.mapBodies (substituteAll sub near)] := by
  cases node with
  | choice info branches otherwise =>
    cases otherwise <;> simp [substitute, mapBodies, substituteBranches_eq]
  | block span position name body => cases h
  | parent span position => cases h
  | extending span position template => cases h
  | _ => rfl

/-- Substitutions that put the same in place of every node of a sequence make
the same of it. -/
theorem substituteAll_congr {sub' : Substitution} {nodes : List Node}
    (h : ∀ around, ∀ node ∈ withinAll nodes, sub around node = sub' around node) :
    substituteAll sub near nodes = substituteAll sub' near nodes := by
  induction nodes using inductionAll generalizing near with
  | nil => rfl
  | cons node rest inside ih =>
    have hnode : ∀ around, sub around node = sub' around node := fun around =>
      h around node (mem_withinAll_of_mem List.mem_cons_self)
    have hbodies : ∀ body ∈ node.bodies, ∀ around,
        substituteAll sub around body = substituteAll sub' around body :=
      fun body hbody around => inside body hbody fun around inner hinner =>
        h around inner (mem_withinAll_of_mem_body List.mem_cons_self hbody hinner)
    rw [substituteAll_cons, substituteAll_cons,
      ih fun around inner hinner => h around inner (List.mem_append_right _ hinner)]
    congr 1
    obtain ⟨s, p, n, b, rfl⟩ | ⟨s, p, rfl⟩ | ⟨s, p, t, rfl⟩ | hplain := combining_or_ordinary node
    · rw [substitute, substitute, hnode, hbodies b (List.mem_singleton_self _)]
    · rw [substitute, substitute, hnode]
    · rw [substitute, substitute, hnode]
    · rw [substitute_of_ordinary hplain, substitute_of_ordinary hplain, hnode,
        mapBodies_congr fun body hbody => hbodies body hbody near]

/-- **Replacing from the inside out is substituting from the outside in**, if
the replacement of each node that combines templates is what is put in its
place, and only these are chosen. -/
theorem replaceAll_eq_substituteAll {r : Replacement} {nodes : List Node}
    (hblock : ∀ around span position name body,
      r.block span position name (replaceAll r body) =
        (sub around (.block span position name body)).getD
          [.block span position name (replaceAll r body)])
    (hparent : ∀ around span position, r.parent span position =
      (sub around (.parent span position)).getD [.parent span position])
    (hextending : ∀ around span position template, r.extending span position template =
      (sub around (.extending span position template)).getD [.extending span position template])
    (hordinary : ∀ around node, node.isCombining = false → sub around node = none) :
    replaceAll r nodes = substituteAll sub near nodes := by
  induction nodes using inductionAll generalizing near with
  | nil => rfl
  | cons node rest inside ih =>
    rw [replaceAll_cons, substituteAll_cons, ih]
    congr 1
    obtain ⟨s, p, n, b, rfl⟩ | ⟨s, p, rfl⟩ | ⟨s, p, t, rfl⟩ | hplain := combining_or_ordinary node
    · rw [replace, substitute, hblock near]
      rw [inside b (List.mem_singleton_self _)]
    · exact hparent near s p
    · exact hextending near s p t
    · rw [replace_of_ordinary hplain, substitute_of_ordinary hplain, hordinary near node hplain,
        Option.getD_none, mapBodies_congr fun body hbody => inside body hbody]

/-- **Filling in parent tags** is their substitution. -/
theorem fillParent_eq (before nodes : List Node) (near : Option String) :
    replaceAll (.fillParent before) nodes =
      substituteAll (.parents fun _ => before) near nodes := by
  refine replaceAll_eq_substituteAll ?_ ?_ ?_ ?_
  · exact fun _ _ _ _ _ => rfl
  · exact fun _ _ _ => rfl
  · exact fun _ _ _ _ => rfl
  · intro around node hplain
    cases node with
    | parent span position => cases hplain
    | _ => rfl

end Node

end PromptMarkup
