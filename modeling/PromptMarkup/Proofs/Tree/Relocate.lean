import PromptMarkup.Proofs.Source.Place
import PromptMarkup.Proofs.Tree.Accepted
/-!
# Tree — the same nodes in another place

`Node.relocate` changes where the nodes of a tree stand, and the source text
they keep, and nothing else. What combines templates does not look at
places: relocated nodes define the same blocks and are flattened to the
relocated result.
-/

namespace PromptMarkup

/-- The info in its new place. -/
def NodeInfo.relocate (r : Relocation) (info : NodeInfo) : NodeInfo :=
  { info with
    span := info.span.relocate r
    position := r.position info.position
    raw := r.raw info.raw }

namespace Node

mutual

/-- The node in its new place. -/
def relocate (r : Relocation) : Node → Node
  | .text span body => .text (span.relocate r) body
  | .comment span body => .comment (span.relocate r) body
  | .var info path => .var (info.relocate r) path
  | .tag info name attrs => .tag (info.relocate r) name attrs
  | .blockTag info name attrs body => .blockTag (info.relocate r) name attrs (relocateAll r body)
  | .choice info branches none => .choice (info.relocate r) (relocateBranches r branches) none
  | .choice info branches (some body) =>
    .choice (info.relocate r) (relocateBranches r branches) (some (relocateAll r body))
  | .loop info head body => .loop (info.relocate r) head (relocateAll r body)
  | .inclusion info template data => .inclusion (info.relocate r) template data
  | .extending span position template => .extending (span.relocate r) (r.position position) template
  | .block span position name body =>
    .block (span.relocate r) (r.position position) name (relocateAll r body)
  | .parent span position => .parent (span.relocate r) (r.position position)
  | .message span position role body =>
    .message (span.relocate r) (r.position position) role (relocateAll r body)

/-- The nodes in their new place. -/
def relocateAll (r : Relocation) : List Node → List Node
  | [] => []
  | node :: rest => relocate r node :: relocateAll r rest

/-- The branches in their new place. -/
def relocateBranches (r : Relocation) : List Branch → List Branch
  | [] => []
  | .mk position source condition body :: rest =>
    .mk (r.position position) source condition (relocateAll r body) :: relocateBranches r rest

end

end Node

/-- The branch in its new place. -/
def Branch.relocate (r : Relocation) : Branch → Branch
  | .mk position source condition body =>
    .mk (r.position position) source condition (Node.relocateAll r body)

namespace Node

variable {r : Relocation} {node : Node} {nodes : List Node}

theorem relocateAll_eq_map (r : Relocation) (nodes : List Node) :
    relocateAll r nodes = nodes.map (relocate r) := by
  induction nodes with
  | nil => rfl
  | cons node rest ih => rw [relocateAll, ih, List.map_cons]

@[simp] theorem relocateAll_append (r : Relocation) (xs ys : List Node) :
    relocateAll r (xs ++ ys) = relocateAll r xs ++ relocateAll r ys := by
  simp only [relocateAll_eq_map, List.map_append]

theorem relocateBranches_eq_map (r : Relocation) (branches : List Branch) :
    relocateBranches r branches = branches.map (Branch.relocate r) := by
  induction branches with
  | nil => rfl
  | cons branch rest ih =>
    obtain ⟨position, source, condition, body⟩ := branch
    rw [relocateBranches, ih, List.map_cons, Branch.relocate]

/-- A choice with its branches and its last body. -/
theorem relocate_choice (info : NodeInfo) (branches : List Branch)
    (otherwise : Option (List Node)) :
    relocate r (.choice info branches otherwise) =
      .choice (info.relocate r) (branches.map (Branch.relocate r))
        (otherwise.map (relocateAll r)) := by
  cases otherwise <;> simp only [relocate, relocateBranches_eq_map, Option.map]

theorem map_body_relocate (branches : List Branch) :
    (branches.map (Branch.relocate r)).map Branch.body =
      (branches.map Branch.body).map (relocateAll r) := by
  rw [List.map_map, List.map_map]
  refine List.map_congr_left fun branch _ => ?_
  cases branch
  rfl

@[simp] theorem bodies_relocate : (relocate r node).bodies = node.bodies.map (relocateAll r) := by
  cases node with
  | choice info branches otherwise =>
    cases otherwise <;>
      simp only [relocate_choice, bodies, Option.map, map_body_relocate, List.map_append,
        List.map_cons, List.map_nil]
  | _ => rfl

@[simp] theorem isCombining_relocate : (relocate r node).isCombining = node.isCombining := by
  cases node with
  | choice info branches otherwise => rw [relocate_choice]; rfl
  | _ => rfl

theorem blockNames_cons (node : Node) (rest : List Node) :
    blockNames (node :: rest) =
      (node.definition?.map Prod.fst).toList ++ node.bodies.flatMap blockNames ++
        blockNames rest := by
  rw [← blockNames_singleton, ← blockNames_append, List.singleton_append]

/-- **Relocated nodes define the same blocks.** -/
@[simp] theorem blockNames_relocateAll : blockNames (relocateAll r nodes) = blockNames nodes := by
  induction nodes using inductionAll with
  | nil => rfl
  | cons node rest inside ih =>
    have hname : (relocate r node).definition?.map Prod.fst = node.definition?.map Prod.fst := by
      cases node with
      | choice info branches otherwise => rw [relocate_choice]; rfl
      | _ => rfl
    rw [relocateAll, blockNames_cons, blockNames_cons, ih, hname, bodies_relocate,
      List.flatMap_map, List.flatMap_congr inside]

/-- A change of the bodies is made before or after. -/
theorem relocate_mapBodies {f : List Node → List Node}
    (h : ∀ body ∈ node.bodies, f (relocateAll r body) = relocateAll r (f body)) :
    relocate r (node.mapBodies f) = (relocate r node).mapBodies f := by
  have hbranches : ∀ branches : List Branch,
      (∀ body ∈ branches.map Branch.body, f (relocateAll r body) = relocateAll r (f body)) →
      (branches.map (·.mapBody f)).map (Branch.relocate r) =
        (branches.map (Branch.relocate r)).map (·.mapBody f) := by
    intro branches hbodies
    rw [List.map_map, List.map_map]
    refine List.map_congr_left fun branch hbranch => ?_
    have hbody := hbodies branch.body (List.mem_map_of_mem hbranch)
    cases branch
    exact congrArg (Branch.mk _ _ _) hbody.symm
  cases node with
  | choice info branches otherwise =>
    have hall := hbranches branches fun body hbody => h body (mem_bodies_choice.2 (.inl hbody))
    rw [mapBodies, relocate_choice, relocate_choice, mapBodies, hall]
    cases otherwise with
    | none => rfl
    | some body =>
      exact congrArg (Node.choice _ _ ∘ some) (h body (mem_bodies_choice.2 (.inr rfl))).symm
  | blockTag info name attrs body =>
    exact congrArg (Node.blockTag _ _ _) (h body (List.mem_singleton_self _)).symm
  | loop info head body => exact congrArg (Node.loop _ _) (h body (List.mem_singleton_self _)).symm
  | block span position name body =>
    exact congrArg (Node.block _ _ _) (h body (List.mem_singleton_self _)).symm
  | message span position role body =>
    exact congrArg (Node.message _ _ _) (h body (List.mem_singleton_self _)).symm
  | _ => rfl

/-- **They are flattened to the relocated result.** -/
theorem flatten_relocateAll : flatten (relocateAll r nodes) = relocateAll r (flatten nodes) := by
  induction nodes using inductionAll with
  | nil => rfl
  | cons node rest inside ih =>
    have hnode : replace .flatten (relocate r node) = relocateAll r (replace .flatten node) := by
      obtain ⟨s, p, n, b, rfl⟩ | ⟨s, p, rfl⟩ | ⟨s, p, t, rfl⟩ | hplain :=
        combining_or_ordinary node
      · exact inside b (List.mem_singleton_self _)
      · rfl
      · rfl
      · have hplain' : (relocate r node).isCombining = false := by rwa [isCombining_relocate]
        have hbodies : relocate r (node.mapBodies (replaceAll .flatten)) = _ :=
          relocate_mapBodies inside
        rw [replace_of_ordinary hplain, replace_of_ordinary hplain', relocateAll, hbodies]
        rfl
    rw [relocateAll, flatten, flatten, replaceAll_cons, replaceAll_cons, relocateAll_append, hnode]
    exact congrArg _ ih

end Node

end PromptMarkup
