import PromptMarkup.Proofs.DryRun.Survey
import PromptMarkup.Proofs.Tree.Walk
/-!
# DryRun — the inventory of a template

Whatever the data selects, a survey goes through all nodes there are. Up to
its text, which is that of the selected branches alone, it is made of what
each node adds by itself (`ownSurvey`), each node once and in document order
(`silent_of_surveyAll`). So what a survey lists can be read off the nodes;
`references_of_surveyAll` does this for the paths that are looked up.
-/

namespace PromptMarkup

/-- The paths that a node itself looks up, whatever its bodies look up. -/
def Node.reads : Node → List String
  | .var _ path => [path]
  | .choice _ branches _ => branches.flatMap (·.condition.paths)
  | .loop _ head _ => [head.source]
  | .inclusion _ _ data => data.toList
  | .text .. | .comment .. | .tag .. | .blockTag .. | .extending .. | .block .. | .parent ..
  | .message .. => []

namespace DryRun

namespace Survey

/-! ## Surveys one after another -/

theorem append_assoc (a b c : Survey) : (a.append b).append c = a.append (b.append c) := by
  simp [append, String.append_assoc]

@[simp] theorem empty_append (a : Survey) : append {} a = a := by
  simp [append]

@[simp] theorem silent_empty : silent {} = {} := rfl

@[simp] theorem silent_append (a b : Survey) : (a.append b).silent = a.silent.append b.silent := by
  simp [append, silent]

/-- Several surveys one after another. -/
def joined (parts : List Survey) : Survey :=
  parts.foldr append {}

@[simp] theorem joined_nil : joined [] = {} := rfl

@[simp] theorem joined_cons (first : Survey) (rest : List Survey) :
    joined (first :: rest) = first.append (joined rest) := rfl

@[simp] theorem joined_append (xs ys : List Survey) :
    joined (xs ++ ys) = (joined xs).append (joined ys) := by
  induction xs with
  | nil => simp
  | cons first rest ih => simp [ih, append_assoc]

/-- The paths that several surveys list are those that each of them does. -/
theorem references_joined (parts : List Survey) :
    (joined parts).references = parts.flatMap (·.references) := by
  induction parts with
  | nil => rfl
  | cons first rest ih =>
    rw [joined_cons, List.flatMap_cons, ← ih]
    rfl

end Survey

/-! ## What each node adds -/

variable {g : Ground} {inTurn : Bool} {branches : List Branch} {survey bodies : Survey}

/-- What a node itself adds to a survey, apart from its text and from what its
bodies add. -/
def ownSurvey (g : Ground) : Node → Survey
  | .var info path => (surveyVar g info path).silent
  | .tag info name _ | .blockTag info name _ _ => (surveyTag g info name).silent
  | .choice _ branches _ => surveyConditions g branches
  | .loop info head _ => surveyLoop g info head
  | .inclusion info template data => (surveyInclusion g info template data).silent
  | .text .. | .comment .. | .extending .. | .block .. | .parent .. | .message .. => {}

/-- What all nodes add, at any depth and in document order. -/
def inventory (g : Ground) (nodes : List Node) : Survey :=
  .joined ((Node.withinAll nodes).map (ownSurvey g))

/-- A node adds its own part before those of its bodies. -/
theorem inventory_cons (g : Ground) (node : Node) (rest : List Node) :
    inventory g (node :: rest) =
      ((ownSurvey g node).append (.joined (node.bodies.map (inventory g)))).append
        (inventory g rest) := by
  have hbodies : ∀ parts : List (List Node),
      Survey.joined ((parts.flatMap Node.withinAll).map (ownSurvey g)) =
        .joined (parts.map (inventory g)) := by
    intro parts
    induction parts with
    | nil => rfl
    | cons first more ih => simp [inventory, ih]
  simp only [inventory, Node.withinAll_cons, Node.within_eq, List.map_append, List.map_cons,
    Survey.joined_append, Survey.joined_cons, hbodies]

/-- The survey of conditions has no text of its own. -/
@[simp] theorem silent_surveyConditions (g : Ground) (branches : List Branch) :
    (surveyConditions g branches).silent = surveyConditions g branches := by
  rw [Survey.silent, ← text_surveyConditions g branches]

/-- The bodies of branches add what each of them adds. -/
theorem silent_of_surveyBranches {selected : Option Nat}
    (inside : ∀ branch ∈ branches, ∀ own, surveyAll g inTurn branch.body = .ok own →
      own.silent = inventory g branch.body)
    (h : surveyBranches g inTurn selected branches = .ok bodies) :
    bodies.silent = .joined ((branches.map Branch.body).map (inventory g)) := by
  induction branches generalizing selected bodies with
  | nil =>
    cases h
    rfl
  | cons branch rest ih =>
    obtain ⟨first, more, hfirst, hmore, rfl⟩ := surveyBranches_cons_eq_ok_iff.1 h
    have hown := inside branch List.mem_cons_self first hfirst
    have hrest := ih (fun b hb => inside b (List.mem_cons_of_mem _ hb)) hmore
    -- whether the branch is selected makes a difference to its text alone
    have hsilent : (if selected = some 0 then first else first.silent).silent = first.silent := by
      split <;> rfl
    rw [Survey.silent_append, hsilent, hown, hrest]
    rfl

/-- **A survey is an inventory.** Up to its text it has what each node adds,
each node once and in document order. -/
theorem silent_of_surveyAll {nodes : List Node} (h : surveyAll g inTurn nodes = .ok survey) :
    survey.silent = inventory g nodes := by
  induction nodes using Node.inductionAll generalizing inTurn survey with
  | nil =>
    cases h
    rfl
  | cons node rest inside ih =>
    obtain ⟨first, more, hfirst, hmore, rfl⟩ := surveyAll_cons_eq_ok_iff.1 h
    rw [Survey.silent_append, ih hmore, inventory_cons]
    congr 1
    cases node with
    | blockTag info name attrs body =>
      obtain ⟨own, hown, rfl⟩ := map_append_eq_ok_iff.1 hfirst
      simp [ownSurvey, Node.bodies, inside body (List.mem_singleton_self _) hown]
    | loop info head body =>
      obtain ⟨own, hown, rfl⟩ := map_append_eq_ok_iff.1 hfirst
      simp only [Survey.silent_append, inside body (List.mem_singleton_self _) hown]
      simp [ownSurvey, Node.bodies, surveyLoop, Survey.silent]
    | block span position name body =>
      simp [ownSurvey, Node.bodies, inside body (List.mem_singleton_self _) hfirst]
    | message span position role body =>
      rw [surveyNode] at hfirst
      split at hfirst
      · cases hfirst
      · simp [ownSurvey, Node.bodies, inside body (List.mem_singleton_self _) hfirst]
    | choice info branches otherwise =>
      obtain ⟨own, last, hown, hlast, hnone, rfl⟩ := of_surveyNode_choice hfirst
      have hbranches := silent_of_surveyBranches (fun branch hbranch s hs =>
        inside branch.body (Node.mem_bodies_choice.2 (.inl (List.mem_map_of_mem hbranch))) hs) hown
      have hsilent :
          (if (selected? g branches).isNone then last else last.silent).silent = last.silent := by
        split <;> rfl
      simp only [Survey.silent_append, hbranches, hsilent, silent_surveyConditions]
      cases otherwise with
      | none => simp [hnone rfl, ownSurvey, Node.bodies]
      | some body =>
        have hbody := inside body (Node.mem_bodies_choice.2 (.inr rfl)) (hlast body rfl)
        simp [hbody, ownSurvey, Node.bodies]
    | _ =>
      cases hfirst
      simp [ownSurvey, Node.bodies, Survey.silent]

/-! ## The paths that are looked up -/

theorem references_ownSurvey (g : Ground) (node : Node) :
    (ownSurvey g node).references = node.reads := by
  cases node with
  | choice info branches otherwise =>
    have hconditions : surveyConditions g branches = .joined (branches.map (surveyCondition g)) :=
      rfl
    rw [ownSurvey, hconditions, Survey.references_joined, List.flatMap_map]
    rfl
  | _ => rfl

/-- **A survey lists every path that a node looks up**, and no other. -/
theorem references_of_surveyAll {nodes : List Node} (h : surveyAll g inTurn nodes = .ok survey) :
    survey.references = (Node.withinAll nodes).flatMap Node.reads := by
  have hsilent : survey.references = survey.silent.references := rfl
  simp only [hsilent, silent_of_surveyAll h, inventory, Survey.references_joined,
    List.flatMap_map, references_ownSurvey]

end DryRun

end PromptMarkup
