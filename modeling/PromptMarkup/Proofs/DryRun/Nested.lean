import PromptMarkup.Proofs.DryRun.Survey
import PromptMarkup.Proofs.Inherit.Effective
/-!
# DryRun — what a dry run refuses

A survey fails at the first turn that stands inside another, and at nothing
else (`failure?_surveyAll`). So a dry run fails where the inheritance of its
template does, with that failure, or where inheritance has put a turn into a
turn (`Engine.dryRun_eq_error_iff`). A single template has no such turns, but
a block that stands in a turn may be given a body with turns of its own.
-/

namespace PromptMarkup

namespace Node

/-- Where a turn stands. -/
def turn? : Node → Option Position
  | .message _ position _ _ => some position
  | _ => none

/-- The turns among nodes, at any depth and in document order. -/
def turns (nodes : List Node) : List Position :=
  (withinAll nodes).filterMap turn?

/-- The turns inside other turns: those that each turn has in it, one turn
after another. -/
def nestedTurns (nodes : List Node) : List Position :=
  (withinAll nodes).flatMap fun node => if node.turn?.isSome then node.bodies.flatMap turns else []

/-- The turns of nodes are the first node if it is one, those in its bodies
and those after it. -/
theorem turns_cons (node : Node) (rest : List Node) :
    turns (node :: rest) = node.turn?.toList ++ node.bodies.flatMap turns ++ turns rest := by
  rw [turns, withinAll_cons, within_eq, List.cons_append, List.filterMap_cons,
    List.filterMap_append, List.filterMap_flatMap]
  cases node.turn? <;> rfl

theorem nestedTurns_cons (node : Node) (rest : List Node) :
    nestedTurns (node :: rest) =
      (if node.turn?.isSome then node.bodies.flatMap turns else []) ++
        node.bodies.flatMap nestedTurns ++ nestedTurns rest := by
  rw [nestedTurns, withinAll_cons, within_eq, List.cons_append, List.flatMap_cons,
    List.flatMap_append, List.flatMap_assoc, ← List.append_assoc]
  rfl

/-- Where there are no turns none is nested. -/
theorem nestedTurns_eq_nil {nodes : List Node} (h : turns nodes = []) : nestedTurns nodes = [] := by
  induction nodes using inductionAll with
  | nil => rfl
  | cons node rest inside ih =>
    rw [turns_cons, List.append_eq_nil_iff, List.append_eq_nil_iff] at h
    obtain ⟨⟨_, hbodies⟩, hrest⟩ := h
    rw [nestedTurns_cons, hbodies, ih hrest, ite_self, List.nil_append, List.append_nil]
    refine List.flatMap_eq_nil_iff.2 fun body hbody => inside body hbody ?_
    exact List.flatMap_eq_nil_iff.1 hbodies body hbody

/-- The first turn that may not stand where it does: inside a turn any turn,
and elsewhere the first that is nested. -/
def misplaced? (inTurn : Bool) (nodes : List Node) : Option Position :=
  (if inTurn then turns nodes else nestedTurns nodes).head?

@[simp] theorem misplaced?_nil (inTurn : Bool) : misplaced? inTurn [] = none := by
  cases inTurn <;> rfl

/-- The first misplaced turn is in the bodies of a node or after it, unless
the node is a turn. -/
theorem misplaced?_cons {node : Node} (h : node.turn? = none) (inTurn : Bool) (rest : List Node) :
    misplaced? inTurn (node :: rest) =
      (node.bodies.findSome? (misplaced? inTurn)).or (misplaced? inTurn rest) := by
  cases inTurn with
  | true =>
    simp only [misplaced?, if_true, turns_cons, h, Option.toList_none, List.nil_append,
      List.head?_append, List.head?_flatMap]
    rfl
  | false =>
    simp only [misplaced?, Bool.false_eq_true, if_false, nestedTurns_cons, h, Option.isSome_none,
      List.nil_append, List.head?_append, List.head?_flatMap]
    rfl

/-- A turn is itself misplaced inside a turn, and elsewhere the turns in it
are. -/
theorem misplaced?_message (span : Span) (position : Position) (role : String)
    (body rest : List Node) (inTurn : Bool) :
    misplaced? inTurn (.message span position role body :: rest) =
      (if inTurn then some position else misplaced? true body).or (misplaced? inTurn rest) := by
  cases inTurn with
  | true => simp [misplaced?, turns_cons, turn?]
  | false =>
    -- the turns nested deeper in the body come after the first one in it
    have hfirst : (turns body ++ nestedTurns body).head? = (turns body).head? := by
      cases hturns : turns body with
      | nil => rw [nestedTurns_eq_nil hturns]; rfl
      | cons first more => rfl
    simp only [misplaced?, Bool.false_eq_true, if_false, if_true, nestedTurns_cons, turn?, bodies,
      Option.isSome_some, List.flatMap_cons, List.flatMap_nil, List.append_nil]
    rw [List.head?_append, hfirst]

end Node

namespace DryRun

/-- What a survey failed with, if it did. -/
def failure? : Except Failure Survey → Option Failure
  | .ok _ => none
  | .error failure => some failure

/-- The failure at a turn that stands inside another. -/
def refusal (position : Position) : Failure :=
  .render .nestedMessage none (some position)

variable {g : Ground} {inTurn : Bool}

@[simp] theorem failure?_map (f : Survey → Survey) (result : Except Failure Survey) :
    failure? (result.map f) = failure? result := by
  cases result <;> rfl

theorem failure?_eq_some_iff {result : Except Failure Survey} {failure : Failure} :
    failure? result = some failure ↔ result = .error failure := by
  cases result <;> simp [failure?]

/-- Nodes are refused for the first of them that is, -/
theorem failure?_surveyAll_cons (g : Ground) (inTurn : Bool) (node : Node) (rest : List Node) :
    failure? (surveyAll g inTurn (node :: rest)) =
      (failure? (surveyNode g inTurn node)).or (failure? (surveyAll g inTurn rest)) := by
  rw [surveyAll]
  cases surveyNode g inTurn node with
  | error failure => rfl
  | ok first => exact failure?_map _ _

/-- and so are the bodies of branches. -/
theorem failure?_surveyBranches (g : Ground) (inTurn : Bool) (selected : Option Nat)
    (branches : List Branch) :
    failure? (surveyBranches g inTurn selected branches) =
      (branches.map Branch.body).findSome? fun body => failure? (surveyAll g inTurn body) := by
  induction branches generalizing selected with
  | nil => rfl
  | cons branch rest ih =>
    obtain ⟨position, source, condition, body⟩ := branch
    rw [surveyBranches, List.map_cons, List.findSome?_cons, Branch.body]
    cases surveyAll g inTurn body with
    | error failure => rfl
    | ok first =>
      simp only [failure?_map, ih]
      rfl

/-- A node that is no turn is refused for the first of its bodies that is. -/
theorem failure?_surveyNode {node : Node} (h : node.turn? = none) :
    failure? (surveyNode g inTurn node) =
      node.bodies.findSome? fun body => failure? (surveyAll g inTurn body) := by
  cases node with
  | message span position role body => cases h
  | choice info branches otherwise =>
    cases otherwise with
    | none => rw [surveyNode, failure?_map, failure?_surveyBranches]; rfl
    | some body =>
      rw [surveyNode, Node.bodies, List.findSome?_append, ← failure?_surveyBranches]
      cases surveyBranches g inTurn (selected? g branches) branches with
      | error failure => rfl
      | ok own => cases hlast : surveyAll g inTurn body <;> simp [failure?, hlast]
  | blockTag info name attrs body =>
    simp only [surveyNode, failure?_map, Node.bodies, List.findSome?_singleton]
  | loop info head body =>
    simp only [surveyNode, failure?_map, Node.bodies, List.findSome?_singleton]
  | block span position name body => simp only [surveyNode, Node.bodies, List.findSome?_singleton]
  | _ => rfl

/-- **A survey fails at the first misplaced turn**, and at nothing else. -/
theorem failure?_surveyAll (g : Ground) (inTurn : Bool) (nodes : List Node) :
    failure? (surveyAll g inTurn nodes) = (Node.misplaced? inTurn nodes).map refusal := by
  induction nodes using Node.inductionAll generalizing inTurn with
  | nil => simp [surveyAll, failure?]
  | cons node rest inside ih =>
    rw [failure?_surveyAll_cons, ih]
    cases hturn : node.turn? with
    | none =>
      have hbodies : (node.bodies.findSome? fun body => failure? (surveyAll g inTurn body)) =
          (node.bodies.findSome? (Node.misplaced? inTurn)).map refusal := by
        rw [List.map_findSome?, ← List.head?_filterMap, ← List.head?_filterMap]
        exact congrArg _ (List.filterMap_congr fun body hbody => inside body hbody inTurn)
      rw [failure?_surveyNode hturn, hbodies, Node.misplaced?_cons hturn, Option.map_or]
    | some position =>
      cases node with
      | message span own role body =>
        rw [Node.misplaced?_message, Option.map_or, surveyNode]
        cases inTurn with
        | true => rfl
        | false =>
          have hbody := inside body (List.mem_singleton_self _) true
          simp only [Bool.false_eq_true, if_false, hbody]
      | _ => cases hturn

end DryRun

/-- **A dry run fails in two ways**: where the inheritance of its template
cannot be resolved, with that failure, and where a turn of the nodes that the
template stands for is inside another, at the first such turn. -/
theorem Engine.dryRun_eq_error_iff {e : Engine} {t : Template} {data : Value} {j j' : Journal}
    {failure : Failure} :
    (e.dryRun t data).run j = (.error failure, j') ↔
      (e.effective t).run j = (.error failure, j') ∨
        ∃ nodes position, (e.effective t).run j = (.ok nodes, j') ∧
          (Node.nestedTurns nodes).head? = some position ∧
          failure = .render .nestedMessage none (some position) := by
  rw [dryRun, Run.bind_eq_error_iff]
  refine or_congr_right ?_
  have hsurvey : ∀ nodes, DryRun.surveyAll ⟨e, data, e.has j'.store⟩ false nodes = .error failure ↔
      ∃ position, (Node.nestedTurns nodes).head? = some position ∧
        failure = .render .nestedMessage none (some position) := by
    intro nodes
    rw [← DryRun.failure?_eq_some_iff, DryRun.failure?_surveyAll, Option.map_eq_some_iff]
    exact exists_congr fun position => and_congr_right fun _ => eq_comm
  constructor
  · rintro ⟨nodes, j₁, hnodes, h⟩
    -- past its inheritance a dry run changes nothing any more
    obtain h | ⟨_, _, hget, h⟩ := Run.bind_eq_error_iff.1 h
    · cases h
    cases hget
    obtain h | ⟨_, _, _, h⟩ := Run.bind_eq_error_iff.1 h
    · rw [Run.run_liftM] at h
      obtain ⟨herror, rfl⟩ := Prod.mk.inj h
      obtain ⟨position, hposition⟩ := (hsurvey nodes).1 herror
      exact ⟨nodes, position, hnodes, hposition⟩
    · cases h
  · rintro ⟨nodes, position, hnodes, hposition⟩
    refine ⟨nodes, j', hnodes, Run.bind_eq_error_iff.2 (.inr ⟨_, _, Run.run_get j', ?_⟩)⟩
    refine Run.bind_eq_error_iff.2 (.inl ?_)
    rw [Run.run_liftM, (hsurvey nodes).2 ⟨position, hposition⟩]

/-- **Only its inheritance makes a dry run fail** if and only if the template
stands for no nodes in which a turn is inside another. With such turns the
dry run fails at the first of them. -/
theorem Engine.dryRun_fails_iff (e : Engine) (t : Template) (data : Value) (j : Journal) :
    ((∀ failure j', (e.dryRun t data).run j = (.error failure, j') ↔
        (e.effective t).run j = (.error failure, j')) ↔
      ∀ nodes j', (e.effective t).run j = (.ok nodes, j') → Node.nestedTurns nodes = []) ∧
    ∀ nodes j' position, (e.effective t).run j = (.ok nodes, j') →
      (Node.nestedTurns nodes).head? = some position →
        (e.dryRun t data).run j = (.error (.render .nestedMessage none (some position)), j') := by
  have hnested : ∀ nodes j' position, (e.effective t).run j = (.ok nodes, j') →
      (Node.nestedTurns nodes).head? = some position →
        (e.dryRun t data).run j = (.error (.render .nestedMessage none (some position)), j') :=
    fun nodes j' position hnodes hposition =>
      dryRun_eq_error_iff.2 (.inr ⟨nodes, position, hnodes, hposition, rfl⟩)
  refine ⟨⟨fun h nodes j' hnodes => ?_, fun h failure j' => ?_⟩, hnested⟩
  · cases hturns : Node.nestedTurns nodes with
    | nil => rfl
    | cons position more =>
      have herror := (h _ _).1 (hnested nodes j' position hnodes (by rw [hturns]; rfl))
      rw [hnodes] at herror
      cases herror
  · rw [dryRun_eq_error_iff]
    refine or_iff_left ?_
    rintro ⟨nodes, position, hnodes, hposition, _⟩
    rw [h nodes j' hnodes] at hposition
    cases hposition

namespace Sample

/-- A turn around a block. -/
def frame : Template :=
  template {} "frame" (tagged "prompty.message role=\"user\"" ++
    tagged "prompty.block name=\"a\"" ++ tagged "/prompty.block" ++ tagged "/prompty.message")

/-- A template that puts a turn into the block. -/
def filled : Template :=
  template {} "filled" (tagged "prompty.extends template=\"frame\" /" ++
    tagged "prompty.block name=\"a\"" ++ tagged "prompty.message role=\"system\"" ++ "b" ++
    tagged "/prompty.message" ++ tagged "/prompty.block")

/-- What an engine has left behind that knows the frame. -/
def framing : Journal where
  store := Keyed.insert "frame" frame []

/-- **A dry run fails although inheritance does not.** -/
theorem dryRun_filled :
    (∃ source, ({} : Engine).parse "frame" source = .ok frame) ∧
      (∃ source, ({} : Engine).parse "filled" source = .ok filled) ∧
      (∃ nodes j', (({} : Engine).effective filled).run framing = (.ok nodes, j')) ∧
      ∃ position j', (({} : Engine).dryRun filled .null).run framing =
        (.error (.render .nestedMessage none (some position)), j') := by
  have hrun : (match (({} : Engine).effective filled).run framing with
      | (.ok nodes, _) => (Node.nestedTurns nodes).head?.isSome
      | (.error _, _) => false) = true := by decide +kernel
  refine ⟨⟨_, parse_template (by decide +kernel)⟩, ⟨_, parse_template (by decide +kernel)⟩, ?_⟩
  split at hrun
  · next nodes j' hnodes =>
    obtain ⟨position, hposition⟩ := Option.isSome_iff_exists.1 hrun
    exact ⟨⟨nodes, j', hnodes⟩, position, j',
      Engine.dryRun_eq_error_iff.2 (.inr ⟨nodes, position, hnodes, hposition, rfl⟩)⟩
  · cases hrun

end Sample

end PromptMarkup
