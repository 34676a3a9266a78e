import PromptMarkup.Proofs.DryRun.Inventory
import PromptMarkup.Proofs.Expr.Declared
import PromptMarkup.Proofs.Render.Course
import PromptMarkup.Proofs.Value.Leaf
/-!
# Render — what a render takes from the data

Nodes that hand nothing over, neither to a resolver nor to another template,
see of the data only what their own paths lead to. Loops bind values that
were found under such a path, so the scopes of two renders stay the same,
and only the data at their bottom differ. So data in which all these paths
lead to the same render to the same (`renderAll_congr`).
-/

namespace PromptMarkup

/-- A node that leaves its text neither to a resolver nor to another
template. -/
def Node.isInternal : Node → Bool
  | .tag .. | .blockTag .. | .inclusion .. => false
  | .text .. | .comment .. | .var .. | .choice .. | .loop .. | .extending .. | .block ..
  | .parent .. | .message .. => true

namespace Engine

variable {e : Engine} {enter : Option Renderer} {v w : Value} {scopes : List (Keyed Value)}
  {paths : List String}

/-- The conditions of a choice select the same body. -/
theorem pick_congr (fs : Functions) (otherwise : Option (List Node)) {branches : List Branch}
    (scopes : List (Keyed Value)) (hagree : v.AgreeOn paths w)
    (hreads : ∀ path ∈ branches.flatMap (·.condition.paths), path ∈ paths) :
    pick ⟨v, scopes⟩ fs otherwise branches = pick ⟨w, scopes⟩ fs otherwise branches := by
  induction branches with
  | nil => rfl
  | cons branch rest ih =>
    obtain ⟨position, source, condition, body⟩ := branch
    rw [List.flatMap_cons] at hreads
    obtain ⟨hown, hrest⟩ := List.forall_mem_append.1 hreads
    have hholds : condition.holds ⟨v, scopes⟩ fs = condition.holds ⟨w, scopes⟩ fs :=
      congrArg _ (condition.eval_congr (fun path hpath => hagree path (hown path hpath) scopes)
        fun _ _ _ => rfl)
    rw [pick, pick, hholds, ih hrest]

/-- A round adds to the scopes, whatever data they stand above. -/
theorem exists_roundContext (scopes : List (Keyed Value)) (head : LoopHead)
    (round : Value × Value) : ∃ inner, ∀ data, roundContext ⟨data, scopes⟩ head round =
      ⟨data, inner⟩ := by
  refine ⟨(roundContext ⟨.null, scopes⟩ head round).scopes, fun data => ?_⟩
  rw [roundContext, roundContext]
  cases head.index <;> rfl

/-- Rounds render the same if each of them does. -/
theorem renderRounds_congr {body : Context → Run Rendered} (head : LoopHead)
    (hbody : ∀ inner, body ⟨v, inner⟩ = body ⟨w, inner⟩) (rounds : List (Value × Value)) :
    renderRounds body ⟨v, scopes⟩ head rounds = renderRounds body ⟨w, scopes⟩ head rounds := by
  induction rounds with
  | nil => rfl
  | cons round rest ih =>
    obtain ⟨inner, hinner⟩ := exists_roundContext scopes head round
    rw [renderRounds, renderRounds, ih, hinner, hinner, hbody]

/-- **Nodes render the same** from data in which the paths they look up lead
to the same, under whatever scopes. -/
theorem renderAll_congr (hagree : v.AgreeOn paths w) {nodes : List Node}
    (hinternal : Node.Throughout (·.isInternal = true) nodes)
    (hreads : ∀ node ∈ Node.withinAll nodes, ∀ path ∈ node.reads, path ∈ paths) (place : Place)
    (scopes : List (Keyed Value)) :
    e.renderAll enter place ⟨v, scopes⟩ nodes = e.renderAll enter place ⟨w, scopes⟩ nodes := by
  suffices go : ∀ place scopes,
      e.renderAll enter place ⟨v, scopes⟩ nodes = e.renderAll enter place ⟨w, scopes⟩ nodes from
    go place scopes
  refine Node.inductionWithin (P := fun nodes => ∀ place scopes,
    e.renderAll enter place ⟨v, scopes⟩ nodes = e.renderAll enter place ⟨w, scopes⟩ nodes)
    (fun _ _ => rfl) ?_
  intro node rest hnode inside ih place scopes
  have hinside := hinternal node hnode
  have hlookup : ∀ path ∈ node.reads, (Context.mk v scopes).lookup? path =
      (Context.mk w scopes).lookup? path := fun path hpath =>
    hagree path (hreads node hnode path hpath) scopes
  have hsame : e.renderNode enter place ⟨v, scopes⟩ node =
      e.renderNode enter place ⟨w, scopes⟩ node := by
    cases node with
    | var info path =>
      simp only [renderNode, renderVar, resolution, hlookup path (List.mem_singleton_self path)]
    | choice info branches otherwise =>
      have hpick := pick_congr e.functions otherwise scopes hagree (hreads _ hnode)
      cases hchosen : pick ⟨w, scopes⟩ e.functions otherwise branches with
      | error failure =>
        rw [renderNode_eq, renderNode_eq, course, course, hpick, hchosen]
        rfl
      | ok chosen =>
        rw [renderNode_choice_of_pick hchosen, renderNode_choice_of_pick (hpick.trans hchosen)]
        cases chosen with
        | none => rfl
        | some body => exact inside body (mem_bodies_of_pick hchosen) place scopes
    | loop info head body =>
      simp only [renderNode, hlookup head.source (List.mem_singleton_self _)]
      split
      · exact renderRounds_congr head (inside body (List.mem_singleton_self _) place) _
      · rfl
    | block span position name body =>
      simp only [renderNode, inside body (List.mem_singleton_self _)]
    | message span position role body =>
      simp only [renderNode, inside body (List.mem_singleton_self _)]
    | tag info name attrs => cases hinside
    | blockTag info name attrs body => cases hinside
    | inclusion info template data => cases hinside
    | _ => rfl
  rw [renderAll, renderAll, hsame, ih]

end Engine

end PromptMarkup
