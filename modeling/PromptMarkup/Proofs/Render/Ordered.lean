import PromptMarkup.Proofs.Render.Evaluations
import PromptMarkup.Proofs.Render.Rounds
import PromptMarkup.Proofs.Value.Data
/-!
# Render — records in order

A render of data has nothing but data before it: a round of a loop binds what it
runs over, and a template is included with what a path leads to, or with all
there is. So all records that a render comes to are in order, in included
templates and in loops as well (`Engine.Comes.isOrdered`), and a loop over a
record takes its fields in the order of their names (`Engine.rounds_ascending`).
-/

namespace PromptMarkup

namespace Engine

variable {e : Engine} {ctx : Context} {head : LoopHead} {rounds : List (Value × Value)}

/-- What a loop runs over has elements in order. -/
theorem isOrdered_of_elements {found : Option Value} {elements : List (Value × Value)}
    (hfound : ∀ v ∈ found, v.isOrdered = true) (h : Value.elements? found = some elements) :
    ∀ element ∈ elements, element.1.isOrdered = true ∧ element.2.isOrdered = true := by
  cases found with
  | none =>
    cases h
    exact List.forall_mem_nil _
  | some v =>
    have hv := hfound v rfl
    cases v with
    | null =>
      cases h
      exact List.forall_mem_nil _
    | list items =>
      cases h
      intro element hmem
      obtain ⟨i, hi, rfl⟩ := List.mem_mapIdx.1 hmem
      exact ⟨rfl, Value.isOrdered_list.1 hv _ (List.getElem_mem hi)⟩
    | record fields =>
      cases h
      exact List.forall_mem_map.2 fun entry hmem => ⟨rfl, (Value.isOrdered_record.1 hv).2 _ hmem⟩
    | _ => cases h

theorem isOrdered_of_rounds (hctx : ctx.IsOrdered)
    (h : rounds? head.limit (ctx.lookup? head.source) = .ok rounds) :
    ∀ round ∈ rounds, round.1.isOrdered = true ∧ round.2.isOrdered = true := by
  cases helements : Value.elements? (ctx.lookup? head.source) with
  | some elements =>
    rw [rounds?_of_elements helements] at h
    cases h
    intro round hround
    have hmem := List.mem_of_mem_take hround
    exact isOrdered_of_elements (fun _ => hctx.lookup?) helements round hmem
  | none =>
    cases hfound : ctx.lookup? head.source with
    | none =>
      rw [hfound] at helements
      cases helements
    | some v =>
      rw [hfound] at helements h
      rw [rounds?_of_none head.limit helements] at h
      cases h

theorem isOrdered_roundContext (hctx : ctx.IsOrdered) (head : LoopHead) {round : Value × Value}
    (hround : round.1.isOrdered = true ∧ round.2.isOrdered = true) :
    (roundContext ctx head round).IsOrdered := by
  have hinner := hctx.push.bind head.item hround.2
  rw [roundContext]
  cases head.index with
  | none => exact hinner
  | some name => exact hinner.bind name hround.1

/-- What a node opens of its own has data before it if the node has. -/
theorem isOrdered_of_course {place : Place} {node : Node} {inTurn : Bool}
    {parts : List (Context × List Node)} {finish : Rendered → Rendered} (hctx : ctx.IsOrdered)
    (h : e.course place ctx node = .opens inTurn parts finish) :
    ∀ part ∈ parts, part.1.IsOrdered := by
  cases node with
  | loop info head body =>
    rw [course] at h
    split at h
    · next rounds hrounds =>
      cases h
      exact List.forall_mem_map.2 fun round hround =>
        isOrdered_roundContext hctx head (isOrdered_of_rounds hctx hrounds round hround)
    · cases h
  | _ =>
    simp only [course] at h
    -- of the others each that opens a body opens it in the context of the node
    repeat' split at h
    all_goals first
      | (cases h; exact List.forall_mem_singleton.2 hctx)
      | cases h

/-- A template is included with data. -/
theorem isOrdered_of_forInclusion? {ctx' : Context} {data : Option String} (hctx : ctx.IsOrdered)
    (h : ctx.forInclusion? data = some ctx') : ctx'.IsOrdered := by
  cases data with
  | none =>
    cases h
    exact hctx
  | some path =>
    obtain ⟨v, hfound, rfl⟩ := Option.map_eq_some_iff.1 h
    exact Context.isOrdered_root (hctx.lookup? hfound)

/-- **Whatever a render of data comes to has data before it.** -/
theorem Comes.isOrdered {s s' : Stand} {nodes : List Node} {node : Node}
    (h : e.Comes s nodes s' node) (hs : s.ctx.IsOrdered) : s'.ctx.IsOrdered := by
  induction h with
  | here => exact hs
  | later _ _ ih => exact ih hs
  | inside hopens _ ih =>
    refine ih ?_
    cases hopens with
    | part hcourse =>
      exact isOrdered_of_course hs hcourse _ (List.mem_append_right _ List.mem_cons_self)
    | template _ _ _ _ hctx => exact isOrdered_of_forInclusion? hs hctx

/-- **Every loop that a render of data comes to takes the fields of a record in
the order of the bytes of their names.** -/
theorem rounds_ascending {t : Template} {data : Data} {j : Journal} {nodes body : List Node}
    {s : Stand} {info : NodeInfo}
    (h : e.Comes (e.start t data.value j) nodes s (.loop info head body))
    {fields : Keyed Value} (hfound : s.ctx.lookup? head.source = some (.record fields))
    {elements : List (Value × Value)}
    (helements : Value.elements? (some (.record fields)) = some elements) :
    (head.allowed elements).Pairwise fun a b => ∃ key key', a.1 = .text key ∧ b.1 = .text key' ∧
      key.toUTF8.data.toList < key'.toUTF8.data.toList := by
  have hctx := h.isOrdered (Context.isOrdered_root data.isOrdered)
  exact allowed_ascending (Value.isOrdered_record.1 (hctx.lookup? hfound)).1 helements

end Engine

end PromptMarkup
