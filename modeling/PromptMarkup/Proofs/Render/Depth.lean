import PromptMarkup.Proofs.Render.Absorbed
import PromptMarkup.Proofs.Render.Turns
/-!
# Render — the limit on inclusions

Templates may include themselves and each other, also from within loops. A
render ends all the same, and on its way there are never more inclusions open
than the limit says.

A greater limit may change what is rendered where a failure is absorbed that
the limit brought about. Where every failure ends the render it changes
nothing that succeeds: no step of it met the limit (`retains_renderAll`). The
two together are `execute_bounded`.
-/

namespace PromptMarkup

/-- What resolves under a limit resolves to the same under a greater one. -/
theorem Tree.effective_of_le {σ : Type} {load : String → Effect σ (Option Tree)}
    {limit limit' : Nat} {t : Tree} {s s' : σ} {nodes : List Node} (hle : limit ≤ limit')
    (h : (effective load limit t).run s = (.ok nodes, s')) :
    (effective load limit' t).run s = (.ok nodes, s') := by
  obtain ⟨joined, hjoined, rfl⟩ := inherited_of_effective h
  obtain ⟨steps, root, s₁, hup, hlen, hnodup, ⟨hroot, hok⟩ | ⟨_, _, _, herror⟩⟩ :=
    inherited_spec load limit limit [t.name] t s rfl (by simp)
  · rw [hok] at hjoined
    cases hjoined
    rw [effective_run, hup.inherited_eq hroot (hlen.trans hle) hnodup]
  · rw [herror] at hjoined
    cases hjoined

namespace Engine

/-- The engine with another limit on how deep templates include and extend one
another. -/
def withDepth (e : Engine) (n : Nat) : Engine :=
  { e with options := { e.options with maxDepth := n } }

/-- What the one run succeeds with, where these templates are available, the
other does too, and they stay available. -/
def Retains (e : Engine) (store : Store) (α : Type) (run run' : Run α) : Prop :=
  ∀ j a j', e.available j.store = e.available store → run.run j = (.ok a, j') →
    run'.run j = (.ok a, j') ∧ e.available j'.store = e.available store

variable {e : Engine} {store : Store} {t : Template} {n : Nat} {place : Place} {ctx : Context}
  {node : Node} {nodes : List Node}

theorem congruence_retains (e : Engine) (store : Store) : Run.Congruence (e.Retains store) where
  pure _ _ _ _ hstore h := by
    obtain ⟨rfl, rfl⟩ := Run.pure_eq_ok_iff.1 h
    exact ⟨rfl, hstore⟩
  throw _ _ _ _ _ h := by cases h
  record read _ _ _ hstore h := by
    cases read <;> cases h <;> exact ⟨rfl, hstore⟩
  bind {_ _ first first' _ _} hfirst hnext := by
    intro j b j' hstore h
    obtain ⟨a, j₁, h₁, h₂⟩ := Run.bind_eq_ok_iff.1 h
    obtain ⟨h₁', hstore₁⟩ := hfirst j a j₁ hstore h₁
    obtain ⟨h₂', hstore₂⟩ := hnext a j₁ b j' hstore₁ h₂
    exact ⟨Run.bind_eq_ok_iff.2 ⟨a, j₁, h₁', h₂'⟩, hstore₂⟩

/-! ## What the limit has no part in -/

theorem course_withDepth (place : Place) (ctx : Context) (node : Node) :
    (e.withDepth n).course place ctx node = e.course place ctx node := by
  cases node <;> rfl

/-- Of a failure that is raised nothing is left. -/
theorem recover_ne_ok {info : NodeInfo} {tag : String} {failure : Failure} {r : Rendered}
    {j j' : Journal} (hraise : e.options.strategyFor info.strategy = .raise)
    (hfatal : failure.isFatal = false) :
    (e.recover place info tag failure).run j ≠ (.ok r, j') := by
  rw [recover_run hfatal, hraise]
  exact nofun

/-! ## A greater limit -/

/-- In the templates that are involved every failure is raised. -/
def Strict (e : Engine) (store : Store) (t : Template) : Prop :=
  ∀ node, e.Written store t node → e.options.strategyFor node.strategy? = .raise

/-- **An inclusion that succeeds is kept** if what it opens is. -/
theorem retains_inclusion {depth depth' : Nat} {info : NodeInfo} {template : String}
    {data : Option String} (hn : e.options.maxDepth ≤ n) (hdepth : depth ≤ depth')
    (hstrict : e.Strict store t)
    (hnode : e.Written store t (.inclusion info template data))
    (hbelow : ∀ less more, depth = less + 1 → less ≤ more → ∀ place ctx nodes,
      Node.Throughout (e.Written store t) nodes →
        e.Retains store _ (e.renderAll (e.enterAt less) place ctx nodes)
          ((e.withDepth n).renderAll ((e.withDepth n).enterAt more) place ctx nodes)) :
    e.Retains store _ (e.renderInclusion (e.enterAt depth) place ctx info template data)
      ((e.withDepth n).renderInclusion ((e.withDepth n).enterAt depth') place ctx info template
        data) := by
  intro j r j' hstore h
  rw [renderInclusion_run] at h
  rw [renderInclusion_run]
  cases hentry : e.entry (depth == 0) place ctx info template data j with
  | settled left =>
    rw [hentry] at h
    simp only at h
    obtain ⟨f, j₁, hrecovered⟩ := recovered_of_entry (h ▸ hentry)
    exact absurd hrecovered (recover_ne_ok (hstrict _ hnode) rfl)
  | opened place' ctx' nodes j₂ =>
    rw [hentry] at h
    obtain ⟨hroom, found, j₁, hload, hnodes, rfl, hctx⟩ := entry_eq_opened_iff.1 hentry
    -- there was room for it, so there is under a greater limit
    have hentry' : (e.withDepth n).entry (depth' == 0) place ctx info template data j =
        .opened (found.place place.inTurn) ctx' nodes j₂ := by
      refine entry_eq_opened_iff.2 ⟨?_, found, j₁, hload, ?_, rfl, hctx⟩
      · simp at hroom ⊢
        omega
      · exact Tree.effective_of_le hn hnodes
    rw [hentry']
    cases depth with
    | zero => cases hroom
    | succ less =>
      have hopens : e.Opens ⟨less + 1, place, ctx, j⟩ (.inclusion info template data)
          ⟨less, found.place place.inTurn, ctx', j₂⟩ nodes :=
        .template rfl rfl hload hnodes hctx
      obtain ⟨hstore₂, hwritten⟩ := hopens.written hstore hnode nofun
      exact hbelow less (depth' - 1) rfl (by omega) _ _ _ hwritten j₂ r j' hstore₂ h

/-- **Where every failure is raised, a render that succeeds is kept** under
every greater limit. -/
theorem retains_renderAll {depth depth' : Nat} (hn : e.options.maxDepth ≤ n)
    (hdepth : depth ≤ depth') (hstrict : e.Strict store t)
    (hnodes : Node.Throughout (e.Written store t) nodes) :
    e.Retains store _ (e.renderAll (e.enterAt depth) place ctx nodes)
      ((e.withDepth n).renderAll ((e.withDepth n).enterAt depth') place ctx nodes) := by
  have hkept := congruence_retains e store
  -- each inclusion that is opened takes one from both depths
  induction depth using Nat.strongRecOn generalizing depth' place ctx nodes with
  | ind depth below =>
  induction nodes using Node.inductionAll generalizing place ctx with
  | nil => exact hkept.pure _
  | cons node rest inside ih =>
    obtain ⟨⟨hnode, hbodies⟩, hrest⟩ := Node.throughout_cons.1 hnodes
    refine hkept.bind ?_ fun first => hkept.bind (ih hrest) fun more => hkept.pure _
    rw [renderNode_eq, renderNode_eq, course_withDepth]
    refine hkept.bind (hkept.record _) fun _ => ?_
    cases hcourse : e.course place ctx node with
    | done r => exact hkept.pure _
    | fails info tag failure =>
      obtain ⟨hinfo, hfatal⟩ := fits_of_course hcourse
      have hraise := hstrict node hnode
      rw [Node.strategy?, hinfo] at hraise
      exact fun j r j' _ h => absurd h (recover_ne_ok hraise hfatal)
    | refused failure => exact hkept.throw _
    | opens inTurn parts finish =>
      have hmem := (fits_of_course hcourse).2
      refine hkept.map _ ?_
      clear hcourse
      induction parts with
      | nil => exact hkept.pure _
      | cons part more ihparts =>
        have hbody := hmem part List.mem_cons_self
        refine hkept.bind (inside _ hbody (hbodies _ hbody)) fun first => ?_
        exact hkept.bind (ihparts fun other hother => hmem other (List.mem_cons_of_mem _ hother))
          fun _ => hkept.pure _
    | includes info template data =>
      obtain rfl := fits_of_course hcourse
      refine retains_inclusion hn hdepth hstrict hnode ?_
      exact fun less more hless hle place ctx nodes hwritten =>
        below less (hless ▸ Nat.lt_succ_self less) hle hwritten

/-- A render that succeeds where every failure is raised is the same under a
greater limit. -/
theorem render_withDepth {data : Value} {j j' : Journal} {r : Rendered}
    (hn : e.options.maxDepth ≤ n) (hstrict : e.Strict j.store t)
    (hrun : (e.render t data).run j = (.ok r, j')) :
    ((e.withDepth n).render t data).run j = (.ok r, j') := by
  obtain ⟨nodes, j₁, hnodes, hrun⟩ := Run.bind_eq_ok_iff.1 hrun
  have hnodes' : ((e.withDepth n).effective t).run j = (.ok nodes, j₁) :=
    Tree.effective_of_le hn hnodes
  have hwritten : Node.Throughout (e.Written j.store t) nodes :=
    Involved.self.written_effective rfl hnodes
  have hstore := (alike_effective e t).available_eq hnodes
  refine Run.bind_eq_ok_iff.2 ⟨nodes, j₁, hnodes', ?_⟩
  rw [renderAt_eq] at hrun ⊢
  exact (retains_renderAll hn hn hstrict hwritten j₁ r j' hstore hrun).1

/-- **Renders end, within the limit on inclusions, and a greater limit takes
nothing back.** The one run of the machine that renders a template ends as
`execute` does, and never has more inclusions open than the limit says. And
where the engine raises failures, and no node of an involved template names
another strategy, what `execute` succeeds with it succeeds with under every
greater limit. -/
theorem execute_bounded (e : Engine) (t : Template) (data : Value) (j : Journal) :
    (∃ history outcome, e.Finishes (e.launch t data j) history outcome ∧
      (e.execute t data).run j = (outcome.result.map Rendered.text, outcome.journal) ∧
      ∀ m ∈ history, m.opened = m.inclusions ∧ m.inclusions ≤ e.options.maxDepth) ∧
    (e.options.strategyFor none = .raise →
      (∀ user, e.Involved j.store t user →
        Node.Throughout (·.strategy? = none) user.tree.nodes) →
      ∀ out j', (e.execute t data).run j = (.ok out, j') →
        ∀ n, e.options.maxDepth ≤ n →
          ((e.withDepth n).execute t data).run j = (.ok out, j')) := by
  constructor
  · obtain ⟨history, hfinishes⟩ := finishes_render e t data j
    refine ⟨history, _, hfinishes, Run.run_map _ _ _, fun m hm => ?_⟩
    have hbalanced := hfinishes.balanced (fun _ hstart => balanced_launch hstart) m hm
    exact ⟨hbalanced.counted, hbalanced.counted ▸ hbalanced.bounded⟩
  · intro hraise hplain out j' hrun n hn
    have hstrict : e.Strict j.store t := by
      rintro node ⟨user, huser, origin, horigin, hbare⟩
      rw [← Node.strategy?_bare, ← hbare, Node.strategy?_bare, hplain user huser origin horigin]
      exact hraise
    obtain ⟨r, hrender, rfl⟩ := Run.map_eq_ok_iff.1 hrun
    exact Run.map_eq_ok_iff.2 ⟨r, render_withDepth hn hstrict hrender, rfl⟩

end Engine

namespace Sample

/-- An engine in which two inclusions may be open inside one another. -/
def shallow : Engine where
  options := { maxDepth := 2 }

/-- A template that includes itself in a loop, for each element with the data
of that element. -/
def outline : Template :=
  template shallow "outline" (tagged "prompty.for item=\"x\" in=\"xs\"" ++
    tagged "prompty.var name=\"x.name\" /" ++
    tagged "prompty.include template=\"outline\" with=\"x\" /" ++ tagged "/prompty.for")

/-- What an engine has left behind that knows it. -/
def outlined : Journal where
  store := [("outline", outline)]

/-- Data in which the elements nest twice. -/
def chapters : Value :=
  .record [("xs", .list [
    .record [("name", .text "a"), ("xs", .list [.record [("name", .text "b")]])],
    .record [("name", .text "c")]])]

/-- The template involves nothing but itself. -/
theorem involved_outline {user : Template}
    (h : shallow.Involved outlined.store outline user) : user = outline := by
  induction h with
  | self => rfl
  | mentioned _ hname hfound ih =>
    subst ih
    have hmentions : outline.mentions = ["outline"] := by decide +kernel
    rw [hmentions, List.mem_singleton] at hname
    subst hname
    exact (Option.some.inj (Except.ok.inj hfound)).symm

theorem execute_bounded_outline :
    (∃ history outcome, shallow.Finishes (shallow.launch outline chapters outlined) history
        outcome ∧ ∀ m ∈ history, m.inclusions ≤ 2) ∧
      ∃ j', ∀ n, 2 ≤ n →
        ((shallow.withDepth n).execute outline chapters).run outlined = (.ok "abc", j') := by
  obtain ⟨hends, hkept⟩ := Engine.execute_bounded shallow outline chapters outlined
  obtain ⟨text, j', hrun, rfl⟩ :=
    run_ok (shallow.execute outline chapters) outlined (· = "abc") (by decide +kernel)
  constructor
  · obtain ⟨history, outcome, hfinishes, _, hdepth⟩ := hends
    exact ⟨history, outcome, hfinishes, fun m hm => (hdepth m hm).2⟩
  · refine ⟨j', hkept rfl (fun user huser => ?_) "abc" j' hrun⟩
    obtain rfl := involved_outline huser
    exact (by decide +kernel :
      ∀ node ∈ Node.withinAll outline.tree.nodes, node.strategy? = none)

end Sample

end PromptMarkup
