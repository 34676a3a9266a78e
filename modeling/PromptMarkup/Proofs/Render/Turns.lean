import PromptMarkup.Proofs.Render.Machine
import PromptMarkup.Proofs.Tree.Regular
/-!
# Render — the turns that a run takes

The machine renders what rendering does (`finishes_render`). On its way it
comes to messages, and what it renders from there to the end of a message is a
`Turn`. The segments that a render records are those of the turns that its
run takes, one for each machine that comes to a message, in the order of the
run (`Tells`); they do not overlap, because the text only grows. Within a turn
no other is taken: that would end the render.
-/

namespace PromptMarkup

/-- A turn that a render takes: where it begins, whose it is and what it
says. -/
structure Turn where
  begun : Machine
  role : String
  text : String

namespace Turn

/-- The message of a turn: what it says, without white space around it. -/
def message (turn : Turn) : Message :=
  ⟨turn.role, Text.trimmed turn.text⟩

/-- The stretch of the rendered text that a turn is. -/
def segment (turn : Turn) : Segment :=
  let start := turn.begun.done.text.utf8ByteSize
  ⟨turn.role, start, start + turn.text.utf8ByteSize⟩

end Turn

/-- What a course tells of turns: only a message takes one, and it opens its
body with what closes the turn; all else leaves the turn as it is and adds
text alone. -/
def Course.Turns (place : Place) (ctx : Context) (node : Node) : Course → Prop
  | .done r => node.isMessage = false ∧ r.segments = []
  | .fails _ _ _ => node.isMessage = false
  | .refused _ => True
  | .opens inTurn parts finish =>
    (node.isMessage = false ∧ inTurn = place.inTurn ∧
      ∃ lead : Rendered, lead.segments = [] ∧ finish = lead.append) ∨
    ∃ span position role body, node = .message span position role body ∧
      place.inTurn = false ∧ inTurn = true ∧ parts = [(ctx, body)] ∧ finish = (·.asTurn role)
  | .includes _ _ _ => node.isMessage = false

namespace Rendered

theorem shift_zero : shift 0 = id := by
  funext s
  simp only [shift, Nat.zero_add, id_eq]

theorem shift_comp_shift (m n : Nat) : shift m ∘ shift n = shift (m + n) := by
  funext s
  simp only [Function.comp_apply, shift, Segment.mk.injEq, true_and]
  omega

/-- To close a turn is to have its text as one. -/
theorem closing_append (a b : Rendered) (role : String) :
    (a.append b).closing role a.text.utf8ByteSize = a.append (b.asTurn role) := by
  simp only [closing, append, asTurn, List.map_append, List.append_assoc, List.map_cons,
    List.map_nil, shift, Nat.add_zero, String.utf8ByteSize_append]

end Rendered

namespace Engine

/-- A machine takes a turn: it comes to a message, and from there the body of
the message renders to the text of the turn. -/
inductive Takes (e : Engine) : Turn → Prop
  | message {m : Machine} {place : Place} {ctx : Context} {span : Span} {position : Position}
      {role : String} {body nodes : List Node} {rest : List Task} {inner : Rendered} {j : Journal}
      (htasks : m.tasks = .nodes place ctx (.message span position role body :: nodes) :: rest)
      (hbody : (e.renderAll (e.enterAt (e.options.maxDepth - m.opened))
        { place with inTurn := true } ctx body).run m.journal = (.ok inner, j)) :
      Takes e ⟨m, role, inner.text⟩

/-- A run from a machine, in which it renders `r`, takes these turns. -/
structure Tells (e : Engine) (m : Machine) (history : List Machine) (r : Rendered)
    (turns : List Turn) : Prop where
  /-- One begins wherever the run comes to a message. -/
  begun : turns.map Turn.begun = history.filter Machine.atTurn
  taken : ∀ turn ∈ turns, e.Takes turn
  /-- The render records each of them. -/
  recorded : r.segments.map (Rendered.shift m.done.text.utf8ByteSize) = turns.map Turn.segment
  /-- Its text is in what is rendered, where it begins. -/
  within : ∀ turn ∈ turns, ∃ before more,
    turn.begun.done.text = m.done.text ++ before ∧ r.text = before ++ turn.text ++ more
  /-- Each ends before the next begins. -/
  apart : turns.Pairwise fun turn later => turn.segment.stop ≤ later.segment.start

/-- From the machine, steps do what the run does: they render the same and
come to the tasks that are left, and within a turn they take none; or they
end with the same failure. -/
structure Carries (e : Engine) (m : Machine) (rest : List Task) (inTurn : Bool)
    (run : Run Rendered) : Prop where
  ok {r : Rendered} {j : Journal} (hrun : run.run m.journal = (.ok r, j)) :
    ∃ history turns, e.Passes m history (m.after r j rest) ∧ e.Tells m history r turns ∧
      (inTurn = true → turns = [])
  error {failure : Failure} {j : Journal} (hrun : run.run m.journal = (.error failure, j)) :
    ∃ history, e.Finishes (.going m) history ⟨.error failure, j⟩

variable {e : Engine} {m m₁ : Machine} {place : Place} {ctx : Context} {node : Node}
  {rest mid : List Task} {inTurn : Bool} {run first second : Run Rendered}
  {history history' : List Machine} {r r' : Rendered} {turns turns' : List Turn}

/-! ## What is told -/

/-- There is one turn that a machine takes. -/
theorem Takes.unique {turn turn' : Turn} (h : e.Takes turn) (h' : e.Takes turn')
    (hbegun : turn.begun = turn'.begun) : turn = turn' := by
  obtain ⟨htasks, hbody⟩ := h
  obtain ⟨htasks', hbody'⟩ := h'
  subst hbegun
  rw [htasks] at htasks'
  cases htasks'
  rw [hbody] at hbody'
  cases hbody'
  rfl

/-- Text without turns is rendered without taking one. -/
theorem tells_nil (hhistory : history.filter Machine.atTurn = []) (hr : r.segments = []) :
    e.Tells m history r [] where
  begun := hhistory.symm
  taken := nofun
  recorded := by rw [hr]; rfl
  within := nofun
  apart := .nil

/-- **What is rendered later is told later.** -/
theorem Tells.append (h : e.Tells m history r turns) (hdone : m₁.done = m.done.append r)
    (h' : e.Tells m₁ history' r' turns') :
    e.Tells m (history ++ history') (r.append r') (turns ++ turns') where
  begun := by rw [List.map_append, List.filter_append, h.begun, h'.begun]
  taken := List.forall_mem_append.2 ⟨h.taken, h'.taken⟩
  recorded := by
    have hlater := h'.recorded
    rw [hdone] at hlater
    have hsize : (m.done.append r).text.utf8ByteSize =
        m.done.text.utf8ByteSize + r.text.utf8ByteSize := String.utf8ByteSize_append
    rw [hsize] at hlater
    rw [Rendered.append, List.map_append, List.map_append, List.map_map,
      Rendered.shift_comp_shift, h.recorded, hlater]
  within := by
    refine List.forall_mem_append.2 ⟨fun turn hturn => ?_, fun turn hturn => ?_⟩
    · obtain ⟨before, more, hbegun, htext⟩ := h.within turn hturn
      refine ⟨before, more ++ r'.text, hbegun, ?_⟩
      simp only [Rendered.append, htext, String.append_assoc]
    · obtain ⟨before, more, hbegun, htext⟩ := h'.within turn hturn
      rw [hdone] at hbegun
      refine ⟨r.text ++ before, more, ?_, ?_⟩
      · rw [hbegun]
        simp only [Rendered.append, String.append_assoc]
      · simp only [Rendered.append, htext, String.append_assoc]
  apart := by
    refine List.pairwise_append.2 ⟨h.apart, h'.apart, fun turn hturn later hlater => ?_⟩
    -- the first ends in the text that was there when the second part began
    obtain ⟨before, more, hbegun, htext⟩ := h.within turn hturn
    obtain ⟨before', more', hbegun', htext'⟩ := h'.within later hlater
    simp only [Turn.segment, hbegun, hbegun', hdone, Rendered.append, htext,
      String.utf8ByteSize_append]
    omega

/-- What is rendered after a step that adds text alone is told from before
it. -/
theorem Tells.cons {lead : Rendered} (hquiet : m.atTurn = false) (hlead : lead.segments = [])
    (hdone : m₁.done = m.done.append lead) (h : e.Tells m₁ history r turns) :
    e.Tells m (m :: history) (lead.append r) turns := by
  have hfirst : e.Tells m [m] lead [] := tells_nil (by rw [List.filter_cons, hquiet]; rfl) hlead
  exact hfirst.append hdone h

/-- A step that adds nothing takes no turn. -/
theorem Tells.snoc (h : e.Tells m history r turns) (hdone : m₁.done = m.done.append r)
    (hquiet : m₁.atTurn = false) : e.Tells m (history ++ [m₁]) r turns := by
  have hlast : e.Tells m₁ [m₁] .nothing [] :=
    tells_nil (by rw [List.filter_cons, hquiet]; rfl) rfl
  have hboth := h.append hdone hlast
  rwa [Rendered.append_nothing, List.append_nil] at hboth

/-- **A turn is told** where the run comes to a message and takes no other
turn before its end. -/
theorem Tells.turn {turn : Turn} (hturn : e.Takes turn) (hat : turn.begun.atTurn = true)
    (h : e.Tells m₁ history r []) (htext : turn.text = r.text) :
    e.Tells turn.begun (turn.begun :: history) (r.asTurn turn.role) [turn] where
  begun := by rw [List.filter_cons, if_pos hat, ← h.begun]; rfl
  taken := List.forall_mem_singleton.2 hturn
  recorded := by
    have hnone : r.segments = [] := List.map_eq_nil_iff.1 h.recorded
    rw [Rendered.asTurn, hnone, List.nil_append, List.map_singleton, List.map_singleton,
      Rendered.shift, Turn.segment, htext, Nat.add_zero]
  within := List.forall_mem_singleton.2 ⟨"", "", by simp, by simp [Rendered.asTurn, htext]⟩
  apart := List.pairwise_singleton _ _

/-! ## What a course tells of turns -/

/-- What is left of a failure has no turn in it. -/
theorem segments_recover {info : NodeInfo} {tag : String} {failure : Failure} {j j' : Journal}
    (h : (e.recover place info tag failure).run j = (.ok r, j')) : r.segments = [] := by
  cases hfatal : failure.isFatal with
  | true =>
    rw [recover_of_isFatal hfatal] at h
    cases h
  | false =>
    rw [recover_run hfatal] at h
    cases hstrategy : e.options.strategyFor info.strategy <;> rw [hstrategy] at h <;> cases h <;>
      rfl

/-- **Only messages take turns.** -/
theorem course_turns (e : Engine) (place : Place) (ctx : Context) (node : Node) :
    (e.course place ctx node).Turns place ctx node := by
  have hbody : ∀ {node : Node} {parts : List (Context × List Node)} (lead : Rendered),
      node.isMessage = false → lead.segments = [] →
        (Course.opens place.inTurn parts lead.append).Turns place ctx node :=
    fun lead hnode hlead => .inl ⟨hnode, rfl, lead, hlead, rfl⟩
  have hid : (id : Rendered → Rendered) = Rendered.nothing.append :=
    funext fun r => r.nothing_append.symm
  cases node with
  | var info path =>
    rw [course]
    split <;> first | exact ⟨rfl, rfl⟩ | exact rfl
  | tag info name attrs =>
    rw [course]
    split <;> first | exact ⟨rfl, rfl⟩ | exact rfl
  | blockTag info name attrs body =>
    rw [course]
    split
    · exact hbody _ rfl rfl
    · exact rfl
  | choice info branches otherwise =>
    rw [course]
    split
    · exact hid ▸ hbody .nothing rfl rfl
    · exact ⟨rfl, rfl⟩
    · exact rfl
  | loop info head body =>
    rw [course]
    split
    · exact hid ▸ hbody .nothing rfl rfl
    · exact rfl
  | block span position name body =>
    rw [course]
    exact hid ▸ hbody .nothing rfl rfl
  | message span position role body =>
    rw [course]
    split
    · trivial
    · next hturn =>
      exact .inr ⟨span, position, role, body, rfl, Bool.eq_false_iff.2 hturn, rfl, rfl, rfl⟩
  | inclusion info template data => exact rfl
  | _ => exact ⟨rfl, rfl⟩

/-! ## Runs and steps -/

/-- A run that comes out as a node is settled is carried out in one step. -/
theorem carries_settle {left : Except Failure Rendered × Journal}
    (hstep : e.step m = m.settle rest left) (hrun : run.run m.journal = left)
    (hquiet : ∀ r j, left = (.ok r, j) → m.atTurn = false ∧ r.segments = []) :
    e.Carries m rest inTurn run where
  ok {r j} h := by
    obtain rfl := hrun.symm.trans h
    obtain ⟨hat, hr⟩ := hquiet r j rfl
    refine ⟨[m], [], .step hstep .here, tells_nil ?_ hr, fun _ => rfl⟩
    rw [List.filter_cons, hat]
    rfl
  error {failure j} h := by
    obtain rfl := hrun.symm.trans h
    exact ⟨[m], .going (hstep ▸ .ended)⟩

/-- **One run after another is carried out** if each is, from what is done
then. -/
theorem Carries.append (h : e.Carries m mid inTurn first)
    (h' : ∀ r j, first.run m.journal = (.ok r, j) →
      e.Carries (m.after r j mid) rest inTurn second) :
    e.Carries m rest inTurn (do
      let a ← first
      let b ← second
      pure (a.append b)) where
  ok {r j} hrun := by
    obtain ⟨a, j₁, hfirst, hrun⟩ := Run.bind_eq_ok_iff.1 hrun
    obtain ⟨b, j₂, hsecond, hrun⟩ := Run.bind_eq_ok_iff.1 hrun
    obtain ⟨rfl, rfl⟩ := Run.pure_eq_ok_iff.1 hrun
    obtain ⟨history, turns, hpasses, htells, hturn⟩ := h.ok hfirst
    obtain ⟨history', turns', hpasses', htells', hturn'⟩ := (h' a j₁ hfirst).ok hsecond
    have hafter : (m.after a j₁ mid).after b j₂ rest = m.after (a.append b) j₂ rest := by
      simp only [Machine.after, Rendered.append_assoc]
    refine ⟨_, _, hafter ▸ hpasses.append hpasses', htells.append rfl htells', fun h => ?_⟩
    rw [hturn h, hturn' h]
    rfl
  error {failure j} hrun := by
    obtain hfirst | ⟨a, j₁, hfirst, hrun⟩ := Run.bind_eq_error_iff.1 hrun
    · exact h.error hfirst
    · obtain hsecond | ⟨b, j₂, hsecond, hrun⟩ := Run.bind_eq_error_iff.1 hrun
      · obtain ⟨_, _, hpasses, _⟩ := h.ok hfirst
        obtain ⟨_, hfinishes⟩ := (h' a j₁ hfirst).error hsecond
        exact ⟨_, hpasses.finishes hfinishes⟩
      · exact absurd hrun Run.pure_ne_error

/-- From every machine that has these nodes before it, steps do what rendering
the nodes does. -/
def Walks (e : Engine) (depth : Nat) (place : Place) (ctx : Context) (nodes : List Node) : Prop :=
  ∀ m rest, m.opened + depth = e.options.maxDepth → m.tasks = .nodes place ctx nodes :: rest →
    e.Carries m rest place.inTurn (e.renderAll (e.enterAt depth) place ctx nodes)

variable {depth : Nat} {nodes : List Node}

/-- Sequences of nodes are rendered one after another. -/
theorem carries_parts {parts : List (Context × List Node)}
    (hparts : ∀ part ∈ parts, e.Walks depth place part.1 part.2)
    (hopened : m.opened + depth = e.options.maxDepth)
    (htasks : m.tasks = Task.ofParts place parts ++ rest) :
    e.Carries m rest place.inTurn (e.renderParts (e.enterAt depth) place parts) := by
  induction parts generalizing m with
  | nil =>
    obtain rfl : m.tasks = rest := htasks
    have hstay : m.after .nothing m.journal m.tasks = m := by
      rw [Machine.after, Rendered.append_nothing]
    exact {
      ok := by
        intro r j hrun
        obtain ⟨rfl, rfl⟩ := Run.pure_eq_ok_iff.1 hrun
        exact ⟨[], [], hstay.symm ▸ .here, tells_nil rfl rfl, fun _ => rfl⟩
      error := fun hrun => absurd hrun Run.pure_ne_error }
  | cons part more ih =>
    have hfirst := hparts part List.mem_cons_self m _ hopened htasks
    refine hfirst.append fun r j _ => ih ?_ hopened rfl
    exact fun other hother => hparts other (List.mem_cons_of_mem _ hother)

/-- An included template is rendered and left. -/
theorem carries_inside {j : Journal} (hnodes : e.Walks depth place ctx nodes)
    (hturn : place.inTurn = inTurn) (hopened : m.opened + (depth + 1) = e.options.maxDepth)
    (hat : m.atTurn = false)
    (hstep : e.step m = .going (m.inside place ctx nodes j rest))
    (hrun : run.run m.journal = (e.renderAll (e.enterAt depth) place ctx nodes).run j) :
    e.Carries m rest inTurn run := by
  subst hturn
  have hdepth : m.opened + 1 + depth = e.options.maxDepth := by omega
  have hinside := hnodes (m.inside place ctx nodes j rest) (.leave :: rest) hdepth rfl
  constructor
  · intro r j' h
    obtain ⟨history, turns, hpasses, htells, hturn⟩ := hinside.ok (hrun.symm.trans h)
    have hleave : e.step ((m.inside place ctx nodes j rest).after r j' (.leave :: rest)) =
        .going (m.after r j' rest) := rfl
    -- to enter and to leave adds nothing to the text
    have hsame : (m.inside place ctx nodes j rest).done = m.done.append .nothing :=
      m.done.append_nothing.symm
    have hquiet : ((m.inside place ctx nodes j rest).after r j' (.leave :: rest)).atTurn = false :=
      rfl
    have htold := (htells.snoc rfl hquiet).cons hat (rfl : Rendered.nothing.segments = []) hsame
    rw [Rendered.nothing_append] at htold
    exact ⟨_, turns, .step hstep (hpasses.snoc hleave), htold, hturn⟩
  · intro failure j' h
    obtain ⟨_, hfinishes⟩ := hinside.error (hrun.symm.trans h)
    exact ⟨_, .going (hstep ▸ hfinishes)⟩

/-- **An inclusion is carried out** if what may be included one level further
down is. -/
theorem carries_enter {info : NodeInfo} {template : String} {data : Option String}
    (hopened : m.opened + depth = e.options.maxDepth)
    (hbelow : ∀ less, depth = less + 1 → ∀ place ctx nodes, e.Walks less place ctx nodes)
    (hat : m.atTurn = false) (hstep : e.step m = e.enter m place ctx info template data rest) :
    e.Carries m rest place.inTurn
      (e.renderInclusion (e.enterAt depth) place ctx info template data) := by
  have hfull : decide (e.options.maxDepth ≤ m.opened) = (depth == 0) := by
    rw [← hopened]
    cases depth <;> simp
  have hrun := renderInclusion_run e depth place ctx info template data m.journal
  rw [enter, hfull] at hstep
  cases hentry : e.entry (depth == 0) place ctx info template data m.journal with
  | settled left =>
    rw [hentry] at hstep hrun
    refine carries_settle hstep hrun fun r j h => ⟨hat, ?_⟩
    obtain ⟨_, _, hrecovered⟩ := recovered_of_entry (h ▸ hentry)
    exact segments_recover hrecovered
  | opened place' ctx' nodes j =>
    rw [hentry] at hstep hrun
    obtain ⟨hroom, t, _, _, _, rfl, _⟩ := entry_eq_opened_iff.1 hentry
    cases depth with
    | zero => cases hroom
    | succ less =>
      have hnodes := hbelow less rfl (t.place place.inTurn) ctx' nodes
      exact carries_inside hnodes rfl hopened hat hstep hrun

/-- A node renders from what it recorded. -/
theorem renderNode_run (enter : Option Renderer) (node : Node) (j : Journal) :
    (e.renderNode enter place ctx node).run j =
      (e.follow enter place ctx (e.course place ctx node)).run
        ((record (node.read? ctx)).run j).2 := by
  rw [renderNode_eq, Tree.Effect.run_bind]
  cases node.read? ctx <;> rfl

/-- What opens bodies and is no message adds its own text and goes on with
them. -/
theorem visit_of_opens {parts : List (Context × List Node)} {finish : Rendered → Rendered}
    (hcourse : e.course place ctx node = .opens inTurn parts finish)
    (hplain : node.isMessage = false) :
    e.visit m place ctx node rest =
      .going (m.after (finish .nothing) m.journal
        (Task.ofParts { place with inTurn } parts ++ rest)) := by
  rw [visit, hcourse, (fits_of_course hcourse).1]
  cases node with
  | message span position role body => cases hplain
  | _ => rfl

/-- Bodies are carried out, and text before them. -/
theorem carries_bodies {lead : Rendered} {parts : List (Context × List Node)}
    (hopened : m.opened + depth = e.options.maxDepth) (hat : m.atTurn = false)
    (hlead : lead.segments = []) (hparts : ∀ part ∈ parts, e.Walks depth place part.1 part.2)
    (hstep : e.step m = .going (m.after lead m.journal (Task.ofParts place parts ++ rest))) :
    e.Carries m rest place.inTurn
      (lead.append <$> e.renderParts (e.enterAt depth) place parts) := by
  have hinside := carries_parts hparts
    (m := m.after lead m.journal (Task.ofParts place parts ++ rest)) hopened rfl
  constructor
  · intro r j hrun
    obtain ⟨inner, hinner, rfl⟩ := Run.map_eq_ok_iff.1 hrun
    obtain ⟨history, turns, hpasses, htells, hturn⟩ := hinside.ok hinner
    have hafter : (m.after lead m.journal (Task.ofParts place parts ++ rest)).after inner j rest =
        m.after (lead.append inner) j rest := by
      simp only [Machine.after, Rendered.append_assoc]
    exact ⟨_, turns, .step hstep (hafter ▸ hpasses), htells.cons hat hlead rfl, hturn⟩
  · intro failure j hrun
    obtain ⟨_, hfinishes⟩ := hinside.error (Run.map_eq_error_iff.1 hrun)
    exact ⟨_, .going (hstep ▸ hfinishes)⟩

/-- **A message is carried out** if its body is: it takes one turn, and its
body takes none. -/
theorem carries_turn {span : Span} {position : Position} {role : String} {body : List Node}
    (hopened : m.opened + depth = e.options.maxDepth) (houter : place.inTurn = false)
    (htasks : m.tasks = .nodes place ctx (.message span position role body :: nodes) :: rest)
    (hbody : e.Walks depth { place with inTurn := true } ctx body)
    (hstep : e.step m = .going { m with
      tasks := .nodes { place with inTurn := true } ctx body ::
        .endTurn role m.done.text.utf8ByteSize :: mid }) :
    e.Carries m mid place.inTurn
      ((·.asTurn role) <$>
        e.renderAll (e.enterAt depth) { place with inTurn := true } ctx body) := by
  have hinside := hbody { m with
    tasks := .nodes { place with inTurn := true } ctx body ::
      .endTurn role m.done.text.utf8ByteSize :: mid } _ hopened rfl
  constructor
  · intro r j hrun
    obtain ⟨inner, hinner, rfl⟩ := Run.map_eq_ok_iff.1 hrun
    obtain ⟨history, turns, hpasses, htells, hnone⟩ := hinside.ok hinner
    -- a turn inside would have ended the render, so the body's turns are none
    obtain rfl := hnone rfl
    have hclose : e.step (m.after inner j (.endTurn role m.done.text.utf8ByteSize :: mid)) =
        .going (m.after (inner.asTurn role) j mid) := by
      simp only [step, Machine.after, Rendered.closing_append]
    have hat : m.atTurn = true := by rw [Machine.atTurn, htasks]
    have hdepth : e.options.maxDepth - m.opened = depth := by omega
    have htaken : e.Takes ⟨m, role, inner.text⟩ := .message htasks (hdepth.symm ▸ hinner)
    have hquiet :
        (m.after inner j (.endTurn role m.done.text.utf8ByteSize :: mid)).atTurn = false := rfl
    have htold := (htells.snoc rfl hquiet).turn htaken hat rfl
    refine ⟨_, _, .step hstep (hpasses.snoc hclose), htold, fun hturn => ?_⟩
    rw [houter] at hturn
    cases hturn
  · intro failure j hrun
    obtain ⟨_, hfinishes⟩ := hinside.error (Run.map_eq_error_iff.1 hrun)
    exact ⟨_, .going (hstep ▸ hfinishes)⟩

/-- **A node is carried out** if its bodies are, and what it may include. -/
theorem carries_node (hopened : m.opened + depth = e.options.maxDepth)
    (htasks : m.tasks = .nodes place ctx (node :: nodes) :: rest)
    (hbodies : ∀ body ∈ node.bodies, ∀ place ctx, e.Walks depth place ctx body)
    (hbelow : ∀ less, depth = less + 1 → ∀ place ctx nodes, e.Walks less place ctx nodes) :
    e.Carries m (.nodes place ctx nodes :: rest) place.inTurn
      (e.renderNode (e.enterAt depth) place ctx node) := by
  have hstep : e.step m = e.visit m place ctx node (.nodes place ctx nodes :: rest) := by
    rw [step, htasks]
  have hat : m.atTurn = node.isMessage := by
    rw [Machine.atTurn, htasks]
    cases node <;> rfl
  have hturns := e.course_turns place ctx node
  cases hcourse : e.course place ctx node with
  | done r =>
    simp only [visit, hcourse] at hstep
    rw [hcourse] at hturns
    refine carries_settle hstep (by rw [renderNode_run, hcourse]; rfl) fun _ _ h => ?_
    cases h
    exact ⟨hat.trans hturns.1, hturns.2⟩
  | fails info tag failure =>
    simp only [visit, hcourse] at hstep
    rw [hcourse] at hturns
    refine carries_settle hstep (by rw [renderNode_run, hcourse]; rfl) fun _ _ h => ?_
    exact ⟨hat.trans hturns, segments_recover h⟩
  | refused failure =>
    simp only [visit, hcourse] at hstep
    refine carries_settle hstep (by rw [renderNode_run, hcourse]; rfl) fun _ _ h => ?_
    cases h
  | opens inTurn parts finish =>
    rw [hcourse] at hturns
    obtain ⟨hread, hmem⟩ := fits_of_course hcourse
    have hnode : e.renderNode (e.enterAt depth) place ctx node =
        finish <$> e.renderParts (e.enterAt depth) { place with inTurn } parts := by
      rw [renderNode_eq, hread, hcourse]
      rfl
    rw [hnode]
    obtain ⟨hplain, rfl, lead, hlead, rfl⟩ |
      ⟨span, position, role, body, rfl, houter, rfl, rfl, rfl⟩ := hturns
    · rw [visit_of_opens hcourse hplain, Rendered.append_nothing] at hstep
      exact carries_bodies hopened (hat.trans hplain) hlead
        (fun part hpart => hbodies _ (hmem part hpart) _ _) hstep
    · simp only [visit, hcourse] at hstep
      rw [renderParts_singleton]
      exact carries_turn hopened houter htasks (hbodies _ (List.mem_singleton_self _) _ _) hstep
  | includes info template data =>
    simp only [visit, hcourse] at hstep
    rw [hcourse] at hturns
    obtain rfl := fits_of_course hcourse
    have hnode : e.renderNode (e.enterAt depth) place ctx (.inclusion info template data) =
        e.renderInclusion (e.enterAt depth) place ctx info template data := by
      rw [renderNode_eq, hcourse]
      rfl
    rw [hnode]
    exact carries_enter hopened hbelow (hat.trans hturns) hstep

/-- **Steps do what rendering does.** -/
theorem walks (e : Engine) (depth : Nat) (place : Place) (ctx : Context) (nodes : List Node) :
    e.Walks depth place ctx nodes := by
  -- each inclusion that is opened takes one from the depth
  induction depth using Nat.strongRecOn generalizing place ctx nodes with
  | ind depth below =>
  induction nodes using Node.inductionAll generalizing place ctx with
  | nil =>
    intro m rest hopened htasks
    have hstep : e.step m = m.settle rest (.ok .nothing, m.journal) := by
      rw [step, htasks, Machine.settle, Machine.after, Rendered.append_nothing]
    refine carries_settle hstep rfl fun r j h => ?_
    cases h
    exact ⟨by rw [Machine.atTurn, htasks], rfl⟩
  | cons node more inside ih =>
    intro m rest hopened htasks
    refine (carries_node hopened htasks inside ?_).append fun r j _ => ih _ _ _ _ hopened rfl
    exact fun less hless => below less (hless ▸ Nat.lt_succ_self less)

/-! ## Whole renders -/

variable {t : Template} {data : Value} {j j' : Journal}

/-- **A render that succeeds is told**: the machine ends with its result, and
the turns on the way are those recorded. -/
theorem tells_render (hrun : (e.render t data).run j = (.ok r, j')) :
    ∃ m history turns, e.launch t data j = .going m ∧ m.done = .nothing ∧
      e.Finishes (.going m) history ⟨.ok r, j'⟩ ∧ e.Tells m history r turns := by
  obtain ⟨nodes, j₁, hnodes, hrun⟩ := Run.bind_eq_ok_iff.1 hrun
  rw [renderAt_eq] at hrun
  let start : Machine := ⟨.nothing, 0, [.nodes (t.place false) { root := data } nodes], j₁⟩
  have hlaunch : e.launch t data j = .going start := by
    rw [launch, hnodes]
  obtain ⟨history, turns, hpasses, htells, _⟩ :=
    (e.walks _ _ _ _ start [] (Nat.zero_add _) rfl).ok hrun
  have hend : e.Finishes (.going (start.after r j' [])) [start.after r j' []] ⟨.ok r, j'⟩ := by
    refine .going ?_
    have hended : e.step (start.after r j' []) = .ended ⟨.ok r, j'⟩ := by
      simp only [step, Machine.after, start, Rendered.nothing_append]
    exact hended ▸ .ended
  have hquiet : (start.after r j' []).atTurn = false := rfl
  exact ⟨start, _, turns, hlaunch, rfl, hpasses.finishes hend, htells.snoc rfl hquiet⟩

/-- **The machine renders what rendering does**, and ends with the same
outcome. -/
theorem finishes_render (e : Engine) (t : Template) (data : Value) (j : Journal) :
    ∃ history, e.Finishes (e.launch t data j) history
      ⟨((e.render t data).run j).1, ((e.render t data).run j).2⟩ := by
  rcases hrun : (e.render t data).run j with ⟨failure | r, j'⟩
  · obtain hnodes | ⟨nodes, j₁, hnodes, hrun⟩ := Run.bind_eq_error_iff.1 hrun
    · refine ⟨[], ?_⟩
      rw [launch, hnodes]
      exact .ended
    · rw [renderAt_eq] at hrun
      rw [launch, hnodes]
      exact (e.walks _ _ _ _ _ [] (Nat.zero_add _) rfl).error hrun
  · obtain ⟨m, history, _, hlaunch, _, hfinishes, _⟩ := tells_render hrun
    exact ⟨history, hlaunch ▸ hfinishes⟩

end Engine

end PromptMarkup
