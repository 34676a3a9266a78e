import PromptMarkup.Proofs.Render.Turns
import PromptMarkup.Proofs.Token.Spans
/-!
# Render — the conversation in a rendered text

A render that succeeds takes its turns one after another, and what it records
of them is exact: each segment covers the text of its turn, they do not
overlap, and so the messages cut out of the text are those of the turns
(`messages_exact`).

The turns are told by the segments alone. So a render that takes none is not
told from one of a template without messages, and what it rendered outside all
messages becomes a message of the user: only where a turn is taken, or nothing
but blanks is rendered, are the messages those of the turns
(`messages_eq_turns_iff`).
-/

namespace PromptMarkup

/-- What is recorded of turns in a rendered text is exact. -/
structure Rendered.Exact (r : Rendered) (turns : List Turn) : Prop where
  /-- The segments are those of the turns, in their order. -/
  recorded : r.segments = turns.map Turn.segment
  /-- What a turn says was added to what was rendered when it began. -/
  added : ∀ turn ∈ turns, ∃ more, r.text = turn.begun.done.text ++ turn.text ++ more
  /-- Its segment covers that, from one character to another. -/
  covered : ∀ turn ∈ turns,
    Span.Holds r.text.toList ⟨turn.segment.start, turn.segment.stop⟩ turn.text.toList
  /-- And it ends before the next one begins. -/
  apart : turns.Pairwise fun turn later => turn.segment.stop ≤ later.segment.start

namespace Rendered.Exact

variable {r : Rendered} {turns : List Turn}

/-- **The messages are those of the turns**, if there are any. -/
theorem messages_eq (h : r.Exact turns) (hturns : turns ≠ []) :
    r.messages = turns.map Turn.message := by
  have hsome : r.segments.isEmpty = false := by
    rw [h.recorded, List.isEmpty_eq_false_iff]
    exact fun hnone => hturns (List.map_eq_nil_iff.1 hnone)
  rw [Rendered.messages, hsome, if_neg Bool.false_ne_true, h.recorded, List.map_map]
  refine List.map_congr_left fun turn hturn => ?_
  have hslice := (h.covered turn hturn).slice_eq
  rw [String.ofList_toList] at hslice
  exact congrArg (fun text => Message.mk turn.role (Text.trimmed text)) hslice

/-- Without turns the whole text is a message of the user, unless it is
blank. -/
theorem messages_of_nil (h : r.Exact []) :
    r.messages = if Text.isBlankText r.text then [] else [⟨"user", Text.trimmed r.text⟩] := by
  rw [Rendered.messages, h.recorded]
  rfl

end Rendered.Exact

namespace Engine

variable {e : Engine} {t : Template} {data : Value} {j j' : Journal} {r : Rendered}
  {turns turns' : List Turn} {m : Machine} {history : List Machine}

/-- The turns that the render of a template takes: one wherever its run comes
to a message, in the order of the run. -/
def HasTurns (e : Engine) (t : Template) (data : Value) (j : Journal) (turns : List Turn) :
    Prop :=
  ∃ history outcome, e.Finishes (e.launch t data j) history outcome ∧
    turns.map Turn.begun = history.filter Machine.atTurn ∧ ∀ turn ∈ turns, e.Takes turn

/-- A render takes no other turns. -/
theorem HasTurns.unique (h : e.HasTurns t data j turns) (h' : e.HasTurns t data j turns') :
    turns = turns' := by
  obtain ⟨history, outcome, hfinishes, hbegun, htaken⟩ := h
  obtain ⟨history', outcome', hfinishes', hbegun', htaken'⟩ := h'
  obtain ⟨rfl, rfl⟩ := hfinishes.unique hfinishes'
  -- both have a turn for each machine of the one run that comes to a message
  have hsame := hbegun.trans hbegun'.symm
  clear hbegun hbegun'
  induction turns generalizing turns' with
  | nil => exact (List.map_eq_nil_iff.1 hsame.symm).symm
  | cons turn more ih =>
    cases turns' with
    | nil => cases hsame
    | cons turn' more' =>
      obtain ⟨hfirst, hrest⟩ := List.cons.inj hsame
      obtain ⟨hturn, hmore⟩ := List.forall_mem_cons.1 htaken
      obtain ⟨hturn', hmore'⟩ := List.forall_mem_cons.1 htaken'
      rw [hturn.unique hturn' hfirst, ih hmore hmore' hrest]

/-- What is told of a render from its beginning on is exact. -/
theorem Tells.exact (h : e.Tells m history r turns) (hstart : m.done = .nothing) :
    r.Exact turns := by
  have hempty : m.done.text = "" := by rw [hstart]; rfl
  have hadded : ∀ turn ∈ turns, ∃ more, r.text = turn.begun.done.text ++ turn.text ++ more := by
    intro turn hturn
    obtain ⟨before, more, hbegun, htext⟩ := h.within turn hturn
    rw [hempty, String.empty_append] at hbegun
    exact ⟨more, hbegun ▸ htext⟩
  refine ⟨?_, hadded, fun turn hturn => ?_, h.apart⟩
  · have hrecorded := h.recorded
    rwa [hempty, String.utf8ByteSize_empty, Rendered.shift_zero, List.map_id] at hrecorded
  · obtain ⟨more, htext⟩ := hadded turn hturn
    refine ⟨turn.begun.done.text.toList, more.toList, ?_, ?_⟩
    · rw [htext, String.toList_append, String.toList_append, List.append_assoc]
    · rw [Text.bytes_toList, Text.bytes_toList]
      rfl

/-- **What a render records of its turns is exact.** -/
theorem exact_render (hrun : (e.render t data).run j = (.ok r, j')) :
    ∃ turns, e.HasTurns t data j turns ∧ r.Exact turns := by
  obtain ⟨m, history, turns, hlaunch, hstart, hfinishes, htells⟩ := tells_render hrun
  exact ⟨turns, ⟨history, _, hlaunch ▸ hfinishes, htells.begun, htells.taken⟩,
    htells.exact hstart⟩

/-- The messages of a render that succeeds are those in its text. -/
theorem messages_run (hrun : (e.render t data).run j = (.ok r, j')) :
    (e.messages t data).run j = (.ok r.messages, j') :=
  Run.map_eq_ok_iff.2 ⟨r, hrun, rfl⟩

/-- **Messages are extracted exactly.** A render that succeeds takes certain
turns, what it records of them is exact, and if there are any the messages
are those of the turns. -/
theorem messages_exact (hrun : (e.render t data).run j = (.ok r, j')) :
    ∃ turns, (∀ turns', e.HasTurns t data j turns' ↔ turns' = turns) ∧ r.Exact turns ∧
      (turns ≠ [] → (e.messages t data).run j = (.ok (turns.map Turn.message), j')) := by
  obtain ⟨turns, hturns, hexact⟩ := exact_render hrun
  refine ⟨turns, fun turns' => ⟨fun h => h.unique hturns, fun h => h ▸ hturns⟩, hexact, ?_⟩
  intro hsome
  rw [messages_run hrun, hexact.messages_eq hsome]

/-! ## What stands outside of messages -/

/-- **What is rendered outside messages is dropped** where a turn is taken, or
where it is blank. Otherwise it is the only message. -/
theorem messages_eq_turns_iff (hrun : (e.render t data).run j = (.ok r, j'))
    (hturns : e.HasTurns t data j turns) :
    ((e.messages t data).run j = (.ok (turns.map Turn.message), j') ↔
      turns ≠ [] ∨ Text.isBlankText r.text = true) ∧
    (turns = [] → Text.isBlankText r.text = false →
      (e.messages t data).run j = (.ok [⟨"user", Text.trimmed r.text⟩], j')) := by
  obtain ⟨turns', hturns', hexact⟩ := exact_render hrun
  obtain rfl := hturns'.unique hturns
  rw [messages_run hrun]
  by_cases hsome : turns' = []
  · subst hsome
    rw [hexact.messages_of_nil]
    cases hblank : Text.isBlankText r.text with
    | true => exact ⟨iff_of_true rfl (.inr rfl), nofun⟩
    | false =>
      refine ⟨iff_of_false (fun h => ?_) (by simp), fun _ _ => rfl⟩
      cases h
  · rw [hexact.messages_eq hsome]
    exact ⟨iff_of_true rfl (.inl hsome), fun hnone => absurd hnone hsome⟩

end Engine

namespace Sample

/-- A message in a loop, and a template with another one. -/
def interview : Template :=
  template {} "interview" (tagged "prompty.for item=\"x\" in=\"xs\"" ++ "Next:" ++
    tagged "prompty.message role=\"user\"" ++ " " ++ tagged "prompty.var name=\"x\" /" ++ " " ++
    tagged "/prompty.message" ++ tagged "/prompty.for" ++
    tagged "prompty.include template=\"thanks\" /")

/-- What an engine has left behind that knows the other one. -/
def polite : Journal where
  store := [("thanks", template {} "thanks" (tagged "prompty.message role=\"assistant\"" ++
    "Thanks" ++ tagged "/prompty.message"))]

/-- Two answers, one of them with a character of two bytes. -/
def answers : Value :=
  .record [("xs", .list [.text "no", .text "\u00e9"])]

theorem messages_exact_interview :
    ∃ r j' turns, (({} : Engine).render interview answers).run polite = (.ok r, j') ∧
      (∀ turns', ({} : Engine).HasTurns interview answers polite turns' ↔ turns' = turns) ∧
      r.Exact turns ∧
      (({} : Engine).messages interview answers).run polite =
        (.ok (turns.map Turn.message), j') ∧
      turns.map Turn.message =
        [⟨"user", "no"⟩, ⟨"user", "\u00e9"⟩, ⟨"assistant", "Thanks"⟩] := by
  obtain ⟨r, j', hrun, hsegments, hmessages⟩ :=
    run_ok (({} : Engine).render interview answers) polite (fun r => r.segments.isEmpty = false ∧
      r.messages = [⟨"user", "no"⟩, ⟨"user", "\u00e9"⟩, ⟨"assistant", "Thanks"⟩])
      (by decide +kernel)
  obtain ⟨turns, honly, hexact, hextract⟩ := Engine.messages_exact hrun
  have hsome : turns ≠ [] := by
    rintro rfl
    rw [hexact.recorded] at hsegments
    cases hsegments
  exact ⟨r, j', turns, hrun, honly, hexact, hextract hsome,
    (hexact.messages_eq hsome).symm.trans hmessages⟩

/-- A message with text on both sides of it. -/
def margins : Template :=
  template {} "margins" ("a" ++ tagged "prompty.message role=\"user\"" ++ "b" ++
    tagged "/prompty.message" ++ "c")

/-- And one under a condition, with text behind it. -/
def guarded : Template :=
  template {} "guarded" (tagged "prompty.if eval=\"admin\"" ++
    tagged "prompty.message role=\"system\"" ++ "a" ++ tagged "/prompty.message" ++
    tagged "/prompty.if" ++ "b")

theorem messages_eq_turns_iff_margins :
    ∃ r j' turns, (({} : Engine).render margins .null).run {} = (.ok r, j') ∧
      ({} : Engine).HasTurns margins .null {} turns ∧ r.text = "abc" ∧
      (({} : Engine).messages margins .null).run {} = (.ok (turns.map Turn.message), j') ∧
      turns.map Turn.message = [⟨"user", "b"⟩] := by
  obtain ⟨r, j', hrun, hsegments, htext, hmessages⟩ :=
    run_ok (({} : Engine).render margins .null) {} (fun r => r.segments.isEmpty = false ∧
      r.text = "abc" ∧ r.messages = [⟨"user", "b"⟩]) (by decide +kernel)
  obtain ⟨turns, hturns, hexact⟩ := Engine.exact_render hrun
  have hsome : turns ≠ [] := by
    rintro rfl
    rw [hexact.recorded] at hsegments
    cases hsegments
  have hdropped := (Engine.messages_eq_turns_iff hrun hturns).1.2 (.inl hsome)
  exact ⟨r, j', turns, hrun, hturns, htext, hdropped,
    (hexact.messages_eq hsome).symm.trans hmessages⟩

/-- **A template with a message, and none is taken**: what stands outside of it
becomes a message of the user. -/
theorem outside_becomes_message :
    (∃ source, ({} : Engine).parse "guarded" source = .ok guarded) ∧
      (∃ nodes j', (({} : Engine).effective guarded).run {} = (.ok nodes, j') ∧
        ∃ node ∈ Node.withinAll nodes, node.isMessage = true) ∧
      ({} : Engine).HasTurns guarded (.record []) {} [] ∧
      ∃ j', (({} : Engine).messages guarded (.record [])).run {} =
        (.ok [⟨"user", "b"⟩], j') := by
  obtain ⟨nodes, j₁, hnodes, hmessage⟩ := run_ok (({} : Engine).effective guarded) {}
    (fun nodes => ∃ node ∈ Node.withinAll nodes, node.isMessage = true) (by decide +kernel)
  obtain ⟨r, j', hrun, hsegments, hmessages⟩ :=
    run_ok (({} : Engine).render guarded (.record [])) {} (fun r => r.segments = [] ∧
      r.messages = [⟨"user", "b"⟩]) (by decide +kernel)
  obtain ⟨turns, hturns, hexact⟩ := Engine.exact_render hrun
  -- nothing is recorded, so the run came to no message
  obtain rfl : turns = [] := by
    rw [hexact.recorded] at hsegments
    exact List.map_eq_nil_iff.1 hsegments
  exact ⟨⟨_, parse_template (by decide +kernel)⟩, ⟨nodes, j₁, hnodes, hmessage⟩, hturns, j',
    hmessages ▸ Engine.messages_run hrun⟩

end Sample

end PromptMarkup
