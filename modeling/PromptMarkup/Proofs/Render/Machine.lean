import PromptMarkup.Proofs.Render.Course
/-!
# Render — the walk, one step after another

A render can be taken apart into steps. A `Machine` is a render under way:
what is rendered so far, how many inclusions are open, and the tasks that
are left, of which a step takes the first. A step opens a node, closes a turn
or leaves a template; what a node becomes is its course, as in rendering.

A run of the machine is told by the machines it goes through (`Passes`,
`Finishes`), and there is but one run (`Finishes.unique`). On it the count of
open inclusions is right and stays within the limit
(`Finishes.balanced`).
-/

namespace PromptMarkup

/-- What is left to be done in a render. -/
inductive Task where
  /-- To render nodes at a place and in a context. -/
  | nodes (place : Place) (ctx : Context) (nodes : List Node)
  /-- To close a turn: what was rendered from the given byte on is its text. -/
  | endTurn (role : String) (start : Nat)
  /-- To leave a template that was included. -/
  | leave

/-- A render under way. -/
structure Machine where
  /-- What is rendered so far. -/
  done : Rendered
  /-- So many inclusions are open, by the count that steps keep. -/
  opened : Nat
  tasks : List Task
  journal : Journal

/-- A render goes on, or it has ended. -/
inductive Progress where
  | going (m : Machine)
  | ended (outcome : Outcome Rendered)

/-- What becomes of an inclusion. -/
inductive Entry where
  /-- It comes out with a result without a template being opened. -/
  | settled (left : Except Failure Rendered × Journal)
  /-- The nodes of a template are rendered for it. -/
  | opened (place : Place) (ctx : Context) (nodes : List Node) (j : Journal)

/-- The text with a turn in it from the given byte to its end. -/
def Rendered.closing (r : Rendered) (role : String) (start : Nat) : Rendered :=
  { r with segments := r.segments ++ [⟨role, start, r.text.utf8ByteSize⟩] }

namespace Task

/-- The task is to leave a template. -/
def isLeave : Task → Bool
  | .leave => true
  | _ => false

/-- So many templates are to be left. -/
def leaves (tasks : List Task) : Nat :=
  tasks.countP isLeave

/-- The tasks to render sequences of nodes one after another. -/
def ofParts (place : Place) (parts : List (Context × List Node)) : List Task :=
  parts.map fun part => .nodes place part.1 part.2

@[simp] theorem leaves_nodes (place : Place) (ctx : Context) (nodes : List Node)
    (rest : List Task) : leaves (.nodes place ctx nodes :: rest) = leaves rest := rfl

@[simp] theorem leaves_leave (rest : List Task) : leaves (.leave :: rest) = leaves rest + 1 :=
  List.countP_cons_of_pos rfl

/-- The bodies of a node bring no template to be left. -/
@[simp] theorem leaves_ofParts (place : Place) (parts : List (Context × List Node))
    (rest : List Task) : leaves (ofParts place parts ++ rest) = leaves rest := by
  induction parts with
  | nil => rfl
  | cons part more ih => exact ih

end Task

namespace Machine

/-- The inclusions that are open: those that are still to be left. -/
def inclusions (m : Machine) : Nat :=
  Task.leaves m.tasks

/-- The machine comes to a turn: its next step takes a message. -/
def atTurn (m : Machine) : Bool :=
  match m.tasks with
  | .nodes _ _ (.message .. :: _) :: _ => true
  | _ => false

/-- The machine with more text, another journal and the tasks that are left
then. -/
def after (m : Machine) (r : Rendered) (j : Journal) (rest : List Task) : Machine :=
  { m with done := m.done.append r, tasks := rest, journal := j }

/-- The machine with the nodes of an included template before the tasks that
are left. -/
def inside (m : Machine) (place : Place) (ctx : Context) (nodes : List Node) (j : Journal)
    (rest : List Task) : Machine :=
  { m with opened := m.opened + 1, tasks := .nodes place ctx nodes :: .leave :: rest, journal := j }

/-- The render goes on behind a node that came out with a result, or ends
with its failure. -/
def settle (m : Machine) (rest : List Task) : Except Failure Rendered × Journal → Progress
  | (.ok r, j) => .going (m.after r j rest)
  | (.error failure, j) => .ended ⟨.error failure, j⟩

end Machine

namespace Engine

/-! ## Steps -/

/-- What becomes of an inclusion where `full` says that as many are open as
may be. -/
def entry (e : Engine) (full : Bool) (place : Place) (ctx : Context) (info : NodeInfo)
    (template : String) (data : Option String) (j : Journal) : Entry :=
  let fails (f : RenderFault) (j : Journal) : Entry :=
    .settled ((e.recover place info Tag.includeTag (fault info f)).run j)
  if full then fails (.includeTooDeep e.options.maxDepth template) j
  else
    match (e.load template).run j with
    | (.error failure, j) => .settled (.error failure, j)
    | (.ok none, j) => fails (.includeNotFound template) j
    | (.ok (some t), j) =>
      match (e.effective t).run j with
      | (.error failure, j) => .settled (.error failure, j)
      | (.ok nodes, j) =>
        match data with
        | none => .opened (t.place place.inTurn) ctx nodes j
        | some path =>
          match ctx.lookup? path with
          | some value => .opened (t.place place.inTurn) { root := value } nodes j
          | none => fails (.includeDataNotFound path) j

/-- Takes an inclusion: opens the template or goes on behind the tag. -/
def enter (e : Engine) (m : Machine) (place : Place) (ctx : Context) (info : NodeInfo)
    (template : String) (data : Option String) (rest : List Task) : Progress :=
  match e.entry (e.options.maxDepth ≤ m.opened) place ctx info template data m.journal with
  | .settled left => m.settle rest left
  | .opened place ctx nodes j => .going (m.inside place ctx nodes j rest)

/-- Takes a node: records what it reads, and does what its course says. What
a message opens is followed by the end of its turn. -/
def visit (e : Engine) (m : Machine) (place : Place) (ctx : Context) (node : Node)
    (rest : List Task) : Progress :=
  let j := ((record (node.read? ctx)).run m.journal).2
  match e.course place ctx node with
  | .done r => m.settle rest (.ok r, j)
  | .fails info tag failure => m.settle rest ((e.recover place info tag failure).run j)
  | .refused failure => m.settle rest (.error failure, j)
  | .opens inTurn parts finish =>
    let bodies := Task.ofParts { place with inTurn } parts
    match node with
    | .message _ _ role _ =>
      let tasks := bodies ++ .endTurn role m.done.text.utf8ByteSize :: rest
      .going { m with tasks, journal := j }
    | _ => .going (m.after (finish .nothing) j (bodies ++ rest))
  | .includes info template data =>
    e.enter { m with journal := j } place ctx info template data rest

/-- Takes the first task. Without one the render has ended. -/
def step (e : Engine) (m : Machine) : Progress :=
  match m.tasks with
  | [] => .ended ⟨.ok m.done, m.journal⟩
  | .nodes _ _ [] :: rest => .going { m with tasks := rest }
  | .nodes place ctx (node :: nodes) :: rest =>
    e.visit m place ctx node (.nodes place ctx nodes :: rest)
  | .endTurn role start :: rest =>
    .going { m with done := m.done.closing role start, tasks := rest }
  | .leave :: rest => .going { m with opened := m.opened - 1, tasks := rest }

/-- The machine that renders a template against data, once its nodes are
known. -/
def launch (e : Engine) (t : Template) (data : Value) (j : Journal) : Progress :=
  match (e.effective t).run j with
  | (.error failure, j) => .ended ⟨.error failure, j⟩
  | (.ok nodes, j) => .going ⟨.nothing, 0, [.nodes (t.place false) { root := data } nodes], j⟩

/-! ## Inclusions -/

section

variable {e : Engine} {full : Bool} {place : Place} {ctx : Context} {info : NodeInfo}
  {template : String} {data : Option String} {j : Journal}

/-- **A template is opened** where one more may be, it is found and resolves,
and the data for it is there. -/
theorem entry_eq_opened_iff {place' : Place} {ctx' : Context} {nodes : List Node} {j' : Journal} :
    e.entry full place ctx info template data j = .opened place' ctx' nodes j' ↔
      full = false ∧ ∃ t j₁, (e.load template).run j = (.ok (some t), j₁) ∧
        (e.effective t).run j₁ = (.ok nodes, j') ∧ place' = t.place place.inTurn ∧
        ctx.forInclusion? data = some ctx' := by
  constructor
  · intro h
    cases full with
    | true => cases h
    | false =>
      rw [entry, if_neg Bool.false_ne_true] at h
      split at h
      · cases h
      · cases h
      · next t j₁ hload =>
        split at h
        · cases h
        · next hnodes =>
          split at h
          · cases h
            exact ⟨rfl, t, j₁, hload, hnodes, rfl, rfl⟩
          · split at h
            · next hvalue =>
              cases h
              exact ⟨rfl, t, j₁, hload, hnodes, rfl, by rw [Context.forInclusion?, hvalue]; rfl⟩
            · cases h
  · rintro ⟨rfl, t, j₁, hload, hnodes, rfl, hctx⟩
    rw [entry, if_neg Bool.false_ne_true]
    simp only [hload, hnodes]
    cases data with
    | none =>
      cases hctx
      rfl
    | some path =>
      obtain ⟨value, hvalue, rfl⟩ := Option.map_eq_some_iff.1 hctx
      simp only [hvalue]

/-- An inclusion that opens no template and does not end the render has failed,
and its strategy left something in its place. -/
theorem recovered_of_entry {r : Rendered} {j' : Journal}
    (h : e.entry full place ctx info template data j = .settled (.ok r, j')) :
    ∃ f j₁, (e.recover place info Tag.includeTag (fault info f)).run j₁ = (.ok r, j') := by
  rw [entry] at h
  split at h
  · exact ⟨_, _, Entry.settled.inj h⟩
  · split at h
    · cases h
    · exact ⟨_, _, Entry.settled.inj h⟩
    · split at h
      · cases h
      · split at h
        · cases h
        · split at h
          · cases h
          · exact ⟨_, _, Entry.settled.inj h⟩

/-- **Rendering an inclusion is what its entry says**, with one level less to
go inside. -/
theorem renderInclusion_run (e : Engine) (depth : Nat) (place : Place) (ctx : Context)
    (info : NodeInfo) (template : String) (data : Option String) (j : Journal) :
    (e.renderInclusion (e.enterAt depth) place ctx info template data).run j =
      match e.entry (depth == 0) place ctx info template data j with
      | .settled left => left
      | .opened place ctx nodes j =>
        (e.renderAll (e.enterAt (depth - 1)) place ctx nodes).run j := by
  cases depth with
  | zero => rfl
  | succ depth =>
    have henter : e.enterAt (depth + 1) = some (e.renderAll (e.enterAt depth)) :=
      congrArg some (e.renderAt_eq depth)
    rw [entry, if_neg (by simp), henter, Nat.add_sub_cancel]
    simp only [renderInclusion, Tree.Effect.run_bind]
    rcases (e.load template).run j with ⟨_ | _ | t, j₁⟩
    · rfl
    · rfl
    · simp only [Tree.Effect.run_bind]
      rcases (e.effective t).run j₁ with ⟨_ | nodes, j₂⟩
      · rfl
      · cases data with
        | none => rfl
        | some path => cases hvalue : ctx.lookup? path <;> simp only [hvalue]

end

/-! ## Runs -/

/-- Steps lead from one machine to another, through the machines before
it. -/
inductive Passes (e : Engine) : Machine → List Machine → Machine → Prop
  | here {m : Machine} : Passes e m [] m
  | step {m m₁ m' : Machine} {history : List Machine} (hstep : e.step m = .going m₁)
      (hrest : Passes e m₁ history m') : Passes e m (m :: history) m'

/-- A render ends with an outcome, after it went through these machines. -/
inductive Finishes (e : Engine) : Progress → List Machine → Outcome Rendered → Prop
  | ended {outcome : Outcome Rendered} : Finishes e (.ended outcome) [] outcome
  | going {m : Machine} {history : List Machine} {outcome : Outcome Rendered}
      (hrest : Finishes e (e.step m) history outcome) : Finishes e (.going m) (m :: history) outcome

variable {e : Engine} {m m' m'' : Machine} {p : Progress} {history history' : List Machine}
  {outcome outcome' : Outcome Rendered}

theorem Passes.append (h : e.Passes m history m') (h' : e.Passes m' history' m'') :
    e.Passes m (history ++ history') m'' := by
  induction h with
  | here => exact h'
  | step hstep _ ih => exact .step hstep (ih h')

/-- One step more. -/
theorem Passes.snoc (h : e.Passes m history m') (hstep : e.step m' = .going m'') :
    e.Passes m (history ++ [m']) m'' :=
  h.append (.step hstep .here)

/-- A render ends as it does from a machine that it comes to. -/
theorem Passes.finishes (h : e.Passes m history m')
    (h' : e.Finishes (.going m') history' outcome) :
    e.Finishes (.going m) (history ++ history') outcome := by
  induction h with
  | here => exact h'
  | step hstep _ ih => exact .going (hstep ▸ ih h')

/-- **There is one run**, and it has one outcome. -/
theorem Finishes.unique (h : e.Finishes p history outcome) (h' : e.Finishes p history' outcome') :
    history = history' ∧ outcome = outcome' := by
  induction h generalizing history' with
  | ended =>
    cases h'
    exact ⟨rfl, rfl⟩
  | going _ ih =>
    cases h' with
    | going hrest' =>
      obtain ⟨rfl, rfl⟩ := ih hrest'
      exact ⟨rfl, rfl⟩

/-! ## The count of open inclusions -/

/-- The count is that of the templates to be left, and within the limit. -/
structure Balanced (e : Engine) (m : Machine) : Prop where
  counted : m.opened = m.inclusions
  bounded : m.opened ≤ e.options.maxDepth

/-- What taking a node does to the count: it changes nothing, or it opens an
inclusion where one more is allowed. -/
def Counts (e : Engine) (m : Machine) (rest : List Task) (p : Progress) : Prop :=
  ∀ m', p = .going m' →
    (m'.opened = m.opened ∧ m'.inclusions = Task.leaves rest) ∨
      (m.opened < e.options.maxDepth ∧ m'.opened = m.opened + 1 ∧
        m'.inclusions = Task.leaves rest + 1)

variable {place : Place} {ctx : Context} {rest : List Task}

theorem counts_settle (left : Except Failure Rendered × Journal) :
    e.Counts m rest (m.settle rest left) := by
  rintro m' h
  obtain ⟨_ | _, _⟩ := left
  · cases h
  · cases h
    exact .inl ⟨rfl, rfl⟩

theorem counts_enter (info : NodeInfo) (template : String) (data : Option String) :
    e.Counts m rest (e.enter m place ctx info template data rest) := by
  rw [enter]
  split
  · exact counts_settle _
  · next hentry =>
    rintro m' ⟨⟩
    have hopen := Nat.lt_of_not_le (of_decide_eq_false (entry_eq_opened_iff.1 hentry).1)
    exact .inr ⟨hopen, rfl, by simp [Machine.inclusions, Machine.inside]⟩

theorem counts_visit (node : Node) : e.Counts m rest (e.visit m place ctx node rest) := by
  rw [visit]
  simp only
  split
  · exact counts_settle _
  · exact counts_settle _
  · exact counts_settle _
  · split
    · rintro m' ⟨⟩
      exact .inl ⟨rfl, Task.leaves_ofParts _ _ _⟩
    · rintro m' ⟨⟩
      exact .inl ⟨rfl, Task.leaves_ofParts _ _ _⟩
  · exact counts_enter _ _ _

/-- **A step keeps the count.** -/
theorem Balanced.step (h : e.Balanced m) (hstep : e.step m = .going m') : e.Balanced m' := by
  obtain ⟨hcounted, hbounded⟩ := h
  rw [Machine.inclusions] at hcounted
  rw [Engine.step] at hstep
  split at hstep
  · cases hstep
  · next htasks =>
    rw [htasks] at hcounted
    cases hstep
    exact ⟨hcounted, hbounded⟩
  · next htasks =>
    rw [htasks] at hcounted
    obtain ⟨hopened, hleft⟩ | ⟨hopen, hopened, hleft⟩ := counts_visit _ _ hstep
    · exact ⟨by rw [hopened, hleft, hcounted]; rfl, by omega⟩
    · exact ⟨by rw [hopened, hleft, hcounted]; rfl, by omega⟩
  · next htasks =>
    rw [htasks] at hcounted
    cases hstep
    exact ⟨hcounted, hbounded⟩
  · next rest htasks =>
    rw [htasks] at hcounted
    cases hstep
    -- with the template one is left, and the count is lowered for it
    rw [Task.leaves_leave] at hcounted
    exact ⟨by simp only [Machine.inclusions, hcounted, Nat.add_sub_cancel], by simp only; omega⟩

/-- **And so does a run**: on all of it the count is right and within the
limit. -/
theorem Finishes.balanced (h : e.Finishes p history outcome)
    (hstart : ∀ m, p = .going m → e.Balanced m) : ∀ m ∈ history, e.Balanced m := by
  induction h with
  | ended => exact fun _ hmem => absurd hmem List.not_mem_nil
  | going _ ih =>
    have hfirst := hstart _ rfl
    intro m hmem
    obtain rfl | hmem := List.mem_cons.1 hmem
    · exact hfirst
    · exact ih (fun _ hstep => hfirst.step hstep) m hmem

/-- The machine that renders a template starts with no inclusion open. -/
theorem balanced_launch {t : Template} {data : Value} {j : Journal}
    (h : e.launch t data j = .going m) : e.Balanced m := by
  rw [launch] at h
  split at h
  · cases h
  · cases h
    exact ⟨rfl, Nat.zero_le _⟩

end Engine

end PromptMarkup
