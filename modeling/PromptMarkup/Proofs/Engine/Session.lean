import PromptMarkup.Engine.Blueprint
import PromptMarkup.Proofs.DryRun.Blind
import PromptMarkup.Proofs.Render.Explained
/-!
# Engine — one call after another

Between two calls an engine keeps its store alone. A call that renders or
analyses adds to it what the provider has under the names it asked for, and
nothing else (`Inquiry.stocks`); a registration adds its template where the
name is free. So everything in the store was registered or is provided
(`Session.sound`), what is available never depends on the inquiries made before,
and an execution comes out the same after them (`Engine.execute_after`).
-/

namespace PromptMarkup

/-- A call on an engine that renders or analyses. None registers a template. -/
inductive Inquiry where
  | execute (t : Template) (data : Value)
  | executeSource (source : String) (data : Value)
  | executeNamed (name : String) (data : Value)
  | messages (t : Template) (data : Value)
  | dryRun (t : Template) (data : Value)
  | explain (name source : String) (data : Value)
  | validate (source : String)
  | has (name : String)

/-- The store that an inquiry leaves behind. -/
def Inquiry.leaves (e : Engine) (store : Store) : Inquiry → Store
  | .execute t data => ((e.execute t data).outcome store).journal.store
  | .executeSource source data => ((e.executeSource source data).outcome store).journal.store
  | .executeNamed name data => ((e.executeNamed name data).outcome store).journal.store
  | .messages t data => ((e.messages t data).outcome store).journal.store
  | .dryRun t data => ((e.dryRun t data).outcome store).journal.store
  | .explain name source data => ((e.explain name source data).run { store }).2.store
  | .validate _ | .has _ => store

/-- A call on an engine. -/
inductive Call where
  | inquire (inquiry : Inquiry)
  | register (name source : String)
  | add (t : Template)

/-- What calls have made of an engine: its store, and the templates whose
registration succeeded, in the order of the calls. -/
structure Session where
  store : Store := []
  registered : List Template := []

/-- The session after one more call. -/
def Session.step (e : Engine) (s : Session) : Call → Session
  | .inquire inquiry => { s with store := inquiry.leaves e s.store }
  | .register name source =>
    let outcome := (e.register name source).outcome s.store
    match e.parse name source, outcome.result with
    | .ok t, .ok () => ⟨outcome.journal.store, s.registered ++ [t]⟩
    | _, _ => { s with store := outcome.journal.store }
  | .add t =>
    let outcome := (Engine.add t).outcome s.store
    match outcome.result with
    | .ok () => ⟨outcome.journal.store, s.registered ++ [t]⟩
    | .error _ => { s with store := outcome.journal.store }

/-- The session that calls make of an engine without templates. -/
def Engine.session (e : Engine) (calls : List Call) : Session :=
  calls.foldl (Session.step e) {}

/-- The registrations that a blueprint starts with. -/
def Blueprint.calls (b : Blueprint) : List Call :=
  b.templates.map fun (name, source) => .register name source

namespace Engine

variable {e : Engine} {asked : String → Prop} {store store' store'' : Store} {j j' : Journal}

/-! ## What inquiries add to a store -/

/-- One store becomes another by templates alone that are provided. -/
def Stocks (e : Engine) (store store' : Store) : Prop :=
  e.Grown (fun _ => True) { store } { store := store' }

theorem Stocks.refl (e : Engine) (store : Store) : e.Stocks store store :=
  Grown.refl e _ _

theorem Stocks.trans (h : e.Stocks store store') (h' : e.Stocks store' store'') :
    e.Stocks store store'' :=
  Grown.trans h h'

theorem Stocks.available_eq (h : e.Stocks store store') :
    e.available store' = e.available store :=
  Grown.available_eq h

theorem Grown.stocks (h : e.Grown asked j j') : e.Stocks j.store j'.store := by
  refine ⟨rfl, rfl, fun name => ?_⟩
  obtain hsame | ⟨-, hnew⟩ := h.store name
  · exact .inl hsame
  · exact .inr ⟨trivial, hnew⟩

/-- What a store has was there before, or it is new and provided. -/
theorem Stocks.find?_cases (h : e.Stocks store store') {name : String} {t : Template}
    (hfind : Keyed.find? store' name = some t) :
    Keyed.find? store name = some t ∨
      Keyed.find? store name = none ∧
        ∃ source, e.provider name = some source ∧ e.parse name source = .ok t := by
  obtain hsame | ⟨-, hnone, t', havailable, hkept⟩ := h.store name
  · exact .inl (hsame ▸ hfind)
  · obtain rfl : t' = t := Option.some.inj (hkept.symm.trans hfind)
    exact .inr ⟨hnone, provided_of_available hnone havailable⟩

/-- What was there stays. -/
theorem Stocks.find?_of_some (h : e.Stocks store store') {name : String} {t : Template}
    (hfind : Keyed.find? store name = some t) : Keyed.find? store' name = some t := by
  obtain hsame | ⟨-, hnone, -⟩ := h.store name
  · exact hsame.trans hfind
  · have habsent : Keyed.find? store name = none := hnone
    rw [hfind] at habsent
    cases habsent

/-- A run that leaves in the store what was there, with provided templates
besides. -/
def OnlyStocks (e : Engine) {α : Type} (run : Run α) : Prop :=
  ∀ j, e.Stocks j.store (run.run j).2.store

theorem OnlyStocks.bind {α β : Type} {first : Run α} {next : α → Run β}
    (hfirst : e.OnlyStocks first) (hnext : ∀ a, e.OnlyStocks (next a)) :
    e.OnlyStocks (first >>= next) := by
  intro j
  have hstep := hfirst j
  rw [Tree.Effect.run_bind]
  revert hstep
  rcases first.run j with ⟨failure | a, k⟩
  · exact fun hstep => hstep
  · exact fun hstep => hstep.trans (hnext a k)

theorem OnlyStocks.map {α β : Type} {run : Run α} (h : e.OnlyStocks run) (f : α → β) :
    e.OnlyStocks (f <$> run) := by
  intro j
  rw [Run.run_map]
  exact h j

theorem congruence_onlyStocks (e : Engine) :
    Run.Congruence fun _ run _ => e.OnlyStocks run where
  pure _ _ := Stocks.refl _ _
  throw _ _ := Stocks.refl _ _
  record read _ := by cases read <;> exact Stocks.refl _ _
  bind hfirst hnext := hfirst.bind hnext

theorem onlyStocks_load (e : Engine) (name : String) : e.OnlyStocks (e.load name) :=
  fun j => (grown_load e name j).stocks

theorem onlyStocks_recover (e : Engine) (place : Place) (info : NodeInfo) (tag : String)
    (failure : Failure) : e.OnlyStocks (e.recover place info tag failure) := by
  intro j
  cases hfatal : failure.isFatal with
  | true =>
    rw [recover_of_isFatal hfatal]
    exact Stocks.refl _ _
  | false =>
    rw [recover_run hfatal]
    cases e.options.strategyFor info.strategy <;> exact Stocks.refl _ _

/-- **Renders only stock**, whether they succeed or not. -/
theorem onlyStocks_render (e : Engine) (t : Template) (data : Value) :
    e.OnlyStocks (e.render t data) :=
  (congruence_onlyStocks e).render (s := e.options.strategy) (onlyStocks_load e)
    (onlyStocks_recover e) t data

theorem onlyStocks_execute (e : Engine) (t : Template) (data : Value) :
    e.OnlyStocks (e.execute t data) :=
  (onlyStocks_render e t data).map Rendered.text

/-- **And so does every inquiry.** -/
theorem stocks_leaves (e : Engine) (store : Store) (inquiry : Inquiry) :
    e.Stocks store (inquiry.leaves e store) := by
  have hrender := fun t data => onlyStocks_render e t data
  have hexecute := fun t data => onlyStocks_execute e t data
  cases inquiry with
  | execute t data => exact hexecute t data { store }
  | executeSource source data =>
    have hrun : e.OnlyStocks (e.executeSource source data) := by
      intro j
      rw [executeSource, Tree.Effect.run_bind, Run.run_liftM]
      cases e.parse "inline" source with
      | error failure => exact Stocks.refl _ _
      | ok t => exact hexecute t data j
    exact hrun { store }
  | executeNamed name data =>
    have hrun : e.OnlyStocks (e.executeNamed name data) := by
      refine (onlyStocks_load e name).bind fun found => ?_
      cases found with
      | some t => exact hexecute t data
      | none => exact fun _ => Stocks.refl _ _
    exact hrun { store }
  | messages t data =>
    exact (hrender t data).map Rendered.messages { store }
  | dryRun t data =>
    have hrun := dryRun_run e t data { store }
    have hgrown := (grown_effective e t { store }).stocks
    rwa [Inquiry.leaves, Run.outcome, hrun]
  | explain name source data =>
    rw [Inquiry.leaves, explain_run]
    cases e.parse name source with
    | error failure => exact Stocks.refl _ _
    | ok t =>
      have hresolved := (grown_effective e t { store }).stocks
      exact hresolved.trans
        (hexecute t data { ((e.effective t).run { store }).2 with reads := #[] })
  | validate source => exact Stocks.refl _ _
  | has name => exact Stocks.refl _ _

/-- So do any number of them. -/
theorem stocks_inquiries (e : Engine) (inquiries : List Inquiry) (store : Store) :
    e.Stocks store (inquiries.foldl (Inquiry.leaves e) store) := by
  induction inquiries generalizing store with
  | nil => exact Stocks.refl e store
  | cons inquiry rest ih => exact (stocks_leaves e store inquiry).trans (ih _)

/-! ## Registrations -/

/-- **A name is given once.** -/
theorem add_run (t : Template) (j : Journal) :
    (add t).run j =
      if Keyed.has j.store t.name then (.error (.registration (.templateTaken t.name)), j)
      else (.ok (), { j with store := Keyed.insert t.name t j.store }) := by
  rw [add, Tree.Effect.run_bind, Run.run_get]
  simp only
  split <;> rfl

theorem register_run (e : Engine) (name source : String) (j : Journal) :
    (e.register name source).run j =
      match e.parse name source with
      | .error failure => (.error failure, j)
      | .ok t => (add t).run j := by
  rw [register, Tree.Effect.run_bind, Run.run_liftM]
  cases e.parse name source <;> rfl

/-- A template has the name that it was read under. -/
theorem name_of_parse {name source : String} {t : Template} (h : e.parse name source = .ok t) :
    t.name = name := by
  rw [parse, Template.parse] at h
  split at h
  · cases h
  · split at h
    · cases h
    · obtain rfl := Except.ok.inj h
      rfl

end Engine

namespace Session

variable {e : Engine} {s : Session}

/-- One call enters a template in a session: its name was free, and now the
template is in the store and registered. -/
structure Enters (t : Template) (s s' : Session) : Prop where
  free : Keyed.find? s.store t.name = none
  store : s'.store = Keyed.insert t.name t s.store
  registered : s'.registered = s.registered ++ [t]

/-- The session after an attempt to add a template. -/
theorem enters_or_same_of_add (t : Template) (s s' : Session)
    (h : s' = match ((Engine.add t).outcome s.store).result with
      | .ok () => ⟨((Engine.add t).outcome s.store).journal.store, s.registered ++ [t]⟩
      | .error _ => { s with store := ((Engine.add t).outcome s.store).journal.store }) :
    Enters t s s' ∨ s' = s := by
  rw [Run.outcome, Engine.add_run] at h
  cases hhas : Keyed.has s.store t.name with
  | true =>
    rw [hhas] at h
    exact .inr h
  | false =>
    rw [hhas] at h
    subst h
    exact .inl ⟨Option.not_isSome_iff_eq_none.1 (by simpa [Keyed.has] using hhas), rfl, rfl⟩

/-- **What one call can do to a session**: an inquiry stocks its store, a
registration enters a template or changes nothing. -/
theorem step_cases (e : Engine) (s : Session) (call : Call) :
    (∃ inquiry, call = .inquire inquiry ∧
      s.step e call = { s with store := inquiry.leaves e s.store }) ∨
    (∃ t, s.Enters t (s.step e call)) ∨ s.step e call = s := by
  cases call with
  | inquire inquiry => exact .inl ⟨inquiry, rfl, rfl⟩
  | add t =>
    obtain henters | hsame := enters_or_same_of_add t s (s.step e (.add t)) rfl
    · exact .inr (.inl ⟨t, henters⟩)
    · exact .inr (.inr hsame)
  | register name source =>
    cases hparse : e.parse name source with
    | error failure =>
      refine .inr (.inr ?_)
      rw [step, Run.outcome, Engine.register_run, hparse]
    | ok t =>
      have hstep : s.step e (.register name source) = s.step e (.add t) := by
        simp only [step, Run.outcome, Engine.register_run, hparse]
        rcases (Engine.add t).run { store := s.store } with ⟨_ | _, _⟩ <;> rfl
      rw [hstep]
      obtain henters | hsame := enters_or_same_of_add t s (s.step e (.add t)) rfl
      · exact .inr (.inl ⟨t, henters⟩)
      · exact .inr (.inr hsame)

/-- The store has every registered template under its name, and whatever it
has stands under its own name and was registered, or it is what the
provider's source of that name reads as. -/
structure Sound (e : Engine) (s : Session) : Prop where
  kept : ∀ t ∈ s.registered, Keyed.find? s.store t.name = some t
  entry : ∀ name t, Keyed.find? s.store name = some t →
    t.name = name ∧
      (t ∈ s.registered ∨ ∃ source, e.provider name = some source ∧ e.parse name source = .ok t)

/-- **What a store has stays in it**, call after call. -/
theorem find?_step_of_some (call : Call) {name : String} {t : Template}
    (hfind : Keyed.find? s.store name = some t) :
    Keyed.find? (s.step e call).store name = some t := by
  obtain ⟨inquiry, -, hstep⟩ | ⟨entered, hstep⟩ | hstep := step_cases e s call
  · rw [hstep]
    exact (Engine.stocks_leaves e s.store inquiry).find?_of_some hfind
  · have hne : name ≠ entered.name := by
      rintro rfl
      rw [hstep.free] at hfind
      cases hfind
    rw [hstep.store, Keyed.find?_insert, if_neg hne, hfind]
  · rw [hstep, hfind]

theorem find?_run_of_some (calls : List Call) {name : String} {t : Template}
    (hfind : Keyed.find? s.store name = some t) :
    Keyed.find? (calls.foldl (Session.step e) s).store name = some t := by
  induction calls generalizing s with
  | nil => exact hfind
  | cons call rest ih => exact ih (find?_step_of_some call hfind)

/-- **Each call keeps a session sound.** -/
theorem Sound.step (h : s.Sound e) (call : Call) : (s.step e call).Sound e := by
  have hkept : ∀ r ∈ s.registered, Keyed.find? (s.step e call).store r.name = some r :=
    fun r hr => find?_step_of_some call (h.kept r hr)
  obtain ⟨inquiry, -, hstep⟩ | ⟨t, hstep⟩ | hstep := step_cases e s call
  · have hstocks := Engine.stocks_leaves e s.store inquiry
    rw [hstep] at hkept ⊢
    refine ⟨hkept, fun name r hfind => ?_⟩
    obtain hbefore | ⟨-, source, hsource, hparse⟩ := hstocks.find?_cases hfind
    · exact h.entry name r hbefore
    · exact ⟨Engine.name_of_parse hparse, .inr ⟨source, hsource, hparse⟩⟩
  · refine ⟨fun r hr => ?_, fun name r hfind => ?_⟩
    · rw [hstep.registered, List.mem_append, List.mem_singleton] at hr
      obtain hr | rfl := hr
      · exact hkept r hr
      · rw [hstep.store, Keyed.find?_insert, if_pos rfl]
    · rw [hstep.store, Keyed.find?_insert] at hfind
      rw [hstep.registered]
      split at hfind
      · next heq =>
        obtain rfl := Option.some.inj hfind
        exact ⟨heq.symm, .inl (List.mem_append_right _ (List.mem_singleton.2 rfl))⟩
      · obtain ⟨hname, hregistered | hprovided⟩ := h.entry name r hfind
        · exact ⟨hname, .inl (List.mem_append_left _ hregistered)⟩
        · exact ⟨hname, .inr hprovided⟩
  · rw [hstep]
    exact h

/-- So every run of calls does. -/
theorem Sound.run (h : s.Sound e) (calls : List Call) :
    (calls.foldl (Session.step e) s).Sound e := by
  induction calls generalizing s with
  | nil => exact h
  | cons call rest ih => exact ih (h.step call)

/-- A session begins with nothing. -/
theorem sound_empty (e : Engine) : ({} : Session).Sound e := by
  refine ⟨fun t ht => ?_, fun name t hfind => ?_⟩
  · cases ht
  · have hnone : (none : Option Template) = some t := hfind
    cases hnone

/-- **Everything in a store was registered or is provided**, in whatever
session. -/
theorem sound (e : Engine) (calls : List Call) : (e.session calls).Sound e :=
  (sound_empty e).run calls

end Session

namespace Blueprint

/-- The templates that a blueprint starts with make the store that their
registrations make, one after the other. -/
theorem store_of_stock {e : Engine} {templates : List (String × String)} {s : Session}
    {store : Store} (h : stock e s.store templates = .ok store) :
    ((templates.map fun (name, source) => Call.register name source).foldl (Session.step e)
      s).store = store := by
  induction templates generalizing s with
  | nil =>
    cases h
    rfl
  | cons template rest ih =>
    obtain ⟨name, source⟩ := template
    rw [List.map_cons, List.foldl_cons]
    refine ih (s := s.step e (.register name source)) ?_
    have hstore : (s.step e (.register name source)).store =
        ((e.register name source).outcome s.store).journal.store := by
      simp only [Session.step]
      split <;> rfl
    rw [stock] at h
    rw [hstore]
    split at h
    · cases h
    · exact h

/-- An engine is built with the settings of its blueprint and the store that
its templates make. -/
theorem build_eq_ok {b : Blueprint} {e : Engine} {store : Store} (h : b.build = .ok (e, store)) :
    e = b.engine ∧ stock e [] b.templates = .ok store := by
  rw [build] at h
  split at h
  · cases h
  · cases hstock : stock b.engine [] b.templates with
    | error failure =>
      rw [hstock] at h
      cases h
    | ok made =>
      rw [hstock] at h
      cases h
      exact ⟨rfl, hstock⟩

/-- **The store of a built engine** is that of the session in which its
templates were registered. -/
theorem store_of_build {b : Blueprint} {e : Engine} {store : Store}
    (h : b.build = .ok (e, store)) : (e.session b.calls).store = store := by
  obtain ⟨-, hstock⟩ := build_eq_ok h
  exact store_of_stock (s := {}) hstock

end Blueprint

namespace Engine

/-- **An execution has no memory.** However many renders and analyses were made
on an engine before, failed ones among them, executing a template yields the
same as without them and logs and reads the same. In any session, whose
registrations include those that the engine was built with, what the store has
under a name is of that name, and it was registered or is what the provider's
source of that name reads as. -/
theorem execute_after (e : Engine) :
    (∀ (store : Store) (inquiries : List Inquiry) (t : Template) (data : Value),
      let after := (e.execute t data).outcome (inquiries.foldl (Inquiry.leaves e) store)
      let before := (e.execute t data).outcome store
      after.result = before.result ∧ after.journal.logs = before.journal.logs ∧
        after.journal.reads = before.journal.reads) ∧
    (∀ (calls : List Call) (name : String) (t : Template),
      Keyed.find? (e.session calls).store name = some t →
        t.name = name ∧ (t ∈ (e.session calls).registered ∨
          ∃ source, e.provider name = some source ∧ e.parse name source = .ok t)) ∧
    ∀ (b : Blueprint) (store : Store), b.build = .ok (e, store) →
      (e.session b.calls).store = store := by
  refine ⟨fun store inquiries t data => ?_, fun calls => (Session.sound e calls).entry,
    fun b store => Blueprint.store_of_build⟩
  have havailable := (stocks_inquiries e inquiries store).available_eq
  obtain ⟨hresult, hadds⟩ := echoes_execute e t data
  obtain ⟨logs, reads, hafter, hbefore⟩ := hadds
    { store := inquiries.foldl (Inquiry.leaves e) store } { store } havailable
  refine ⟨(hresult _ _ havailable).1, ?_, ?_⟩
  · exact hafter.1.trans hbefore.1.symm
  · exact hafter.2.trans hbefore.2.symm

end Engine

/-! ## A provided greeting -/

namespace Sample

/-- An engine that is provided with a greeting. -/
def supplied : Engine :=
  { provider := fun name => if name = "greeting" then some "hi" else none }

/-- A template that includes it. -/
def doormat : Template :=
  template supplied "doormat" (tagged "prompty.include template=\"greeting\" /")

/-- The greeting is executed by its name, and then a name that nothing has. -/
def visits : List Inquiry :=
  [.executeNamed "greeting" .null, .executeNamed "nobody" .null]

/-- The first of these calls keeps the greeting and the second fails. The
template that includes the greeting comes out as it does without them, what was
kept is the greeting as it is provided, and a blueprint's template is in the
store of its session. -/
theorem execute_after_visits :
    ((supplied.execute doormat .null).outcome
        (visits.foldl (Inquiry.leaves supplied) [])).result = .ok "hi" ∧
      (∃ t, Keyed.find? (supplied.session (visits.map .inquire)).store "greeting" = some t ∧
        t.name = "greeting" ∧ (t ∈ (supplied.session (visits.map .inquire)).registered ∨
          ∃ source, supplied.provider "greeting" = some source ∧
            supplied.parse "greeting" source = .ok t)) ∧
      ∃ store, (Blueprint.mk supplied [("sign", "bye")]).build = .ok (supplied, store) ∧
        (supplied.session [.register "sign" "bye"]).store = store := by
  obtain ⟨hafter, hentry, hbuilt⟩ := Engine.execute_after supplied
  refine ⟨?_, ?_, ?_⟩
  · obtain ⟨hresult, -⟩ := hafter [] visits doormat .null
    rw [hresult]
    decide +kernel
  · have hkept : (Keyed.find? (supplied.session (visits.map .inquire)).store "greeting").isSome =
        true := by decide +kernel
    obtain ⟨t, hfind⟩ := Option.isSome_iff_exists.1 hkept
    exact ⟨t, hfind, hentry _ "greeting" t hfind⟩
  · have hbuilds : ((Blueprint.mk supplied [("sign", "bye")]).build).isOk = true := by
      decide +kernel
    cases hbuild : (Blueprint.mk supplied [("sign", "bye")]).build with
    | error failure =>
      rw [hbuild] at hbuilds
      cases hbuilds
    | ok made =>
      obtain ⟨e, store⟩ := made
      have he : e = supplied := (Blueprint.build_eq_ok hbuild).1
      subst he
      exact ⟨store, rfl, hbuilt _ store hbuild⟩

end Sample

end PromptMarkup
