import PromptMarkup.Proofs.Engine.Session
/-!
# Engine — which registrations are refused

A registration is refused where the store has its name. A store has the names
that were registered, and besides them those that an inquiry made it keep from
the provider (`Session.entered_or_kept`). So a template that was never registered
can be in the way of its own registration, and this happens in just these
sessions (`Engine.register_refused_iff`). A template that was registered is what
its name stands for from then on.
-/

namespace PromptMarkup

/-- An inquiry among the calls came upon a name that the store did not have and
kept what the provider has under it. -/
def Engine.Kept (e : Engine) (calls : List Call) (name : String) : Prop :=
  ∃ before inquiry after, calls = before ++ .inquire inquiry :: after ∧
    Keyed.find? (e.session before).store name = none ∧
    ∃ source t, e.provider name = some source ∧ e.parse name source = .ok t ∧
      Keyed.find? (inquiry.leaves e (e.session before).store) name = some t

namespace Session

variable {e : Engine} {calls more : List Call} {name : String} {t : Template}

theorem session_append (e : Engine) (calls more : List Call) :
    e.session (calls ++ more) = more.foldl (Session.step e) (e.session calls) :=
  List.foldl_append

/-- What is registered stays so. -/
theorem mem_registered_step {s : Session} (call : Call) (h : t ∈ s.registered) :
    t ∈ (s.step e call).registered := by
  obtain ⟨inquiry, -, hstep⟩ | ⟨entered, hstep⟩ | hstep := step_cases e s call
  · rw [hstep]
    exact h
  · rw [hstep.registered]
    exact List.mem_append_left _ h
  · rw [hstep]
    exact h

/-- What was kept was kept whatever is called later. -/
theorem kept_append (h : e.Kept calls name) (more : List Call) : e.Kept (calls ++ more) name := by
  obtain ⟨before, inquiry, after, rfl, hkept⟩ := h
  exact ⟨before, inquiry, after ++ more, by simp, hkept⟩

/-- **Whatever a store has was registered or kept.** -/
theorem entered_or_kept (hfind : Keyed.find? (e.session calls).store name = some t) :
    (∃ r ∈ (e.session calls).registered, r.name = name) ∨ e.Kept calls name := by
  induction calls using List.reverseRecOn generalizing t with
  | nil =>
    have hnone : (none : Option Template) = some t := hfind
    cases hnone
  | append_singleton before call ih =>
    -- What the store had before the last call was accounted for then.
    have hbefore : ∀ r, Keyed.find? (e.session before).store name = some r →
        (∃ r ∈ (e.session (before ++ [call])).registered, r.name = name) ∨
          e.Kept (before ++ [call]) name := by
      intro r hr
      obtain ⟨r', hmem, hname⟩ | hkept := ih hr
      · rw [session_append]
        exact .inl ⟨r', mem_registered_step call hmem, hname⟩
      · exact .inr (kept_append hkept [call])
    have hlast : e.session (before ++ [call]) = (e.session before).step e call :=
      session_append e before [call]
    obtain ⟨inquiry, rfl, hstep⟩ | ⟨entered, hstep⟩ | hstep :=
      step_cases e (e.session before) call
    · rw [hlast, hstep] at hfind
      obtain hfound | ⟨hnone, source, hsource, hparse⟩ :=
        (Engine.stocks_leaves e _ inquiry).find?_cases hfind
      · exact hbefore t hfound
      · exact .inr ⟨before, inquiry, [], rfl, hnone, source, t, hsource, hparse, hfind⟩
    · rw [hlast, hstep.store, Keyed.find?_insert] at hfind
      split at hfind
      · next heq =>
        refine .inl ⟨entered, ?_, heq.symm⟩
        rw [hlast, hstep.registered]
        exact List.mem_append_right _ (List.mem_singleton.2 rfl)
      · exact hbefore t hfind
    · rw [hlast, hstep] at hfind
      exact hbefore t hfind

/-- What was kept is in the store from then on. -/
theorem find?_of_kept (h : e.Kept calls name) :
    ∃ t, Keyed.find? (e.session calls).store name = some t := by
  obtain ⟨before, inquiry, after, rfl, -, source, t, -, -, hfind⟩ := h
  refine ⟨t, ?_⟩
  rw [session_append, List.foldl_cons]
  exact find?_run_of_some after hfind

end Session

namespace Blueprint

/-- The templates of a blueprint whose registrations succeed are registered
under their names, in their order. -/
theorem registered_of_stock {e : Engine} {templates : List (String × String)} {s : Session}
    {store : Store} (h : stock e s.store templates = .ok store) :
    ((templates.map fun (name, source) => Call.register name source).foldl (Session.step e)
      s).registered.map (·.name) = s.registered.map (·.name) ++ templates.map (·.1) := by
  induction templates generalizing s with
  | nil => exact (List.append_nil _).symm
  | cons template rest ih =>
    obtain ⟨name, source⟩ := template
    rw [stock] at h
    split at h
    · cases h
    · next hresult =>
      rw [List.map_cons, List.foldl_cons]
      cases hparse : e.parse name source with
      | error failure =>
        rw [Run.outcome, Engine.register_run, hparse] at hresult
        cases hresult
      | ok t =>
        have hstep : s.step e (.register name source) =
            ⟨((e.register name source).outcome s.store).journal.store, s.registered ++ [t]⟩ := by
          simp only [Session.step, hparse, hresult]
        rw [hstep, ih h, List.map_append, List.append_assoc, List.map_cons, List.map_nil,
          Engine.name_of_parse hparse]
        rfl

/-- **A built engine has every template of its blueprint registered.** -/
theorem registered_of_build {b : Blueprint} {e : Engine} {store : Store}
    (h : b.build = .ok (e, store)) :
    (e.session b.calls).registered.map (·.name) = b.templates.map (·.1) := by
  obtain ⟨-, hstock⟩ := build_eq_ok h
  exact registered_of_stock (s := {}) hstock

end Blueprint

namespace Engine

/-- **Which registrations are refused.** After whatever calls, the registration
of a source that can be read fails if and only if a template of its name was
registered or an inquiry made the store keep what the provider has under it, and
its failure says that the name is taken. What was registered is what every load
of its name finds, whatever is called in between. For a built engine the
templates of its blueprint are the first that were registered. -/
theorem register_refused_iff (e : Engine) (calls : List Call) (name source : String)
    (t : Template) (hparse : e.parse name source = .ok t) :
    let s := e.session calls
    let result := ((e.register name source).outcome s.store).result
    ((∃ failure, result = .error failure) ↔
        (∃ r ∈ s.registered, r.name = name) ∨ e.Kept calls name) ∧
      (∀ failure, result = .error failure → failure = .registration (.templateTaken name)) ∧
      (∀ r ∈ s.registered, ∀ more,
        ((e.load r.name).outcome (e.session (calls ++ more)).store).result = .ok (some r)) ∧
      ∀ (b : Blueprint) (store : Store), b.build = .ok (e, store) →
        (e.session b.calls).store = store ∧
          (e.session b.calls).registered.map (·.name) = b.templates.map (·.1) := by
  intro s result
  have hsound : s.Sound e := Session.sound e calls
  have hname : t.name = name := name_of_parse hparse
  have hresult : result = if Keyed.has s.store name then
      .error (.registration (.templateTaken name)) else .ok () := by
    simp only [result, Run.outcome, register_run, hparse, add_run, hname]
    split <;> rfl
  have hhas : Keyed.has s.store name = true ↔
      (∃ r ∈ s.registered, r.name = name) ∨ e.Kept calls name := by
    rw [Keyed.has, Option.isSome_iff_exists]
    constructor
    · rintro ⟨r, hfind⟩
      exact Session.entered_or_kept hfind
    · rintro (⟨r, hr, rfl⟩ | hkept)
      · exact ⟨r, hsound.kept r hr⟩
      · exact Session.find?_of_kept hkept
  refine ⟨?_, ?_, ?_, fun b store hbuild =>
    ⟨Blueprint.store_of_build hbuild, Blueprint.registered_of_build hbuild⟩⟩
  · rw [← hhas, hresult]
    split <;> simp_all
  · intro failure hfailure
    rw [hresult] at hfailure
    split at hfailure
    · exact (Except.error.inj hfailure).symm
    · cases hfailure
  · intro r hr more
    have hfind : Keyed.find? (e.session (calls ++ more)).store r.name = some r := by
      rw [Session.session_append]
      exact Session.find?_run_of_some more (hsound.kept r hr)
    rw [Run.outcome, load_run, available, hfind]

end Engine

/-! ## A greeting that is in its own way -/

namespace Sample

/-- The greeting is used once before anything is registered. -/
def used : List Call :=
  [.inquire (.executeNamed "greeting" .null)]

/-- Nothing was registered, and yet the registration of a greeting fails, which
succeeds before the first use. -/
theorem register_after_use :
    (supplied.session used).registered.isEmpty = true ∧
      (supplied.parse "greeting" "hello").isOk = true ∧
      ((supplied.register "greeting" "hello").outcome (supplied.session used).store).result =
        .error (.registration (.templateTaken "greeting")) ∧
      ((supplied.register "greeting" "hello").outcome (supplied.session []).store).result =
        .ok () := by
  decide +kernel

/-- It fails because the first use kept the greeting that is provided. A sign
that was registered is found whatever is used after it. -/
theorem register_refused_greeting :
    supplied.Kept used "greeting" ∧
      ∀ r ∈ (supplied.session [.register "sign" "bye"]).registered,
        ((supplied.load r.name).outcome
          (supplied.session (.register "sign" "bye" :: used)).store).result = .ok (some r) := by
  have hreads : ∀ source, (supplied.parse "greeting" source).toOption.isSome = true →
      supplied.parse "greeting" source = .ok (template supplied "greeting" source) :=
    fun source h => parse_template h
  have hgreeting := hreads "hello" (by decide +kernel)
  obtain ⟨hrefused, -, -, -⟩ :=
    Engine.register_refused_iff supplied used "greeting" "hello" _ hgreeting
  obtain ⟨-, -, hloads, -⟩ :=
    Engine.register_refused_iff supplied [.register "sign" "bye"] "greeting" "hello" _ hgreeting
  refine ⟨?_, fun r hr => hloads r hr used⟩
  have hfails : ((supplied.register "greeting" "hello").outcome
      (supplied.session used).store).result =
        .error (.registration (.templateTaken "greeting")) := by decide +kernel
  obtain ⟨r, hr, -⟩ | hkept := hrefused.1 ⟨_, hfails⟩
  · have hempty : (supplied.session used).registered.isEmpty = true := by decide +kernel
    rw [List.isEmpty_iff.1 hempty] at hr
    cases hr
  · exact hkept

end Sample

end PromptMarkup
