import PromptMarkup.Tree.Inherit
/-!
# Inheritance — the way up a chain of parents

An `Ascent` follows the parents that templates name, one load after another,
and an `Obstacle` is what ends it before a template without a parent is
reached. Resolution finds the one ascent that cannot go on
(`inherited_spec`, `Ascent.unique`), so it succeeds and fails exactly as the
ascent does (`effective_outcome`). The way of loading is arbitrary: it may
have effects, fail, and answer differently the second time.
-/

namespace PromptMarkup

namespace Tree

variable {σ : Type}

/-- From a template and a state, the loads in `steps` lead to another
template and state. Each load is of the parent named last, and is kept with
the template it gave. -/
inductive Ascent (load : String → Effect σ (Option Tree)) :
    Tree → σ → List (String × Tree) → Tree → σ → Prop
  | here {t : Tree} {s : σ} : Ascent load t s [] t s
  | up {t above last : Tree} {name : String} {s s₁ s₂ : σ} {steps : List (String × Tree)}
      (hparent : t.parent? = some name) (hload : (load name).run s = (.ok (some above), s₁))
      (hrest : Ascent load above s₁ steps last s₂) :
      Ascent load t s ((name, above) :: steps) last s₂

/-- The names met on an ascent: that of the template it begins with, and the
names of the parents as they were asked for. -/
def namesMet (t : Tree) (steps : List (String × Tree)) : List String :=
  t.name :: steps.map Prod.fst

/-- What keeps an ascent from its next step. The names met so far are those
of `chain`. Of the three causes a repeated name comes first and the load
last. -/
inductive Obstacle (load : String → Effect σ (Option Tree)) (limit : Nat) (chain : List String)
    (t : Tree) (s : σ) : Failure → σ → Prop
  /-- The parent was met before. -/
  | cycle {name : String} (hparent : t.parent? = some name) (hmet : name ∈ chain) :
      Obstacle load limit chain t s (.inheritance (.cycle chain name)) s
  /-- As many parents were loaded as may be. -/
  | tooDeep {name : String} (hparent : t.parent? = some name) (hnew : name ∉ chain)
      (hdepth : limit < chain.length) :
      Obstacle load limit chain t s (.inheritance (.tooDeep limit)) s
  /-- The load fails, and its failure is passed on as it is. -/
  | refused {name : String} {failure : Failure} {s' : σ} (hparent : t.parent? = some name)
      (hnew : name ∉ chain) (hdepth : chain.length ≤ limit)
      (hload : (load name).run s = (.error failure, s')) :
      Obstacle load limit chain t s failure s'
  /-- There is no template of this name. -/
  | unknown {name : String} {s' : σ} (hparent : t.parent? = some name) (hnew : name ∉ chain)
      (hdepth : chain.length ≤ limit) (hload : (load name).run s = (.ok none, s')) :
      Obstacle load limit chain t s (.inheritance (.unknownParent t.name name)) s'

/-- The nodes of a template with the blocks of all that it was followed up
to, merged from the top down. -/
def merged (t : Tree) : List (String × Tree) → List Node
  | [] => t.nodes
  | (_, above) :: rest => Node.override t.nodes (merged above rest)

/-- Loading that keeps a list of the names asked for. -/
def recording (load : String → Effect σ (Option Tree)) (name : String) :
    Effect (σ × List String) (Option Tree) :=
  ExceptT.mk fun (s, asked) =>
    let (result, s') := (load name).run s
    (result, (s', asked ++ [name]))

variable {load : String → Effect σ (Option Tree)} {limit : Nat} {t : Tree} {s : σ}

/-! ## One step of the resolution -/

/-- One operation after another: the second runs only if the first succeeds,
in the state it leaves. -/
theorem Effect.run_bind {α β : Type} (first : Effect σ α) (next : α → Effect σ β) (s : σ) :
    (first >>= next).run s =
      match first.run s with
      | (.ok a, s') => (next a).run s'
      | (.error failure, s') => (.error failure, s') := by
  simp only [ExceptT.run, bind, ExceptT.bind, ExceptT.mk, StateT.bind, ExceptT.bindCont]
  rcases first s with ⟨result, s'⟩
  cases result <;> rfl

/-- **What one step of the resolution does**, cause by cause. -/
theorem inherited_run (load : String → Effect σ (Option Tree)) (limit budget : Nat)
    (chain : List String) (t : Tree) (s : σ) :
    (inherited load limit budget chain t).run s =
      match t.parent? with
      | none => (.ok t.nodes, s)
      | some name =>
        if name ∈ chain then (.error (.inheritance (.cycle chain name)), s)
        else
          match budget with
          | 0 => (.error (.inheritance (.tooDeep limit)), s)
          | budget + 1 =>
            match (load name).run s with
            | (.error failure, s') => (.error failure, s')
            | (.ok none, s') => (.error (.inheritance (.unknownParent t.name name)), s')
            | (.ok (some above), s') =>
              match (inherited load limit budget (chain ++ [name]) above).run s' with
              | (.error failure, s'') => (.error failure, s'')
              | (.ok nodes, s'') => (.ok (Node.override t.nodes nodes), s'') := by
  rw [inherited]
  cases hparent : t.parent? with
  | none => rfl
  | some name =>
    simp only [List.contains_iff_mem]
    split
    · rfl
    · cases budget with
      | zero => rfl
      | succ budget =>
        simp only [Effect.run_bind]
        rcases (load name).run s with ⟨failure | _ | above, s'⟩
        · rfl
        · rfl
        · simp only [Effect.run_bind]
          rcases (inherited load limit budget (chain ++ [name]) above).run s' with ⟨_ | _, _⟩ <;>
            rfl

/-- The nodes of a template once its parents are resolved are those found on
the way up without their markers. -/
theorem effective_run (load : String → Effect σ (Option Tree)) (limit : Nat) (t : Tree) (s : σ) :
    (effective load limit t).run s =
      match (inherited load limit limit [t.name] t).run s with
      | (.ok nodes, s') => (.ok (Node.flatten nodes), s')
      | (.error failure, s') => (.error failure, s') := by
  rw [effective, Effect.run_bind]
  rcases (inherited load limit limit [t.name] t).run s with ⟨_ | _, _⟩ <;> rfl

/-! ## The ascent ends -/

variable {load : String → Effect σ (Option Tree)} {limit : Nat} {chain : List String}
  {t : Tree} {s : σ}

/-- **Resolution goes up as far as it can.** It makes an ascent without
repetition within its budget, to a template without a parent, whose nodes it
then merges downwards, or to an obstacle, whose failure it reports. -/
theorem inherited_spec (load : String → Effect σ (Option Tree)) (limit : Nat) :
    ∀ (budget : Nat) (chain : List String) (t : Tree) (s : σ), budget + chain.length = limit + 1 →
      chain.Nodup → ∃ steps last s₁, Ascent load t s steps last s₁ ∧ steps.length ≤ budget ∧
        (chain ++ steps.map Prod.fst).Nodup ∧
        ((last.parent? = none ∧
            (inherited load limit budget chain t).run s = (.ok (merged t steps), s₁)) ∨
          ∃ failure s', Obstacle load limit (chain ++ steps.map Prod.fst) last s₁ failure s' ∧
            (inherited load limit budget chain t).run s = (.error failure, s')) := by
  intro budget
  induction budget with
  | zero =>
    intro chain t s hbudget hchain
    refine ⟨[], t, s, .here, Nat.le_refl 0, by simpa using hchain, ?_⟩
    rw [inherited_run, List.map_nil, List.append_nil]
    cases hparent : t.parent? with
    | none => exact .inl ⟨rfl, rfl⟩
    | some name =>
      refine .inr ?_
      by_cases hmet : name ∈ chain
      · exact ⟨_, _, .cycle hparent hmet, by simp only [if_pos hmet]⟩
      · exact ⟨_, _, .tooDeep hparent hmet (by omega), by simp only [if_neg hmet]⟩
  | succ budget ih =>
    intro chain t s hbudget hchain
    -- with no step made, the names met are those of the chain
    have hstay : (chain ++ ([] : List (String × Tree)).map Prod.fst).Nodup := by simpa using hchain
    have hstop : ∀ {failure s'}, Obstacle load limit chain t s failure s' →
        Obstacle load limit (chain ++ ([] : List (String × Tree)).map Prod.fst) t s failure s' :=
      fun h => by rwa [List.map_nil, List.append_nil]
    rw [inherited_run]
    cases hparent : t.parent? with
    | none =>
      exact ⟨[], t, s, .here, Nat.zero_le _, hstay, .inl ⟨hparent, rfl⟩⟩
    | some name =>
      by_cases hmet : name ∈ chain
      · simp only [if_pos hmet]
        exact ⟨[], t, s, .here, Nat.zero_le _, hstay,
          .inr ⟨_, _, hstop (.cycle hparent hmet), rfl⟩⟩
      · simp only [if_neg hmet]
        have hdepth : chain.length ≤ limit := by omega
        rcases hload : (load name).run s with ⟨failure | _ | above, s'⟩
        · exact ⟨[], t, s, .here, Nat.zero_le _, hstay,
            .inr ⟨failure, s', hstop (.refused hparent hmet hdepth hload), rfl⟩⟩
        · exact ⟨[], t, s, .here, Nat.zero_le _, hstay,
            .inr ⟨_, s', hstop (.unknown hparent hmet hdepth hload), rfl⟩⟩
        · have hnext : (chain ++ [name]).Nodup :=
            List.nodup_append.2 ⟨hchain, by simp, by
              intro a ha b hb
              rw [List.mem_singleton.1 hb]
              exact fun hab => hmet (hab ▸ ha)⟩
          obtain ⟨steps, last, s₁, hup, hlen, hnodup, hend⟩ := ih (chain ++ [name]) above s'
            (by rw [List.length_append, List.length_singleton]; omega) hnext
          refine ⟨(name, above) :: steps, last, s₁, .up hparent hload hup,
            by rw [List.length_cons]; omega, by simpa using hnodup, ?_⟩
          rcases hend with ⟨hroot, hrun⟩ | ⟨failure, s'', hobstacle, hrun⟩
          · exact .inl ⟨hroot, by simp only [hrun, merged]⟩
          · refine .inr ⟨failure, s'', by simpa using hobstacle, ?_⟩
            simp only [hrun]

/-- An obstacle stands only before a parent. -/
theorem Obstacle.parent_ne_none {failure : Failure} {s' : σ}
    (h : Obstacle load limit chain t s failure s') : t.parent? ≠ none := by
  intro hroot
  cases h with
  | cycle hparent | tooDeep hparent | refused hparent | unknown hparent =>
    rw [hroot] at hparent
    cases hparent

/-- Where an obstacle stands there is no next step. -/
theorem Obstacle.no_step {failure : Failure} {s' s₁ : σ} {name : String} {above : Tree}
    (h : Obstacle load limit chain t s failure s') (hparent : t.parent? = some name)
    (hnew : name ∉ chain) (hdepth : chain.length ≤ limit) :
    (load name).run s ≠ (.ok (some above), s₁) := by
  intro hload
  cases h with
  | cycle hp hmet =>
    rw [hparent] at hp
    cases hp
    exact hnew hmet
  | tooDeep hp hn hd => omega
  | refused hp hn hd hl =>
    rw [hparent] at hp
    cases hp
    rw [hload] at hl
    cases hl
  | unknown hp hn hd hl =>
    rw [hparent] at hp
    cases hp
    rw [hload] at hl
    cases hl

/-- And there is only one obstacle in a place. -/
theorem Obstacle.unique {f₁ f₂ : Failure} {s₁ s₂ : σ} (h₁ : Obstacle load limit chain t s f₁ s₁)
    (h₂ : Obstacle load limit chain t s f₂ s₂) : f₁ = f₂ ∧ s₁ = s₂ := by
  have hname : ∀ {a b : String}, t.parent? = some a → t.parent? = some b → a = b :=
    fun ha hb => Option.some.inj (ha.symm.trans hb)
  cases h₁ with
  | cycle hp hmet =>
    cases h₂ with
    | cycle hp' => exact ⟨by rw [hname hp hp'], rfl⟩
    | tooDeep hp' hn => exact absurd (hname hp hp' ▸ hmet) hn
    | refused hp' hn => exact absurd (hname hp hp' ▸ hmet) hn
    | unknown hp' hn => exact absurd (hname hp hp' ▸ hmet) hn
  | tooDeep hp hn hd =>
    cases h₂ with
    | cycle hp' hmet => exact absurd (hname hp' hp ▸ hmet) hn
    | tooDeep => exact ⟨rfl, rfl⟩
    | refused _ _ hd' => omega
    | unknown _ _ hd' => omega
  | refused hp hn hd hl =>
    cases h₂ with
    | cycle hp' hmet => exact absurd (hname hp' hp ▸ hmet) hn
    | tooDeep _ _ hd' => omega
    | refused hp' _ _ hl' =>
      rw [hname hp' hp, hl] at hl'
      cases hl'
      exact ⟨rfl, rfl⟩
    | unknown hp' _ _ hl' =>
      rw [hname hp' hp, hl] at hl'
      cases hl'
  | unknown hp hn hd hl =>
    cases h₂ with
    | cycle hp' hmet => exact absurd (hname hp' hp ▸ hmet) hn
    | tooDeep _ _ hd' => omega
    | refused hp' _ _ hl' =>
      rw [hname hp' hp, hl] at hl'
      cases hl'
    | unknown hp' _ _ hl' =>
      rw [hname hp' hp, hl] at hl'
      cases hl'
      exact ⟨by rw [hname hp hp'], rfl⟩

/-- An ascent cannot go on: it is at a template without a parent or before
an obstacle. -/
def Ended (load : String → Effect σ (Option Tree)) (limit : Nat) (chain : List String) (t : Tree)
    (s : σ) : Prop :=
  t.parent? = none ∨ ∃ failure s', Obstacle load limit chain t s failure s'

/-- From a template without a parent no step leads up. -/
theorem Ascent.eq_nil_of_root {more : List (String × Tree)} {last : Tree} {s₁ : σ}
    (h : Ascent load t s more last s₁) (hroot : t.parent? = none) :
    more = [] ∧ last = t ∧ s₁ = s := by
  cases h with
  | here => exact ⟨rfl, rfl, rfl⟩
  | up hparent =>
    rw [hroot] at hparent
    cases hparent

/-- An ascent leads to a template that it met. -/
theorem Ascent.last_mem {steps : List (String × Tree)} {last : Tree} {s₁ : σ}
    (h : Ascent load t s steps last s₁) : last ∈ t :: steps.map Prod.snd := by
  induction h with
  | here => exact List.mem_cons_self
  | up hparent hload hrest ih => exact List.mem_cons_of_mem _ ih

/-- **Where an ascent has ended it stays**, if no name is to be met twice and
the limit is kept. -/
theorem Ended.eq_nil {more : List (String × Tree)} {last : Tree} {s₁ : σ}
    (h : Ended load limit chain t s) (hup : Ascent load t s more last s₁)
    (hnodup : (chain ++ more.map Prod.fst).Nodup) (hlen : more.length + chain.length ≤ limit + 1) :
    more = [] ∧ last = t ∧ s₁ = s := by
  rcases h with hroot | ⟨failure, s', hobstacle⟩
  · exact hup.eq_nil_of_root hroot
  · cases hup with
    | here => exact ⟨rfl, rfl, rfl⟩
    | @up _ above _ name _ _ _ rest hparent hload hrest =>
      have hnew : name ∉ chain := fun hmem =>
        (List.nodup_append.1 hnodup).2.2 name hmem name List.mem_cons_self rfl
      rw [List.length_cons] at hlen
      exact absurd hload (hobstacle.no_step hparent hnew (by omega))

/-- Of two ascents from one place, one is the beginning of the other. -/
theorem Ascent.comparable {steps steps' : List (String × Tree)} {last last' : Tree} {s₁ s₁' : σ}
    (h : Ascent load t s steps last s₁) (h' : Ascent load t s steps' last' s₁') :
    (∃ more, steps' = steps ++ more ∧ Ascent load last s₁ more last' s₁') ∨
      ∃ more, steps = steps' ++ more ∧ Ascent load last' s₁' more last s₁ := by
  induction h generalizing steps' with
  | here => exact .inl ⟨steps', rfl, h'⟩
  | up hparent hload hrest ih =>
    cases h' with
    | here => exact .inr ⟨_, rfl, .up hparent hload hrest⟩
    | up hparent' hload' hrest' =>
      rw [hparent] at hparent'
      cases hparent'
      rw [hload] at hload'
      cases hload'
      rcases ih hrest' with ⟨more, rfl, hmore⟩ | ⟨more, rfl, hmore⟩
      · exact .inl ⟨more, rfl, hmore⟩
      · exact .inr ⟨more, rfl, hmore⟩

/-- So there is at most one ascent to a template without a parent. -/
theorem Ascent.root_unique {steps steps' : List (String × Tree)} {last last' : Tree} {s₁ s₁' : σ}
    (h : Ascent load t s steps last s₁) (hroot : last.parent? = none)
    (h' : Ascent load t s steps' last' s₁') (hroot' : last'.parent? = none) :
    steps = steps' ∧ last = last' ∧ s₁ = s₁' := by
  rcases h.comparable h' with ⟨more, rfl, hmore⟩ | ⟨more, rfl, hmore⟩
  · obtain ⟨rfl, rfl, rfl⟩ := hmore.eq_nil_of_root hroot
    exact ⟨(List.append_nil _).symm, rfl, rfl⟩
  · obtain ⟨rfl, rfl, rfl⟩ := hmore.eq_nil_of_root hroot'
    exact ⟨List.append_nil _, rfl, rfl⟩

/-- **And at most one that goes as far as it can**, within the limit and
without meeting a name twice. -/
theorem Ascent.unique {steps steps' : List (String × Tree)} {last last' : Tree} {s₁ s₁' : σ}
    (h : Ascent load t s steps last s₁) (h' : Ascent load t s steps' last' s₁')
    (hlen : steps.length + chain.length ≤ limit + 1)
    (hlen' : steps'.length + chain.length ≤ limit + 1)
    (hnodup : (chain ++ steps.map Prod.fst).Nodup) (hnodup' : (chain ++ steps'.map Prod.fst).Nodup)
    (hend : Ended load limit (chain ++ steps.map Prod.fst) last s₁)
    (hend' : Ended load limit (chain ++ steps'.map Prod.fst) last' s₁') :
    steps = steps' ∧ last = last' ∧ s₁ = s₁' := by
  rcases h.comparable h' with ⟨more, rfl, hmore⟩ | ⟨more, rfl, hmore⟩
  · rw [List.map_append, ← List.append_assoc] at hnodup'
    obtain ⟨rfl, rfl, rfl⟩ := hend.eq_nil hmore hnodup' (by
      simp only [List.length_append, List.length_map] at hlen' ⊢
      omega)
    exact ⟨(List.append_nil _).symm, rfl, rfl⟩
  · rw [List.map_append, ← List.append_assoc] at hnodup
    obtain ⟨rfl, rfl, rfl⟩ := hend'.eq_nil hmore hnodup (by
      simp only [List.length_append, List.length_map] at hlen ⊢
      omega)
    exact ⟨List.append_nil _, rfl, rfl⟩

/-- **Where resolution succeeds it has gone up to a template without a
parent**, and merged what it met. -/
theorem ascent_of_inherited {joined : List Node} {s' : σ}
    (h : (inherited load limit limit [t.name] t).run s = (.ok joined, s')) :
    ∃ steps root, Ascent load t s steps root s' ∧ root.parent? = none ∧
      joined = merged t steps := by
  obtain ⟨steps, root, s₁, hup, _, _, ⟨hroot, hok⟩ | ⟨_, _, _, herror⟩⟩ :=
    inherited_spec load limit limit [t.name] t s rfl (by simp)
  · rw [hok] at h
    cases h
    exact ⟨steps, root, hup, hroot, rfl⟩
  · rw [herror] at h
    cases h

/-- **And where there is such a way up, within the limit and without a name
met twice, it succeeds.** -/
theorem Ascent.inherited_eq {steps : List (String × Tree)} {root : Tree} {s₁ : σ}
    (h : Ascent load t s steps root s₁) (hroot : root.parent? = none)
    (hlen : steps.length ≤ limit) (hnodup : (namesMet t steps).Nodup) :
    (inherited load limit limit [t.name] t).run s = (.ok (merged t steps), s₁) := by
  obtain ⟨steps', last, s₂, hup, hlen', hnodup', hend⟩ :=
    inherited_spec load limit limit [t.name] t s rfl (by simp)
  have hended : Ended load limit (namesMet t steps') last s₂ :=
    hend.imp And.left fun ⟨failure, s', hobstacle, _⟩ => ⟨failure, s', hobstacle⟩
  obtain ⟨rfl, rfl, rfl⟩ := hup.unique h (Nat.succ_le_succ hlen') (Nat.succ_le_succ hlen)
    hnodup' hnodup hended (.inl hroot)
  rcases hend with ⟨_, hok⟩ | ⟨_, _, hobstacle, _⟩
  · exact hok
  · exact absurd hroot hobstacle.parent_ne_none

/-- And what it yields is that without the markers. -/
theorem inherited_of_effective {nodes : List Node} {s' : σ}
    (h : (effective load limit t).run s = (.ok nodes, s')) :
    ∃ joined, (inherited load limit limit [t.name] t).run s = (.ok joined, s') ∧
      nodes = Node.flatten joined := by
  rw [effective_run] at h
  rcases hrun : (inherited load limit limit [t.name] t).run s with ⟨failure | joined, s₁⟩
  · rw [hrun] at h
    cases h
  · rw [hrun] at h
    cases h
    exact ⟨joined, rfl, rfl⟩

/-! ## A fixed collection of templates -/

/-- Loading from a list of templates, by their names. -/
def shelf (trees : List Tree) (name : String) : Effect Unit (Option Tree) :=
  pure (trees.find? (·.name = name))

/-- From a shelf only what is on it is loaded. -/
theorem Ascent.mem_shelf {trees : List Tree} {t last : Tree} {s s₁ : Unit}
    {steps : List (String × Tree)} (h : Ascent (shelf trees) t s steps last s₁) :
    ∀ step ∈ steps, step.2 ∈ trees := by
  induction h with
  | here => exact fun _ hstep => absurd hstep List.not_mem_nil
  | up hparent hload hrest ih =>
    intro step hstep
    rcases List.mem_cons.1 hstep with rfl | hstep
    · exact List.mem_of_find?_eq_some (Except.ok.inj (congrArg Prod.fst hload))
    · exact ih step hstep

/-! ## Counting the loads -/

/-- **Resolution loads within its budget**, and asking for the names to be
kept changes nothing else. -/
theorem inherited_recording (load : String → Effect σ (Option Tree)) (limit : Nat) :
    ∀ (budget : Nat) (chain : List String) (t : Tree) (s : σ) (asked : List String),
      ∃ more : List String, more.length ≤ budget ∧
        (inherited (recording load) limit budget chain t).run (s, asked) =
          (((inherited load limit budget chain t).run s).1,
            (((inherited load limit budget chain t).run s).2, asked ++ more)) := by
  intro budget
  induction budget with
  | zero =>
    intro chain t s asked
    refine ⟨[], Nat.le_refl 0, ?_⟩
    rw [inherited_run, inherited_run, List.append_nil]
    cases t.parent? with
    | none => rfl
    | some name =>
      by_cases hmet : name ∈ chain
      · simp only [if_pos hmet]
      · simp only [if_neg hmet]
  | succ budget ih =>
    intro chain t s asked
    rw [inherited_run, inherited_run]
    cases t.parent? with
    | none => exact ⟨[], Nat.zero_le _, by rw [List.append_nil]⟩
    | some name =>
      by_cases hmet : name ∈ chain
      · exact ⟨[], Nat.zero_le _, by simp only [if_pos hmet, List.append_nil]⟩
      · simp only [if_neg hmet]
        have hrecord : (recording load name).run (s, asked) =
            (((load name).run s).1, (((load name).run s).2, asked ++ [name])) := rfl
        rw [hrecord]
        rcases (load name).run s with ⟨failure | _ | above, s'⟩
        · exact ⟨[name], Nat.le_add_left 1 budget, rfl⟩
        · exact ⟨[name], Nat.le_add_left 1 budget, rfl⟩
        · obtain ⟨more, hlen, hrun⟩ := ih (chain ++ [name]) above s' (asked ++ [name])
          refine ⟨name :: more, Nat.succ_le_succ hlen, ?_⟩
          simp only [hrun]
          rcases (inherited load limit budget (chain ++ [name]) above).run s' with ⟨_ | _, _⟩ <;>
            simp only [List.append_assoc, List.singleton_append]

/-! ## The outcome -/

/-- **Resolution succeeds and fails as the way up does.** It succeeds exactly
where the way up reaches a template without a parent within the limit and
without meeting a name twice; it fails exactly with the failure of the first
obstacle; and it loads no more often than the limit allows. -/
theorem effective_outcome (load : String → Effect σ (Option Tree)) (limit : Nat) (t : Tree)
    (s : σ) :
    ((∃ nodes s', (effective load limit t).run s = (.ok nodes, s')) ↔
      ∃ steps root s', Ascent load t s steps root s' ∧ root.parent? = none ∧
        steps.length ≤ limit ∧ (namesMet t steps).Nodup) ∧
    (∀ failure s', (effective load limit t).run s = (.error failure, s') ↔
      ∃ steps last s₁, Ascent load t s steps last s₁ ∧ steps.length ≤ limit ∧
        (namesMet t steps).Nodup ∧ Obstacle load limit (namesMet t steps) last s₁ failure s') ∧
    ∃ asked : List String, asked.length ≤ limit ∧
      (effective (recording load) limit t).run (s, []) =
        (((effective load limit t).run s).1, (((effective load limit t).run s).2, asked)) := by
  obtain ⟨steps, last, s₁, hup, hlen, hnodup, hend⟩ :=
    inherited_spec load limit limit [t.name] t s rfl (by simp)
  have hended : Ended load limit (namesMet t steps) last s₁ :=
    hend.imp And.left fun ⟨failure, s', hobstacle, _⟩ => ⟨failure, s', hobstacle⟩
  -- every other way up that ends is the one found
  have hsame : ∀ {steps' last' s₁'}, Ascent load t s steps' last' s₁' → steps'.length ≤ limit →
      (namesMet t steps').Nodup → Ended load limit (namesMet t steps') last' s₁' →
      steps = steps' ∧ last = last' ∧ s₁ = s₁' := fun hup' hlen' hnodup' hended' =>
    hup.unique hup' (Nat.succ_le_succ hlen) (Nat.succ_le_succ hlen') hnodup hnodup' hended hended'
  refine ⟨⟨?_, ?_⟩, fun failure s' => ⟨?_, ?_⟩, ?_⟩
  · rintro ⟨nodes, s', hrun⟩
    rw [effective_run] at hrun
    rcases hend with ⟨hroot, _⟩ | ⟨_, _, _, herror⟩
    · exact ⟨steps, last, s₁, hup, hroot, hlen, hnodup⟩
    · rw [herror] at hrun
      cases hrun
  · rintro ⟨steps', root, s', hup', hroot, hlen', hnodup'⟩
    exact ⟨_, _, by rw [effective_run, hup'.inherited_eq hroot hlen' hnodup']⟩
  · intro hrun
    rw [effective_run] at hrun
    rcases hend with ⟨_, hok⟩ | ⟨failure', s'', hobstacle, herror⟩
    · rw [hok] at hrun
      cases hrun
    · rw [herror] at hrun
      cases hrun
      exact ⟨steps, last, s₁, hup, hlen, hnodup, hobstacle⟩
  · rintro ⟨steps', last', s₁', hup', hlen', hnodup', hobstacle'⟩
    obtain ⟨rfl, rfl, rfl⟩ := hsame hup' hlen' hnodup' (.inr ⟨_, _, hobstacle'⟩)
    rcases hend with ⟨hroot, _⟩ | ⟨failure', s'', hobstacle, herror⟩
    · exact absurd hroot hobstacle'.parent_ne_none
    · obtain ⟨rfl, rfl⟩ := hobstacle.unique hobstacle'
      rw [effective_run, herror]
  · obtain ⟨asked, hasked, hrun⟩ := inherited_recording load limit limit [t.name] t s []
    refine ⟨asked, hasked, ?_⟩
    rw [effective_run, effective_run, hrun, List.nil_append]
    rcases (inherited load limit limit [t.name] t).run s with ⟨_ | _, _⟩ <;> rfl

end Tree

end PromptMarkup
