import PromptMarkup.Proofs.Engine.Load
import PromptMarkup.Proofs.Tree.Demands
/-!
# Engine — what the resolution of inheritance asks for

The names that a template is led to by what it extends are its lineage
(`Engine.Lineage`). Resolving inheritance asks for no other template, so it
leaves everything as it was but for templates of the lineage that it may
have put into the store (`grown_effective`). And it comes out the same in an
engine that has the same templates there, whatever else the two engines
know and whatever their resolvers do (`Counterpart.effective_eq`).
-/

namespace PromptMarkup

namespace Engine

/-- A template is led to these names by what it extends, where these
templates are available. -/
inductive Lineage (e : Engine) (store : Store) : Tree → String → Prop
  /-- It extends a template of this name. -/
  | parent {t : Tree} {name : String} (hparent : t.parent? = some name) : Lineage e store t name
  /-- The template that it extends is led to the name. -/
  | beyond {t : Tree} {parent name : String} {above : Template}
      (hparent : t.parent? = some parent)
      (hfound : e.available store parent = .ok (some above))
      (hbeyond : Lineage e store above.tree name) : Lineage e store t name

/-! ## What is left behind -/

/-- One journal becomes another by templates alone that were asked for: each
was available and is now in the store, which had none of its name. -/
structure Grown (e : Engine) (asked : String → Prop) (j j' : Journal) : Prop where
  logs : j'.logs = j.logs
  reads : j'.reads = j.reads
  store : ∀ name, Keyed.find? j'.store name = Keyed.find? j.store name ∨
    asked name ∧ Keyed.find? j.store name = none ∧
      ∃ t, e.available j.store name = .ok (some t) ∧ Keyed.find? j'.store name = some t

variable {e : Engine} {asked asked' : String → Prop} {j j' j'' : Journal} {store : Store}

theorem Grown.refl (e : Engine) (asked : String → Prop) (j : Journal) : e.Grown asked j j :=
  ⟨rfl, rfl, fun _ => .inl rfl⟩

theorem Grown.imp (h : e.Grown asked j j') (himp : ∀ name, asked name → asked' name) :
    e.Grown asked' j j' := by
  refine ⟨h.logs, h.reads, fun name => ?_⟩
  obtain hsame | ⟨hasked, hnew⟩ := h.store name
  · exact .inl hsame
  · exact .inr ⟨himp name hasked, hnew⟩

/-- What is put into the store was available and stays so. -/
theorem Grown.available_eq (h : e.Grown asked j j') :
    e.available j'.store = e.available j.store := by
  funext name
  obtain hsame | ⟨_, _, t, hfound, hkept⟩ := h.store name
  · rw [available, available, hsame]
  · rw [hfound, available, hkept]

/-- **Nothing comes into being**: a template exists afterwards if it did
before. -/
theorem Grown.has_eq (h : e.Grown asked j j') : e.has j'.store = e.has j.store := by
  funext name
  obtain hsame | ⟨_, hnone, t, hfound, hkept⟩ := h.store name
  · rw [has, has, Keyed.has, Keyed.has, hsame]
  · have hprovided : (e.provider name).isSome = true := by
      rw [available, hnone] at hfound
      cases hsource : e.provider name with
      | none =>
        rw [hsource] at hfound
        cases hfound
      | some source => rfl
    rw [has, has, hprovided, Bool.or_true, Bool.or_true]

theorem Grown.trans (h : e.Grown asked j j') (h' : e.Grown asked j' j'') :
    e.Grown asked j j'' := by
  refine ⟨h'.logs.trans h.logs, h'.reads.trans h.reads, fun name => ?_⟩
  obtain hsame' | ⟨hasked, hnone, t, hfound, hkept⟩ := h'.store name
  · rw [hsame']
    exact h.store name
  · rw [h.available_eq] at hfound
    obtain hsame | ⟨_, _, t', _, hkept'⟩ := h.store name
    · exact .inr ⟨hasked, hsame ▸ hnone, t, hfound, hkept⟩
    · rw [hkept'] at hnone
      cases hnone

/-- A load adds the template it was asked for at most. -/
theorem grown_load (e : Engine) (name : String) (j : Journal) :
    e.Grown (· = name) j ((e.load name).run j).2 := by
  rw [load_run]
  refine ⟨rfl, rfl, fun other => ?_⟩
  simp only [stocked]
  split
  · next t hnone hfound =>
    rw [Keyed.find?_insert]
    by_cases hother : other = name
    · subst hother
      exact .inr ⟨rfl, hnone, t, hfound, if_pos rfl⟩
    · exact .inl (if_neg hother)
  · exact .inl rfl

/-- Follows the parents that a tree names, so many of them and none that was
met. -/
abbrev inherited (e : Engine) (budget : Nat) (chain : List String) (t : Tree) : Run (List Node) :=
  Tree.inherited (fun name => (·.map Template.tree) <$> e.load name) e.options.maxDepth budget
    chain t

/-- The parent of a tree is what is available under its name, and the rest of
the chain is followed from what the load of it left behind. -/
theorem inherited_succ_run (e : Engine) (budget : Nat) (chain : List String) (t : Tree)
    (j : Journal) :
    (e.inherited (budget + 1) chain t).run j =
      match t.parent? with
      | none => (.ok t.nodes, j)
      | some parent =>
        if parent ∈ chain then (.error (.inheritance (.cycle chain parent)), j)
        else
          let loaded : Journal := { j with store := e.stocked j.store parent }
          match e.available j.store parent with
          | .error failure => (.error failure, loaded)
          | .ok none => (.error (.inheritance (.unknownParent t.name parent)), loaded)
          | .ok (some above) =>
            let rest := (e.inherited budget (chain ++ [parent]) above.tree).run loaded
            (rest.1.map (Node.override t.nodes), rest.2) := by
  have hload : ∀ name, (((·.map Template.tree) <$> e.load name : Run (Option Tree)).run j) =
      ((e.available j.store name).map (·.map Template.tree),
        { j with store := e.stocked j.store name }) := by
    intro name
    rw [Run.run_map, load_run]
  rw [Tree.inherited_run]
  cases t.parent? with
  | none => rfl
  | some parent =>
    simp only [hload]
    split
    · rfl
    · cases e.available j.store parent with
      | error failure => rfl
      | ok found =>
        cases found with
        | none => rfl
        | some above =>
          simp only [Except.map, Option.map_some]
          split <;> next h => rw [h]

/-- Without a budget nothing is loaded. -/
theorem inherited_zero_run (e : Engine) (chain : List String) (t : Tree) (j : Journal) :
    (e.inherited 0 chain t).run j =
      match t.parent? with
      | none => (.ok t.nodes, j)
      | some parent =>
        if parent ∈ chain then (.error (.inheritance (.cycle chain parent)), j)
        else (.error (.inheritance (.tooDeep e.options.maxDepth)), j) :=
  Tree.inherited_run _ _ 0 chain t j

/-- What a template stands for is found by following its parents, without
the markers of what they may replace. -/
theorem effective_eq_inherited (e : Engine) (t : Template) (j : Journal) :
    (e.effective t).run j =
      let climbed := (e.inherited e.options.maxDepth [t.tree.name] t.tree).run j
      (climbed.1.map Node.flatten, climbed.2) := by
  rw [effective, Tree.effective_run]
  split <;> next h => rw [inherited, h]; rfl

/-- Following a chain of parents asks for names of the lineage. -/
theorem grown_inherited (budget : Nat) (chain : List String) (t : Tree)
    (hstore : e.available j.store = e.available store) :
    e.Grown (e.Lineage store t) j ((e.inherited budget chain t).run j).2 := by
  induction budget generalizing chain t j with
  | zero =>
    rw [inherited_zero_run]
    split
    · exact .refl _ _ _
    · split <;> exact .refl _ _ _
  | succ budget ih =>
    rw [inherited_succ_run]
    cases hparent : t.parent? with
    | none => exact .refl _ _ _
    | some parent =>
      have hload : e.Grown (e.Lineage store t) j { j with store := e.stocked j.store parent } := by
        have hasked := (e.grown_load parent j).imp fun name hname =>
          (Lineage.parent (hname ▸ hparent) : e.Lineage store t name)
        rwa [load_run] at hasked
      simp only
      split
      · exact .refl _ _ _
      · cases hfound : e.available j.store parent with
        | error failure => exact hload
        | ok found =>
          cases found with
          | none => exact hload
          | some above =>
            have hrest := ih (chain ++ [parent]) above.tree (hload.available_eq.trans hstore)
            exact hload.trans (hrest.imp fun name hname =>
              .beyond hparent (by rw [← hstore, hfound]) hname)

/-- **Resolving inheritance leaves everything as it was**, but for templates
of the lineage that were put into the store. -/
theorem grown_effective (e : Engine) (t : Template) (j : Journal) :
    e.Grown (e.Lineage j.store t.tree) j ((e.effective t).run j).2 := by
  have hgrown := grown_inherited e.options.maxDepth [t.tree.name] t.tree
    (rfl : e.available j.store = e.available j.store)
  rwa [effective_eq_inherited]

/-! ## Two engines -/

/-- Two engines have the same options and functions, and resolvers of the
same names that demand the same. What they resolve tags to, and what else the
engines can provide, may differ. -/
structure Counterpart (e e' : Engine) : Prop where
  options : e.options = e'.options
  functions : e.functions = e'.functions
  resolvers : e.resolvers.SameDemands e'.resolvers

variable {e' : Engine} {store' : Store} {t : Tree}

/-- Counterparts read a source alike. -/
theorem Counterpart.parse_eq (h : e.Counterpart e') (name source : String) :
    e.parse name source = e'.parse name source := by
  rw [parse, parse, h.options, Template.parse_congr h.resolvers]

/-- So they have the same under a name where the same is in their stores or,
if there is nothing, they are provided with the same source. -/
theorem Counterpart.available_eq (h : e.Counterpart e') {name : String}
    (hstore : Keyed.find? store name = Keyed.find? store' name)
    (hprovider : Keyed.find? store name = none → e.provider name = e'.provider name) :
    e.available store name = e'.available store' name := by
  rw [available, available, ← hstore]
  cases hfind : Keyed.find? store name with
  | some t => rfl
  | none => simp only [hprovider hfind, h.parse_eq]

/-- The templates that are available as far as the lineage of a template goes
are the same. -/
def SameLineage (e e' : Engine) (store store' : Store) (t : Tree) : Prop :=
  ∀ name, e.Lineage store t name → e.available store name = e'.available store' name

/-- Then the lineage of what it extends is the same, -/
theorem SameLineage.beyond (h : e.SameLineage e' store store' t) {parent : String}
    {above : Template} (hparent : t.parent? = some parent)
    (hfound : e.available store parent = .ok (some above)) :
    e.SameLineage e' store store' above.tree :=
  fun name hname => h name (.beyond hparent hfound hname)

/-- and the other engine is led to no other names. -/
theorem SameLineage.of_lineage {name : String} (hname : e'.Lineage store' t name)
    (h : e.SameLineage e' store store' t) : e.Lineage store t name := by
  induction hname with
  | parent hparent => exact .parent hparent
  | beyond hparent hfound _ ih =>
    have hsame := (h _ (.parent hparent)).trans hfound
    exact .beyond hparent hsame (ih (h.beyond hparent hsame))

/-- Where the lineage is the same a chain of parents is followed to the same
result. -/
theorem SameLineage.inherited_eq (hlimit : e.options.maxDepth = e'.options.maxDepth) (budget : Nat)
    (chain : List String) (h : e.SameLineage e' store store' t)
    (hstore : e.available j.store = e.available store)
    (hstore' : e'.available j'.store = e'.available store') :
    ((e.inherited budget chain t).run j).1 = ((e'.inherited budget chain t).run j').1 := by
  induction budget generalizing chain t j j' with
  | zero =>
    rw [inherited_zero_run, inherited_zero_run, hlimit]
    split
    · rfl
    · split <;> rfl
  | succ budget ih =>
    rw [inherited_succ_run, inherited_succ_run]
    cases hparent : t.parent? with
    | none => rfl
    | some parent =>
      have hsame : e.available j.store parent = e'.available j'.store parent := by
        rw [hstore, hstore', h parent (.parent hparent)]
      simp only [← hsame]
      split
      · rfl
      · cases hfound : e.available j.store parent with
        | error failure => rfl
        | ok found =>
          cases found with
          | none => rfl
          | some above =>
            have hloaded :
                e.available ({ j with store := e.stocked j.store parent } : Journal).store =
                  e.available store := (available_stocked e j.store parent).trans hstore
            have hloaded' :
                e'.available ({ j' with store := e'.stocked j'.store parent } : Journal).store =
                  e'.available store' := (available_stocked e' j'.store parent).trans hstore'
            have hrest := ih (chain ++ [parent]) (h.beyond hparent (by rw [← hstore, hfound]))
              hloaded hloaded'
            exact congrArg (Except.map (Node.override t.nodes)) hrest

/-- **Where the lineage is the same** a template stands for the same nodes,
or fails to resolve in the same way. -/
theorem SameLineage.effective_eq {t : Template} (hlimit : e.options.maxDepth = e'.options.maxDepth)
    (h : e.SameLineage e' j.store j'.store t.tree) :
    ((e.effective t).run j).1 = ((e'.effective t).run j').1 := by
  have hinherited := h.inherited_eq hlimit e.options.maxDepth [t.tree.name] rfl rfl
  rw [effective_eq_inherited, effective_eq_inherited, ← hlimit]
  exact congrArg (Except.map Node.flatten) hinherited

end Engine

end PromptMarkup
