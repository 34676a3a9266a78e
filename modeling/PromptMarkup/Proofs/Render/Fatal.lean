import PromptMarkup.Proofs.Expr.Calls
import PromptMarkup.Proofs.Inherit.Effective
import PromptMarkup.Proofs.Render.Reached
/-!
# Render — where fatal failures come from

A failure that no strategy absorbs can only come from a template: from the
inheritance of the one that is rendered, or from loading one that the render
comes to include (`TemplateFails`). Whatever resolvers and functions fail
with, the node turns it into a failure of its own (`HostFails`), so the two
cannot be confused although they have the same kinds.
-/

namespace PromptMarkup

namespace Failure

/-- To be placed does not make a failure fatal. -/
@[simp] theorem isFatal_orAt (p : Position) (failure : Failure) :
    (failure.orAt p).isFatal = failure.isFatal := by
  cases failure with
  | eval fault position => cases position <;> rfl
  | render fault cause position => cases position <;> rfl
  | _ => rfl

end Failure

namespace Engine

/-- In the render of a template against data, a template fails: it cannot be
loaded, or its inheritance cannot be resolved. A name that is not known is no
such failure. -/
inductive TemplateFails (e : Engine) (t : Template) (data : Value) (j₀ : Journal) :
    Failure → Journal → Prop
  /-- The inheritance of the template itself cannot be resolved. -/
  | own {failure : Failure} {j : Journal}
      (hresolve : (e.effective t).run j₀ = (.error failure, j)) :
      TemplateFails e t data j₀ failure j
  /-- A template that is included cannot be loaded. -/
  | load {nodes : List Node} {j₁ j : Journal} {s : Stand} {info : NodeInfo} {name : String}
      {path : Option String} {depth : Nat} {failure : Failure}
      (hnodes : (e.effective t).run j₀ = (.ok nodes, j₁))
      (hcomes : e.Comes (e.start t data j₁) nodes s (.inclusion info name path))
      (hdepth : s.depth = depth + 1) (hload : (e.load name).run s.journal = (.error failure, j)) :
      TemplateFails e t data j₀ failure j
  /-- Its inheritance cannot be resolved. -/
  | inheritance {nodes : List Node} {j₁ j₂ j : Journal} {s : Stand} {info : NodeInfo}
      {name : String} {path : Option String} {depth : Nat} {found : Template}
      {failure : Failure} (hnodes : (e.effective t).run j₀ = (.ok nodes, j₁))
      (hcomes : e.Comes (e.start t data j₁) nodes s (.inclusion info name path))
      (hdepth : s.depth = depth + 1) (hload : (e.load name).run s.journal = (.ok (some found), j₂))
      (hresolve : (e.effective found).run j₂ = (.error failure, j)) :
      TemplateFails e t data j₀ failure j

/-- What the host program brings along fails at a node: the resolver of its
tag, or a function that the condition of its choice calls. The info and the
name are those under which the failure is told. -/
inductive HostFails (e : Engine) (s : Stand) : Node → NodeInfo → String → Failure → Prop
  | tag {info : NodeInfo} {name : String} {attrs : Attributes} {r : Resolver} {failure : Failure}
      (hfind : e.resolvers.find? name = some r)
      (hfail : r.resolve s.ctx ⟨s.place.template, s.place.config, e.functions, e.environment⟩
        attrs = .error failure) :
      HostFails e s (.tag info name attrs) info name failure
  | blockTag {info : NodeInfo} {name : String} {attrs : Attributes} {body : List Node}
      {r : Resolver} {failure : Failure} (hfind : e.resolvers.find? name = some r)
      (hfail : r.resolve s.ctx ⟨s.place.template, s.place.config, e.functions, e.environment⟩
        attrs = .error failure) :
      HostFails e s (.blockTag info name attrs body) info name failure
  /-- The conditions before the one that calls the function do not hold. -/
  | condition {info : NodeInfo} {before after : List Branch} {position : Position}
      {source : String} {condition : Expr} {body : List Node} {otherwise : Option (List Node)}
      {failure : Failure}
      (hbefore : ∀ branch ∈ before, branch.condition.holds s.ctx e.functions = .ok false)
      (hcall : condition.CallFails s.ctx e.functions failure) :
      HostFails e s (.choice info (before ++ .mk position source condition body :: after) otherwise)
        info Tag.ifTag failure

variable {e : Engine} {s : Stand} {node : Node} {failure : Failure} {j : Journal}

/-! ## Failures of templates -/

/-- A node ends the render with a fatal failure only where it includes a
template that fails. -/
theorem Raises.of_isFatal (h : e.Raises s node failure j) (hfatal : failure.isFatal = true) :
    ∃ info name path depth, node = .inclusion info name path ∧ s.depth = depth + 1 ∧
      ((e.load name).run s.journal = (.error failure, j) ∨
        ∃ found j₂, (e.load name).run s.journal = (.ok (some found), j₂) ∧
          (e.effective found).run j₂ = (.error failure, j)) := by
  cases h with
  | strategy hfails _ =>
    rw [Failure.isFatal_orAt, hfails.isFatal] at hfatal
    cases hfatal
  | refused hcourse =>
    obtain ⟨_, _, _, _, _, _, rfl⟩ := course_eq_refused_iff.1 hcourse
    cases hfatal
  | load hcourse hdepth hload =>
    exact ⟨_, _, _, _, fits_of_course hcourse, hdepth, .inl hload⟩
  | inheritance hcourse hdepth hload hresolve =>
    exact ⟨_, _, _, _, fits_of_course hcourse, hdepth, .inr ⟨_, _, hload, hresolve⟩⟩

/-- What a template fails with is fatal, -/
theorem TemplateFails.isFatal {t : Template} {data : Value} {j₀ : Journal}
    (h : e.TemplateFails t data j₀ failure j) : failure.isFatal = true := by
  cases h with
  | own hresolve => exact isFatal_of_effective hresolve
  | load _ _ _ hload => exact isFatal_of_load hload
  | inheritance _ _ _ _ hresolve => exact isFatal_of_effective hresolve

/-- and it ends the render. -/
theorem TemplateFails.execute {t : Template} {data : Value} {j₀ : Journal}
    (h : e.TemplateFails t data j₀ failure j) :
    (e.execute t data).run j₀ = (.error failure, j) := by
  refine execute_error_iff.2 ?_
  cases h with
  | own hresolve => exact .inl hresolve
  | load hnodes hcomes hdepth hload =>
    exact .inr ⟨_, _, _, _, hnodes, hcomes, .load rfl hdepth hload⟩
  | inheritance hnodes hcomes hdepth hload hresolve =>
    exact .inr ⟨_, _, _, _, hnodes, hcomes, .inheritance rfl hdepth hload hresolve⟩

/-- Nothing else ends it with a fatal failure. -/
theorem templateFails_of_execute {t : Template} {data : Value} {j₀ : Journal}
    (h : (e.execute t data).run j₀ = (.error failure, j)) (hfatal : failure.isFatal = true) :
    e.TemplateFails t data j₀ failure j := by
  obtain hresolve | ⟨nodes, j₁, s, node, hnodes, hcomes, hraises⟩ := execute_error_iff.1 h
  · exact .own hresolve
  · obtain ⟨info, name, path, depth, rfl, hdepth, hload | ⟨found, j₂, hload, hresolve⟩⟩ :=
      hraises.of_isFatal hfatal
    · exact .load hnodes hcomes hdepth hload
    · exact .inheritance hnodes hcomes hdepth hload hresolve

/-! ## Failures of the host program -/

/-- A foreign failure of a node is told as the node's own. -/
theorem nodeFailure_of_isForeign (h : failure.isForeign = true) (tag : String) (info : NodeInfo) :
    nodeFailure tag info failure =
      .render (.tagFailed tag failure.message) (some failure.text) (some info.position) := by
  cases failure with
  | eval => cases h
  | render => cases h
  | _ => rfl

/-- A choice fails with the first condition that does not turn out false, if
that one fails. -/
theorem pick_eq_error {ctx : Context} {fs : Functions} {otherwise : Option (List Node)}
    {before after : List Branch} {position : Position} {source : String} {condition : Expr}
    {body : List Node} (hbefore : ∀ branch ∈ before, branch.condition.holds ctx fs = .ok false)
    (hfail : condition.holds ctx fs = .error failure) :
    pick ctx fs otherwise (before ++ .mk position source condition body :: after) =
      .error failure := by
  induction before with
  | nil => rw [List.nil_append, pick, hfail]
  | cons first rest ih =>
    obtain ⟨_, _, own, _⟩ := first
    have hown : own.holds ctx fs = .ok false := hbefore _ List.mem_cons_self
    rw [List.cons_append, pick, hown]
    exact ih fun branch hbranch => hbefore branch (List.mem_cons_of_mem _ hbranch)

/-- **What the host program fails with is a failure of the node**, told in
the node's own words if it is foreign. -/
theorem HostFails.fails {info : NodeInfo} {tag : String}
    (h : e.HostFails s node info tag failure) :
    e.Fails s node info tag (nodeFailure tag info failure) s.journal := by
  cases h with
  | tag hfind hfail =>
    refine .own ?_
    rw [course, resolve, hfind]
    simp only [hfail]
  | blockTag hfind hfail =>
    refine .own ?_
    rw [course, resolve, hfind]
    simp only [hfail]
  | condition hbefore hcall =>
    have hfail := congrArg (Except.map Operand.isTruthy) hcall.eval_eq
    refine .own ?_
    rw [course, pick_eq_error hbefore hfail]

/-- **Fatal failures come from templates alone.** A render ends with a fatal
failure exactly where a template fails in it, with that failure and
whatever the strategies; and a failure of a resolver, or of a function in a
condition, of a kind that nodes do not raise is told as the node's own and
settled by the node's strategy. -/
theorem execute_isFatal_iff (e : Engine) (t : Template) (data : Value) (j : Journal) :
    (∀ failure j', ((e.execute t data).run j = (.error failure, j') ∧ failure.isFatal = true) ↔
      e.TemplateFails t data j failure j') ∧
    (∀ s node info tag failure, e.HostFails s node info tag failure → failure.isForeign = true →
      (e.nodeFrom s node).run s.journal =
        let told :=
          .render (.tagFailed tag failure.message) (some failure.text) (some info.position)
        ((e.options.strategyFor info.strategy).settle info told,
          (e.options.strategyFor info.strategy).note s.place info tag told s.journal)) := by
  refine ⟨fun failure j' => ⟨fun h => templateFails_of_execute h.1 h.2,
    fun h => ⟨h.execute, h.isFatal⟩⟩, fun s node info tag failure hhost hforeign => ?_⟩
  rw [hhost.fails.run, nodeFailure_of_isForeign hforeign, recover_run rfl]
  rfl

end Engine

namespace Sample

/-- A resolver that fails as if it were a template that cannot be read. -/
def pretender : Resolver where
  tag := "host"
  resolve _ _ _ := .error (.parse .unterminatedTag none)

/-- An engine that removes what fails, with that resolver and with a
template that really cannot be read. -/
def exposed : Engine where
  options := { strategy := some .remove }
  resolvers := Keyed.insert "host" pretender []
  provider name := if name = "broken" then some (tagged "") else none

/-- A template with the resolver's tag, which then includes the other. -/
def visit : Template :=
  template exposed "visit" (tagged "host /" ++ tagged "prompty.include template=\"broken\" /")

theorem execute_isFatal_iff_visit :
    (∃ failure j', exposed.TemplateFails visit .null {} failure j') ∧
      ∀ info : NodeInfo, info.strategy = none →
        (exposed.nodeFrom (exposed.start visit .null {}) (.tag info "host" .empty)).run {} =
          (.ok .nothing, {}) := by
  obtain ⟨hfatal, hhost⟩ := Engine.execute_isFatal_iff exposed visit .null {}
  constructor
  · have hrun : (match (exposed.execute visit .null).run {} with
        | (.error failure, _) => failure.isFatal
        | (.ok _, _) => false) = true := by decide +kernel
    split at hrun
    · next failure j' herror => exact ⟨failure, j', (hfatal failure j').1 ⟨herror, hrun⟩⟩
    · cases hrun
  · intro info hinfo
    have hfind : exposed.resolvers.find? "host" = some pretender := rfl
    have hfails : exposed.HostFails (exposed.start visit .null {}) (.tag info "host" .empty) info
        "host" (.parse .unterminatedTag none) := .tag hfind rfl
    have hremove : exposed.options.strategyFor info.strategy = .remove := by
      rw [hinfo]
      rfl
    have hrun := hhost _ _ _ _ _ hfails rfl
    rw [hremove] at hrun
    exact hrun

end Sample

end PromptMarkup
