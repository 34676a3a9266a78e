import PromptMarkup.Proofs.Engine.Involved
import PromptMarkup.Proofs.Render.Available
import PromptMarkup.Proofs.Render.Fatal
import PromptMarkup.Proofs.Tree.Accepted
/-!
# Render — which failures strategies absorb

Every node that a render comes to was written in a template that the
rendered one involves (`Comes.written`). So where the engine's strategy does
not raise, and none that is written there does, no node ends the render by
a failure of its own that is left to its strategy. What remains is the one
failure that is not: a turn inside another. The parser refuses it in a single
template, but inheritance and inclusions may bring it about, and then it
ends the render under every strategy (`absorbs_iff`).
-/

namespace PromptMarkup

namespace Engine

variable {e : Engine} {store : Store} {t : Template} {s s' : Stand} {node : Node}
  {failure : Failure} {j : Journal}

/-! ## What a render comes to -/

/-- What a node opens was written in an involved template if the node was,
and the same templates are available there. -/
theorem Opens.written {body : List Node} (h : e.Opens s node s' body)
    (hstore : e.available s.journal.store = e.available store) (hnode : e.Written store t node)
    (hbodies : ∀ own ∈ node.bodies, Node.Throughout (e.Written store t) own) :
    e.available s'.journal.store = e.available store ∧
      Node.Throughout (e.Written store t) body := by
  cases h with
  | @part _ _ _ ctx _ _ _ _ hcourse hbefore =>
    exact ⟨((alike_renderParts e _ _ _).available_eq hbefore).trans hstore,
      hbodies body ((fits_of_course hcourse).2 (ctx, body) (by simp))⟩
  | template hcourse hdepth hload hnodes hctx =>
    obtain ⟨hfound, hkept⟩ := available_of_load hload
    have hstore₁ := hkept.trans hstore
    refine ⟨((alike_effective e _).available_eq hnodes).trans hstore₁, ?_⟩
    rw [hstore] at hfound
    obtain rfl := fits_of_course hcourse
    exact (hnode.involved rfl hfound).written_effective hstore₁ hnodes

/-- **A render comes to nothing but what was written in the templates that
are involved.** -/
theorem Comes.written {nodes : List Node} (h : e.Comes s nodes s' node)
    (hstore : e.available s.journal.store = e.available store)
    (hnodes : Node.Throughout (e.Written store t) nodes) : e.Written store t node := by
  induction h with
  | here => exact (Node.throughout_cons.1 hnodes).1.1
  | later hfirst _ ih =>
    have hkept := (alike_renderNode e _ _ _ _).available_eq hfirst
    exact ih (hkept.trans hstore) (Node.throughout_cons.1 hnodes).2
  | inside hopens _ ih =>
    obtain ⟨hfirst, _⟩ := Node.throughout_cons.1 hnodes
    obtain ⟨hstore', hbody⟩ := hopens.written hstore hfirst.1 hfirst.2
    exact ih hstore' hbody

/-! ## What ends it -/

/-- A failure is left to the strategy of the node that fails. -/
theorem Fails.info?_eq {info : NodeInfo} {tag : String} (h : e.Fails s node info tag failure j) :
    node.info? = some info := by
  cases h with
  | own hcourse => exact (fits_of_course hcourse).1
  | tooDeep hcourse | unknown hcourse | noData hcourse =>
    obtain rfl := fits_of_course hcourse
    rfl

/-- Where neither the engine's strategy nor the node's raises, none does. -/
theorem strategyFor_ne_raise {o : Options} {own : Strategy} (hstrategy : o.strategy = some own)
    (hown : own ≠ .raise) {named : Option Strategy} (hnamed : named ≠ some .raise) :
    o.strategyFor named ≠ .raise := by
  rw [Options.strategyFor, hstrategy]
  cases named with
  | none => exact hown
  | some s => exact fun h => hnamed (congrArg some h)

/-- **Where no strategy raises, a node ends the render only as a turn inside
another**, or with a fatal failure. -/
theorem Raises.inTurn {own : Strategy} (h : e.Raises s node failure j)
    (hstrategy : e.options.strategy = some own) (hown : own ≠ .raise)
    (hquiet : node.strategy? ≠ some .raise) (hfatal : failure.isFatal = false) :
    ∃ span position role body, node = .message span position role body ∧ s.place.inTurn = true := by
  cases h with
  | strategy hfails hraise =>
    rw [Node.strategy?, hfails.info?_eq, Option.bind_some] at hquiet
    exact absurd hraise (strategyFor_ne_raise hstrategy hown hquiet)
  | refused hcourse =>
    obtain ⟨span, position, role, body, hnode, hturn, _⟩ := course_eq_refused_iff.1 hcourse
    exact ⟨span, position, role, body, hnode, hturn⟩
  | load hcourse hdepth hload =>
    rw [isFatal_of_load hload] at hfatal
    cases hfatal
  | inheritance hcourse hdepth hload hresolve =>
    rw [isFatal_of_effective hresolve] at hfatal
    cases hfatal

/-- The render of a template comes to a turn inside another. -/
def NestsTurns (e : Engine) (t : Template) (data : Value) (j : Journal) : Prop :=
  ∃ nodes j₁ s span position role body, (e.effective t).run j = (.ok nodes, j₁) ∧
    e.Comes (e.start t data j₁) nodes s (.message span position role body) ∧
    s.place.inTurn = true

/-- **Failures of single nodes are absorbed unless turns are nested.** Under
a strategy that does not raise, and where no node of an involved template
names one that does, every failure of a render is fatal exactly if the render
does not come to a turn inside another. -/
theorem absorbs_iff {own : Strategy} {data : Value} (hstrategy : e.options.strategy = some own)
    (hown : own ≠ .raise)
    (hquiet : ∀ user, e.Involved j.store t user →
      Node.Throughout (·.strategy? ≠ some .raise) user.tree.nodes) :
    (∀ failure j', (e.execute t data).run j = (.error failure, j') → failure.isFatal = true) ↔
      ¬ e.NestsTurns t data j := by
  constructor
  · rintro habsorbs ⟨nodes, j₁, s, span, position, role, body, hnodes, hcomes, hturn⟩
    have hrefused : e.Raises s (.message span position role body)
        (.render .nestedMessage none (some position)) s.journal :=
      .refused (course_eq_refused_iff.2 ⟨span, position, role, body, rfl, hturn, rfl⟩)
    have hfatal := habsorbs _ _ (execute_error_iff.2 (.inr ⟨_, _, _, _, hnodes, hcomes, hrefused⟩))
    cases hfatal
  · intro hnests failure j' herror
    obtain hresolve | ⟨nodes, j₁, s, node, hnodes, hcomes, hraises⟩ := execute_error_iff.1 herror
    · exact isFatal_of_effective hresolve
    · by_contra hfatal
      -- the node was written in an involved template, where no strategy raises
      have hwritten : e.Written j.store t node := by
        refine hcomes.written ?_ (Involved.self.written_effective rfl hnodes)
        exact (alike_effective e t).available_eq hnodes
      obtain ⟨span, position, role, body, rfl, hturn⟩ :=
        hraises.inTurn hstrategy hown (hwritten.strategy?_ne hquiet) (Bool.eq_false_iff.2 hfatal)
      exact hnests ⟨nodes, j₁, s, span, position, role, body, hnodes, hcomes, hturn⟩

end Engine

namespace Sample

/-- An engine that removes what fails. -/
def lenient : Engine where
  options := { strategy := some .remove }

/-- A turn that includes a template. -/
def dialogue : Template :=
  template lenient "dialogue" (tagged "prompty.message role=\"user\"" ++ "a" ++
    tagged "prompty.include template=\"part\" /" ++ tagged "/prompty.message")

/-- A part of it whose variable is not there. -/
def gap : Template :=
  template lenient "part" (tagged "prompty.var name=\"x\" /")

/-- And a part that is a turn of its own. -/
def aside : Template :=
  template lenient "part" (tagged "prompty.message role=\"system\"" ++ "b" ++
    tagged "/prompty.message")

/-- What an engine has left behind that knows the part. -/
def knowing (part : Template) : Journal where
  store := Keyed.insert "part" part []

/-- The turn involves itself and the part. -/
theorem involved_dialogue {part user : Template} (hpart : part.mentions = [])
    (h : lenient.Involved (knowing part).store dialogue user) : user = dialogue ∨ user = part := by
  induction h with
  | self => exact .inl rfl
  | mentioned _ hname hfound ih =>
    rcases ih with rfl | rfl
    · have hmentions : dialogue.mentions = ["part"] := by decide +kernel
      rw [hmentions, List.mem_singleton] at hname
      subst hname
      have hpart : lenient.available (knowing part).store "part" = .ok (some part) := rfl
      rw [hpart] at hfound
      exact .inr (Option.some.inj (Except.ok.inj hfound)).symm
    · rw [hpart] at hname
      exact absurd hname List.not_mem_nil

/-- So no strategy raises if none does in the part. -/
theorem quiet_dialogue {part : Template} (hpart : part.mentions = [])
    (hquiet : Node.Throughout (·.strategy? ≠ some .raise) part.tree.nodes) :
    ∀ user, lenient.Involved (knowing part).store dialogue user →
      Node.Throughout (·.strategy? ≠ some .raise) user.tree.nodes := by
  intro user huser
  rcases involved_dialogue hpart huser with rfl | rfl
  · exact (by decide +kernel :
      ∀ node ∈ Node.withinAll dialogue.tree.nodes, node.strategy? ≠ some .raise)
  · exact hquiet

theorem absorbs_iff_gap : ¬ lenient.NestsTurns dialogue .null (knowing gap) := by
  have hrun : (match (lenient.execute dialogue .null).run (knowing gap) with
      | (.ok text, _) => decide (text = "a")
      | (.error _, _) => false) = true := by decide +kernel
  refine (Engine.absorbs_iff rfl (by decide) (quiet_dialogue (by decide +kernel) ?_)).1 ?_
  · exact (by decide +kernel :
      ∀ node ∈ Node.withinAll gap.tree.nodes, node.strategy? ≠ some .raise)
  · intro failure j' herror
    rw [herror] at hrun
    cases hrun

/-- **A turn in an included template escapes.** -/
theorem turn_escapes :
    lenient.options.strategy = some .remove ∧
      (∃ source, lenient.parse "dialogue" source = .ok dialogue) ∧
      (∃ source, lenient.parse "part" source = .ok aside) ∧
      (∀ user, lenient.Involved (knowing aside).store dialogue user →
        Node.Throughout (·.strategy? ≠ some .raise) user.tree.nodes) ∧
      ∃ j', (lenient.execute dialogue .null).run (knowing aside) =
        (.error (.render .nestedMessage none (some .origin)), j') := by
  have hquiet : ∀ node ∈ Node.withinAll aside.tree.nodes, node.strategy? ≠ some .raise := by
    decide +kernel
  have hrun : (match (lenient.execute dialogue .null).run (knowing aside) with
      | (.error failure, _) => decide (failure = .render .nestedMessage none (some .origin))
      | (.ok _, _) => false) = true := by decide +kernel
  refine ⟨rfl, ⟨_, parse_template (by decide +kernel)⟩, ⟨_, parse_template (by decide +kernel)⟩,
    quiet_dialogue (by decide +kernel) hquiet, ?_⟩
  split at hrun
  · next failure j' herror => exact ⟨j', of_decide_eq_true hrun ▸ herror⟩
  · cases hrun

end Sample

end PromptMarkup
