import PromptMarkup.Proofs.Engine.Load
import PromptMarkup.Proofs.Inherit.Origin
/-!
# Engine — the templates that a template involves

A template asks for others by name: for the one it extends and for those it
includes. What these names lead to, and the names there, and so on, are the
templates it involves (`Engine.Involved`). Up to its bodies, every node that
an involved template stands for was written in an involved template
(`Involved.written_effective`), and so was what it includes.
-/

namespace PromptMarkup

namespace Node

/-- The strategy that a node names. -/
def strategy? (node : Node) : Option Strategy :=
  node.info?.bind (·.strategy)

/-- The template that a node includes. -/
def included? : Node → Option String
  | .inclusion _ template _ => some template
  | _ => none

/-- The node with nothing in its bodies. -/
def bare (node : Node) : Node :=
  node.mapBodies fun _ => []

@[simp] theorem bare_mapBodies (f : List Node → List Node) (node : Node) :
    (node.mapBodies f).bare = node.bare :=
  mapBodies_mapBodies f _ node

@[simp] theorem strategy?_bare (node : Node) : node.bare.strategy? = node.strategy? := by
  cases node <;> rfl

@[simp] theorem included?_bare (node : Node) : node.bare.included? = node.included? := by
  cases node <;> rfl

end Node

/-- The names of the templates that a template asks for: of the one it
extends and of those it includes. -/
def Template.mentions (t : Template) : List String :=
  t.tree.parent?.toList ++ (Node.withinAll t.tree.nodes).filterMap Node.included?

namespace Engine

/-- Where these templates are available, a template involves itself and the
templates that involved ones ask for. -/
inductive Involved (e : Engine) (store : Store) (t : Template) : Template → Prop
  | self : Involved e store t t
  | mentioned {user found : Template} {name : String} (huser : Involved e store t user)
      (hname : name ∈ user.mentions) (hfound : e.available store name = .ok (some found)) :
      Involved e store t found

/-- Up to its bodies, the node was written in a template that is involved. -/
def Written (e : Engine) (store : Store) (t : Template) (node : Node) : Prop :=
  ∃ user, e.Involved store t user ∧
    ∃ origin ∈ Node.withinAll user.tree.nodes, origin.bare = node.bare

variable {e : Engine} {store : Store} {t user : Template} {node : Node} {j j' : Journal}

/-- What is loaded is what is available. -/
theorem available_of_load {name : String} {found : Option Template}
    (h : (e.load name).run j = (.ok found, j')) :
    e.available j.store name = .ok found ∧ e.available j'.store = e.available j.store := by
  rw [load_run] at h
  obtain ⟨hfound, rfl⟩ := Prod.mk.inj h
  exact ⟨hfound, available_stocked _ _ _⟩

/-- The way up from an involved template goes through involved templates. -/
theorem Involved.of_ascent {tree root : Tree} {steps : List (String × Tree)}
    (h : Tree.Ascent (fun name => (·.map Template.tree) <$> e.load name) tree j steps root j') :
    ∀ user, e.Involved store t user → user.tree = tree → e.available j.store = e.available store →
      ∀ step ∈ steps, ∃ above, e.Involved store t above ∧ above.tree = step.2 := by
  induction h with
  | here => exact fun _ _ _ _ _ hstep => absurd hstep List.not_mem_nil
  | up hparent hload _ ih =>
    rintro user huser rfl hstore step hstep
    obtain ⟨found, hrun, hfound⟩ := Run.map_eq_ok_iff.1 hload
    obtain ⟨above, rfl, rfl⟩ := Option.map_eq_some_iff.1 hfound
    obtain ⟨hfound, hkept⟩ := available_of_load hrun
    have habove : e.Involved store t above := by
      refine .mentioned huser (List.mem_append_left _ ?_) (by rw [← hstore, hfound])
      rw [hparent]
      exact List.mem_singleton_self _
    rcases List.mem_cons.1 hstep with rfl | hstep
    · exact ⟨above, habove, rfl⟩
    · exact ih above habove rfl (hkept.trans hstore) step hstep

/-- **What an involved template stands for was written in involved
templates.** -/
theorem Involved.written_effective (huser : e.Involved store t user)
    (hstore : e.available j.store = e.available store) {nodes : List Node}
    (h : (e.effective user).run j = (.ok nodes, j')) :
    Node.Throughout (e.Written store t) nodes := by
  obtain ⟨steps, root, hup, hkeeps⟩ := Tree.throughout_of_effective h
  refine hkeeps _ (fun node f h => ?_) (fun node hnode => ?_) fun step hstep node hnode => ?_
  · simpa only [Written, Node.bare_mapBodies] using h
  · exact ⟨user, huser, node, hnode, rfl⟩
  · obtain ⟨above, habove, htree⟩ := Involved.of_ascent hup user huser rfl hstore step hstep
    exact ⟨above, habove, node, htree ▸ hnode, rfl⟩

/-- What such a node includes is involved. -/
theorem Written.involved (h : e.Written store t node) {name : String} {found : Template}
    (hname : node.included? = some name) (hfound : e.available store name = .ok (some found)) :
    e.Involved store t found := by
  obtain ⟨user, huser, origin, horigin, hbare⟩ := h
  have hincludes : origin.included? = some name := by
    rw [← Node.included?_bare, hbare, Node.included?_bare, hname]
  refine .mentioned huser (List.mem_append_right _ ?_) hfound
  exact List.mem_filterMap.2 ⟨origin, horigin, hincludes⟩

/-- And its strategy was written there with it. -/
theorem Written.strategy?_ne (h : e.Written store t node) {s : Strategy}
    (hquiet : ∀ user, e.Involved store t user →
      Node.Throughout (·.strategy? ≠ some s) user.tree.nodes) : node.strategy? ≠ some s := by
  obtain ⟨user, huser, origin, horigin, hbare⟩ := h
  rw [← Node.strategy?_bare, ← hbare, Node.strategy?_bare]
  exact hquiet user huser origin horigin

end Engine

end PromptMarkup
