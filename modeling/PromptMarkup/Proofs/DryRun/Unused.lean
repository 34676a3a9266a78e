import PromptMarkup.Proofs.Inherit.Effective
import PromptMarkup.Proofs.Render.Available
import PromptMarkup.Proofs.Render.Reads
/-!
# DryRun — unused data

A dry run lists the leaves of the data that overlap no path which the nodes
look up. All paths are among those it compares with, whatever branches the
data selects (`references_of_surveyAll`), so data that differ only in a leaf
of this list cannot be told apart by nodes that leave their text neither to
resolvers nor to other templates: they render alike
(`Engine.execute_of_unused`).
-/

namespace PromptMarkup

namespace DryRun

variable {survey : Survey} {data : Value} {leaf : String}

/-- **A leaf is unused** where it overlaps no path that is looked up. -/
theorem mem_unused_iff :
    leaf ∈ (survey.report data).unused ↔
      leaf ∈ data.leaves ∧ ∀ path ∈ survey.references, overlap path leaf = false := by
  simp only [Survey.report, List.mem_filter, Bool.not_eq_true', List.any_eq_false,
    Bool.not_eq_true]

/-- Data that differ in an unused leaf agree on all paths that the nodes look
up. -/
theorem agree_of_unused {g : Ground} {inTurn : Bool} {nodes : List Node} {names : List String}
    {other : Value} (hsurvey : surveyAll g inTurn nodes = .ok survey)
    (hunused : Text.join "." names ∈ (survey.report data).unused)
    (hdiffer : Value.DifferAtLeaf names data other) :
    data.AgreeOn ((Node.withinAll nodes).flatMap Node.reads) other := by
  refine hdiffer.agree fun path hpath => ?_
  rw [← references_of_surveyAll hsurvey] at hpath
  exact (mem_unused_iff.1 hunused).2 path hpath

end DryRun

/-- **Unused data is not used.** If the nodes that a template stands for leave
their text neither to resolvers nor to other templates, then data that differ
only in a leaf which the dry run lists as unused render alike: to the same
text or the same failure, and with the same left behind. -/
theorem Engine.execute_of_unused {e : Engine} {t : Template} {d₁ d₂ : Value} {j j₀ j₁ : Journal}
    {nodes : List Node} {report : DryRun.Report} {names : List String}
    (hnodes : (e.effective t).run j = (.ok nodes, j₀))
    (hinternal : Node.Throughout (·.isInternal = true) nodes)
    (hrun : (e.dryRun t d₁).run j = (.ok report, j₁))
    (hunused : Text.join "." names ∈ report.unused) (hdiffer : Value.DifferAtLeaf names d₁ d₂) :
    ∀ k : Journal, e.available k.store = e.available j.store →
      (e.execute t d₁).run k = (e.execute t d₂).run k := by
  intro k hk
  obtain ⟨_, survey, heffective, hsurvey, rfl⟩ := of_dryRun hrun
  rw [hnodes] at heffective
  cases heffective
  have hagree := DryRun.agree_of_unused hsurvey hunused hdiffer
  -- the data take no part in the resolution of inheritance
  obtain ⟨k₁, hstart⟩ : ∃ k₁, (e.effective t).run k = (.ok nodes, k₁) :=
    (alike_effective e t).eq_ok hk hnodes
  have hrender : e.renderAt e.options.maxDepth (t.place false) { root := d₁ } nodes =
      e.renderAt e.options.maxDepth (t.place false) { root := d₂ } nodes := by
    rw [renderAt_eq]
    refine renderAll_congr hagree hinternal (fun node hnode path hpath => ?_) _ []
    exact List.mem_flatMap.2 ⟨node, hnode, hpath⟩
  simp only [execute, render, map_bind, Tree.Effect.run_bind, hstart, hrender]

namespace Sample

/-- A list of speakers under a title, which is left out if it is empty. -/
def programme : Template :=
  template {} "programme" (tagged "prompty.if eval=\"title\"" ++
    tagged "prompty.var name=\"title\" /" ++ ": " ++ tagged "/prompty.if" ++
    tagged "prompty.for item=\"speaker\" in=\"speakers\"" ++
    tagged "prompty.var name=\"speaker.name\" /" ++ ";" ++ tagged "/prompty.for")

/-- A host with a name, and one speaker. -/
def evening (host : Value) : Value :=
  .record [("host", .record [("name", host)]),
    ("speakers", .list [.ofFields [("name", .text "Ann")]])]

/-- The list names no host, so nothing changes with them. -/
theorem execute_of_unused_programme :
    (({} : Engine).execute programme (evening (.text "Bo"))).run {} =
      (({} : Engine).execute programme (evening (.list []))).run {} := by
  have hnodes : (match (({} : Engine).effective programme).run {} with
      | (.ok nodes, _) => decide (∀ node ∈ Node.withinAll nodes, node.isInternal = true)
      | (.error _, _) => false) = true := by decide +kernel
  have hreport : (match (({} : Engine).dryRun programme (evening (.text "Bo"))).run {} with
      | (.ok report, _) => decide (Text.join "." ["host", "name"] ∈ report.unused)
      | (.error _, _) => false) = true := by decide +kernel
  have hdiffer : Value.DifferAtLeaf ["host", "name"] (evening (.text "Bo")) (evening (.list [])) :=
    @Value.DifferAtLeaf.deeper _ _ [] _ _ _ (@Value.DifferAtLeaf.leaf _ [] [] _ _ rfl)
  split at hnodes
  · next nodes j₀ heffective =>
    have hinternal : ∀ node ∈ Node.withinAll nodes, node.isInternal = true :=
      of_decide_eq_true hnodes
    split at hreport
    · next report j₁ hdry =>
      exact Engine.execute_of_unused heffective hinternal hdry (of_decide_eq_true hreport) hdiffer
        {} rfl
    · cases hreport
  · cases hnodes

end Sample

end PromptMarkup
