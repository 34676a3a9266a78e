import PromptMarkup.Proofs.Inherit.Effective
import PromptMarkup.Proofs.Render.Reached
import PromptMarkup.Proofs.Tree.Spans
/-!
# Render — the source that is kept of a node

A node whose strategy keeps the raw source is replaced by it when it fails. What
it is replaced by is the text that its span covers in the template's source:
the tag as it was written, and for a block tag everything up to its closing tag
(`Template.placed_parse`).
-/

namespace PromptMarkup

open Node

/-- A node that fails is replaced by the source that it keeps, if its strategy
says so. -/
theorem Engine.Fails.run_keepRaw {e : Engine} {s : Stand} {node : Node} {info : NodeInfo}
    {tag : String} {failure : Failure} {j : Journal} (h : e.Fails s node info tag failure j)
    (hstrategy : e.options.strategyFor info.strategy = .keepRaw) :
    (e.nodeFrom s node).run s.journal = (.ok (.ofText info.raw), j) := by
  rw [h.run, recover_run h.isFatal, hstrategy]
  rfl

/-- **Nodes stand in their source.** Every span in an accepted template lies
between characters of the source, around the spans of the nodes inside, and
those of nodes in one place follow one another. What a node keeps of the source
is what its span covers, and for a tag this begins with the opening delimiter
and ends with the closing one. So this is what a node is replaced by that fails
with that info and keeps its source. -/
theorem Template.placed_parse {d : Delimiters} {rs : Resolvers} {name source : String}
    {t : Template} (h : Template.parse d rs name source = .ok t) :
    ∃ tokens, Token.read d source = .ok tokens ∧
      Throughout
        (Node.Placed d source.toList (tokens.filter (!·.piece.closesBranch))) t.tree.nodes ∧
      t.tree.nodes.Pairwise (·.span.stop ≤ ·.span.start) ∧
      ∀ node ∈ withinAll t.tree.nodes, ∀ info ∈ node.info?,
        ∀ (e : Engine) s failed tag failure j, e.Fails s failed info tag failure j →
          e.options.strategyFor info.strategy = .keepRaw →
            (e.nodeFrom s failed).run s.journal =
              (.ok (.ofText (node.span.slice source.toList)), j) := by
  obtain ⟨tokens, hread, hplaced, horder⟩ := Template.placed_of_parse h
  refine ⟨tokens, hread, hplaced, horder, ?_⟩
  intro node hnode info hinfo e s failed tag failure j hfails hstrategy
  rw [hfails.run_keepRaw hstrategy, (hplaced node hnode).raw info hinfo]

namespace Sample

/-- A list that is kept as it was written where it cannot be gone through. -/
def roster : String :=
  "é" ++ tagged "prompty.for item=\"i\" in=\"xs\" limit=\"9\" onerror=\"keepraw\"" ++ "a" ++
    tagged " prompty.var name=\"i\"/" ++ tagged "/prompty.for" ++ "!"

/-- Its spans, and its text where the list is no list. -/
theorem placed_parse_roster :
    ∃ t, Template.parse .standard .builtin "roster" roster = .ok t ∧
      (∃ tokens, Token.read .standard roster = .ok tokens ∧
        Throughout (Node.Placed .standard roster.toList
          (tokens.filter (!·.piece.closesBranch))) t.tree.nodes ∧
        t.tree.nodes.Pairwise (·.span.stop ≤ ·.span.start) ∧
        ∀ node ∈ withinAll t.tree.nodes, ∀ info ∈ node.info?,
          ∀ (e : Engine) s failed tag failure j, e.Fails s failed info tag failure j →
            e.options.strategyFor info.strategy = .keepRaw →
              (e.nodeFrom s failed).run s.journal =
                (.ok (.ofText (node.span.slice roster.toList)), j)) ∧
      (withinAll t.tree.nodes).map Node.span =
        [⟨0, 2⟩, ⟨2, 105⟩, ⟨62, 63⟩, ⟨63, 89⟩, ⟨105, 106⟩] ∧
      ∃ j, (({} : Engine).execute t (.ofFields [("xs", .text "b")])).run {} = (.ok roster, j) := by
  have hread : ((Template.parse .standard .builtin "roster" roster).toOption.any fun t =>
      decide ((withinAll t.tree.nodes).map Node.span =
        [⟨0, 2⟩, ⟨2, 105⟩, ⟨62, 63⟩, ⟨63, 89⟩, ⟨105, 106⟩]) &&
      match (({} : Engine).execute t (.ofFields [("xs", .text "b")])).run {} with
      | (.ok shown, _) => decide (shown = roster)
      | (.error _, _) => false) = true := by
    decide +kernel
  cases hparse : Template.parse .standard .builtin "roster" roster with
  | error failure =>
    rw [hparse] at hread
    cases hread
  | ok t =>
    rw [hparse] at hread
    obtain ⟨hspans, hrun⟩ := Bool.and_eq_true_iff.1 hread
    refine ⟨t, rfl, Template.placed_parse hparse, of_decide_eq_true hspans, ?_⟩
    split at hrun
    · next shown j hok =>
      obtain rfl := of_decide_eq_true hrun
      exact ⟨j, hok⟩
    · cases hrun

end Sample

end PromptMarkup
