import PromptMarkup.Proofs.Render.Appended
import PromptMarkup.Proofs.Token.Written
/-!
# Render — any text can be written literally

Where every delimiter in a text is escaped the source is a single text
(`Token.read_escaped`), and rendering gives it as it was
(`Engine.executeSource_escaped`). Any delimiters will do that a tag can be told
from text with, as long as the opening one has no backslash of its own.
-/

namespace PromptMarkup

open Text

/-- Delimiters that are accepted are not empty. -/
theorem Delimiters.opening_ne_nil_of_check {d d' : Delimiters} (h : d.check = .ok d') :
    d.opening.toList ≠ [] := by
  intro hnil
  rw [check, fault?, String.toList_eq_nil_iff.1 hnil] at h
  simp at h

/-- **A text with its delimiters escaped** is read as the text. -/
theorem Token.read_escaped {d : Delimiters} (hopening : d.opening.toList ≠ [])
    (hslash : '\\' ∉ d.opening.toList) (t : List Char) :
    read d (String.ofList (escaped d.opening.toList t)) =
      .ok (textToken? t .origin (bytes (escaped d.opening.toList t))) := by
  have hrest : (Cursor.ofSource (String.ofList (escaped d.opening.toList t))).rest =
      escaped d.opening.toList t ++ [] := by
    rw [List.append_nil]
    exact String.toList_ofList
  rw [read, readFrom_escaped hopening hslash hrest (Delimiters.unjoined_nil hopening t),
    readFrom_end hopening (breakOn_nil hopening)]
  simp [Cursor.past, Cursor.ofSource, Position.origin]

/-- It is a template that holds nothing but the text. -/
theorem Template.parse_escaped {d : Delimiters} (hopening : d.opening.toList ≠ [])
    (hslash : '\\' ∉ d.opening.toList) (resolvers : Resolvers) (name s : String) :
    ∃ t, Template.parse d resolvers name
        (String.ofList (escaped d.opening.toList s.toList)) = .ok t ∧
      (t.tree.nodes = [] ∧ s = "" ∨ ∃ span, t.tree.nodes = [.text span s]) := by
  have hread := Token.read_escaped hopening hslash s.toList
  by_cases hempty : s = ""
  · subst hempty
    exact ⟨_, parse_eq_ok_iff.2 ⟨_, _, hread, .nil, rfl, rfl⟩, .inl ⟨rfl, rfl⟩⟩
  · have hne : s.toList ≠ [] := mt String.toList_eq_nil_iff.1 hempty
    rw [Token.textToken?_of_ne_nil hne, String.ofList_toList] at hread
    exact ⟨_, parse_eq_ok_iff.2 ⟨_, _, hread, .cons .text .nil, rfl, rfl⟩, .inr ⟨_, rfl⟩⟩

namespace Engine

/-- **Any text can be written literally.** Let the delimiters of an engine be
accepted and the opening one have no backslash. With a backslash before each
occurrence of the opening delimiter, taken from the left and without overlap, a
text is a source that renders to the text, whatever the data are, and leaves
nothing behind. -/
theorem executeSource_escaped {e : Engine} {d : Delimiters}
    (haccepted : e.options.delimiters.check = .ok d)
    (hslash : '\\' ∉ e.options.delimiters.opening.toList) (s : String) (data : Value)
    (j : Journal) :
    (e.executeSource (String.ofList (escaped e.options.delimiters.opening.toList s.toList))
      data).run j = (.ok s, j) := by
  obtain ⟨t, hparse, hnodes⟩ := Template.parse_escaped
    (Delimiters.opening_ne_nil_of_check haccepted) hslash e.resolvers "inline" s
  have hparent : t.tree.parent? = none := by
    obtain ⟨hnil, -⟩ | ⟨span, htext⟩ := hnodes
    · rw [Tree.parent?, hnil]
      rfl
    · simp [Tree.parent?, htext, Tree.parentOf?]
  have heffective : (e.effective t).run j = (.ok (Node.flatten t.tree.nodes), j) := by
    rw [effective, Tree.effective_run, Tree.inherited_run, hparent]
  have hrender : ∀ enter place ctx, (e.renderAll enter place ctx
      (Node.flatten t.tree.nodes)).run j = (.ok (.ofText s), j) := by
    intro enter place ctx
    obtain ⟨hnil, rfl⟩ | ⟨span, htext⟩ := hnodes
    · rw [hnil]
      rfl
    · have hflat : Node.flatten [.text span s] = [.text span s] := rfl
      rw [htext, hflat, renderAll, renderAll, renderNode]
      simp only [pure_bind, Rendered.append_nothing]
      rfl
  rw [executeSource, parse, hparse, Tree.Effect.run_bind, Run.run_liftM]
  simp only [execute, Run.run_map, render, Tree.Effect.run_bind, heffective, renderAt_eq, hrender]
  rfl

end Engine

namespace Sample

/-- An engine whose opening delimiter overlaps itself. -/
def stars : Engine where
  options := { delimiters := ⟨"**", "*>"⟩ }

/-- **Stars and backslashes** are what they are. -/
theorem executeSource_escaped_stars :
    String.ofList (Text.escaped "**".toList "é***\\**\\ *>**".toList) =
        "é\\***\\\\**\\ *>\\**" ∧
      (stars.executeSource "é\\***\\\\**\\ *>\\**" .null).run {} =
        (.ok "é***\\**\\ *>**", {}) := by
  have hwritten : String.ofList (Text.escaped "**".toList "é***\\**\\ *>**".toList) =
      "é\\***\\\\**\\ *>\\**" := by
    decide +kernel
  refine ⟨hwritten, ?_⟩
  rw [← hwritten]
  exact Engine.executeSource_escaped (d := ⟨"**", "*>"⟩) rfl (by decide) _ _ _

end Sample

end PromptMarkup
