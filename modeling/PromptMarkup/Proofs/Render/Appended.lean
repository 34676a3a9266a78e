import PromptMarkup.Proofs.Inherit.Effective
import PromptMarkup.Proofs.Render.Relocated
import PromptMarkup.Proofs.Tree.Appended
/-!
# Render — two sources put together

Rendering passes nothing on from one node to the next but what the store has,
and that changes nothing. So nodes one after another render to their texts one
after another (`yield?_append`), wherever they stand (`yield?_relocateAll`).
Together with what is known of their trees this makes rendering compositional
on sources (`Engine.executeSource_append`).
-/

namespace PromptMarkup

/-- A run that yields something has it and leaves a journal behind. -/
theorem Run.of_toOption_eq_some {α : Type} {run : Run α} {a : α} {j : Journal}
    (h : (run.run j).1.toOption = some a) : ∃ k, run.run j = (.ok a, k) := by
  revert h
  rcases run.run j with ⟨failure | b, k⟩
  · rintro ⟨⟩
  · rintro ⟨⟩
    exact ⟨k, rfl⟩

/-- The markers of blocks can be taken away before or after. -/
theorem Node.Appended.flatten {xs ys zs : List Node} (h : Appended xs ys zs) :
    Appended (Node.flatten xs) (Node.flatten ys) (Node.flatten zs) := by
  have happend : ∀ xs ys, Node.flatten (xs ++ ys) = Node.flatten xs ++ Node.flatten ys :=
    replaceAll_append _
  have hcons : ∀ s body rest, Node.flatten (.text s body :: rest) =
      .text s body :: Node.flatten rest := fun _ _ _ => rfl
  have hnil : Node.flatten [] = [] := rfl
  cases h with
  | apart hr hr' xs ys =>
    simp only [happend, flatten_relocateAll]
    exact .apart hr hr' _ _
  | merged hr hr' hr'' xs ys =>
    simp only [happend, hcons, hnil, flatten_relocateAll]
    exact .merged hr hr' hr'' _ _ _ _ _ _ _

namespace Engine

/-- What nodes render to, if they render to anything. -/
def yield? (e : Engine) (depth : Nat) (place : Place) (ctx : Context) (j : Journal)
    (nodes : List Node) : Option Rendered :=
  ((e.renderAll (e.enterAt depth) place ctx nodes).run j).1.toOption

variable {e : Engine} {depth : Nat} {place : Place} {ctx : Context} {j : Journal}

/-- It depends on what is available alone. -/
theorem yield?_congr {j' : Journal} (h : e.available j'.store = e.available j.store)
    (nodes : List Node) :
    e.yield? depth place ctx j' nodes = e.yield? depth place ctx j nodes :=
  congrArg Except.toOption (alike_renderAll e depth place ctx nodes j' j h).1

theorem yield?_relocateAll {r : Relocation} (hr : r.Faithful) (nodes : List Node) :
    e.yield? depth place ctx j (Node.relocateAll r nodes) = e.yield? depth place ctx j nodes :=
  (agree_renderAll_relocate hr depth nodes place ctx j j rfl).1.symm

theorem renderAll_append {enter : Option Renderer} (xs ys : List Node) :
    e.renderAll enter place ctx (xs ++ ys) =
      (do
        let first ← e.renderAll enter place ctx xs
        let more ← e.renderAll enter place ctx ys
        pure (first.append more)) := by
  induction xs with
  | nil => simp only [List.nil_append, renderAll, pure_bind, Rendered.nothing_append, bind_pure]
  | cons node rest ih =>
    simp only [List.cons_append, renderAll, ih, bind_assoc, pure_bind, Rendered.append_assoc]

/-- **Nodes one after another** render to their texts one after another. -/
theorem yield?_append (xs ys : List Node) :
    e.yield? depth place ctx j (xs ++ ys) =
      (e.yield? depth place ctx j xs).bind fun a =>
        (e.yield? depth place ctx j ys).map a.append := by
  rw [yield?, renderAll_append, Tree.Effect.run_bind, yield?]
  have hsame := (alike_renderAll e depth place ctx xs j j rfl).2.1
  revert hsame
  rcases (e.renderAll (e.enterAt depth) place ctx xs).run j with ⟨failure | a, j₁⟩
  · exact fun _ => rfl
  · intro hsame
    have hrest := (alike_renderAll e depth place ctx ys j₁ j hsame).1
    simp only [Except.toOption, Option.bind_some, yield?, ← hrest, Tree.Effect.run_bind]
    rcases (e.renderAll (e.enterAt depth) place ctx ys).run j₁ with ⟨_ | _, _⟩ <;> rfl

/-- A text comes before what the rest renders to. -/
theorem yield?_text (span : Span) (body : String) (rest : List Node) :
    e.yield? depth place ctx j (.text span body :: rest) =
      (e.yield? depth place ctx j rest).map (Rendered.ofText body).append := by
  have hbody : e.yield? depth place ctx j [.text span body] = some (.ofText body) := by
    simp only [yield?, renderAll, renderNode, pure_bind, Rendered.append_nothing]
    rfl
  rw [← List.singleton_append, yield?_append, hbody, Option.bind_some]

theorem ofText_append (u v : String) :
    Rendered.ofText (u ++ v) = (Rendered.ofText u).append (.ofText v) := rfl

/-- **What is put together renders to both texts**, one after the other. -/
theorem yield?_of_appended {xs ys zs : List Node} (h : Node.Appended xs ys zs) :
    e.yield? depth place ctx j zs =
      (e.yield? depth place ctx j xs).bind fun a =>
        (e.yield? depth place ctx j ys).map a.append := by
  cases h with
  | apart hr hr' => rw [yield?_append, yield?_relocateAll hr, yield?_relocateAll hr']
  | merged hr hr' hr'' xs ys s s' s'' u v =>
    have hnil : e.yield? depth place ctx j [] = some .nothing := rfl
    simp only [yield?_append, yield?_text, hnil, yield?_relocateAll hr, yield?_relocateAll hr',
      yield?_relocateAll hr'', ofText_append]
    cases e.yield? depth place ctx j xs with
    | none => rfl
    | some a => cases e.yield? depth place ctx j ys <;> simp [Rendered.append_assoc]

/-- A source that extends nothing renders to what its nodes yield. -/
theorem executeSource_toOption {source : String} {t : Template} (data : Value)
    (hparse : e.parse "inline" source = .ok t) (hparent : t.tree.parent? = none) (j : Journal) :
    ((e.executeSource source data).run j).1.toOption =
      (e.yield? e.options.maxDepth (t.place false) { root := data } j
        (Node.flatten t.tree.nodes)).map Rendered.text := by
  have heffective : (e.effective t).run j = (.ok (Node.flatten t.tree.nodes), j) := by
    rw [effective, Tree.effective_run, Tree.inherited_run, hparent]
  rw [executeSource, hparse, Tree.Effect.run_bind, Run.run_liftM]
  simp only [execute, Run.run_map, render, Tree.Effect.run_bind, heffective, renderAt_eq, yield?]
  cases (e.renderAll (e.enterAt e.options.maxDepth) (t.place false) { root := data }
    (Node.flatten t.tree.nodes)).run j with
  | mk result j' => cases result <;> rfl

/-- **Rendering is compositional on sources.** Let two sources be accepted that
extend nothing and have no name of a block in common, and let the first not
end with a backslash where the second begins with a delimiter, nor with the
brace of a delimiter that the second completes. Then they are accepted one
behind the other, and where each renders with some data both render to their
texts one after the other. What has been loaded meanwhile makes no difference,
as long as the same is available. -/
theorem executeSource_append {s₁ s₂ : String} {t₁ t₂ : Template}
    (hdelimiters : e.options.delimiters = .standard)
    (h₁ : e.parse "inline" s₁ = .ok t₁) (h₂ : e.parse "inline" s₂ = .ok t₂)
    (hnone₁ : Node.NoExtending t₁.tree.nodes) (hnone₂ : Node.NoExtending t₂.tree.nodes)
    (hnames : List.Disjoint (Node.blockNames t₁.tree.nodes) (Node.blockNames t₂.tree.nodes))
    (hslash : ¬ (s₁.toList.getLast? = some '\\' ∧ ['\x7b', '~'] <+: s₂.toList))
    (hbrace : ¬ (s₁.toList.getLast? = some '\x7b' ∧ s₂.toList.head? = some '~')) :
    (∃ t, e.parse "inline" (s₁ ++ s₂) = .ok t) ∧
      ∀ (data : Value) (j j₁ j₂ k₁ k₂ : Journal) (a b : String),
        e.available j₁.store = e.available j.store → e.available j₂.store = e.available j.store →
        (e.executeSource s₁ data).run j₁ = (.ok a, k₁) →
        (e.executeSource s₂ data).run j₂ = (.ok b, k₂) →
        ∃ k, (e.executeSource (s₁ ++ s₂) data).run j = (.ok (a ++ b), k) := by
  have hplace : ∀ {s : String} {t : Template}, e.parse "inline" s = .ok t →
      t.place false = ⟨"inline", none, false⟩ := by
    intro s t hparse
    obtain ⟨tokens, b, -, -, -, rfl⟩ := Template.parse_eq_ok_iff.1 hparse
    rfl
  have hseam : e.options.delimiters.Unjoined s₁.toList s₂.toList :=
    hdelimiters ▸ Delimiters.unjoined_standard hslash hbrace
  obtain ⟨t, ht, hroot, happended⟩ := Template.parse_append
    (hdelimiters ▸ Delimiters.apart_standard) h₁ h₂ hseam hnone₁ hnone₂ hnames
  refine ⟨⟨t, ht⟩, fun data j j₁ j₂ k₁ k₂ a b hj₁ hj₂ ha hb => ?_⟩
  have hfirst := executeSource_toOption data h₁ (Tree.parent?_eq_none hnone₁) j₁
  have hsecond := executeSource_toOption data h₂ (Tree.parent?_eq_none hnone₂) j₂
  have hboth := executeSource_toOption data ht hroot j
  rw [ha, hplace h₁, yield?_congr hj₁] at hfirst
  rw [hb, hplace h₂, yield?_congr hj₂] at hsecond
  obtain ⟨first, hyield₁, rfl⟩ := Option.map_eq_some_iff.1 hfirst.symm
  obtain ⟨second, hyield₂, rfl⟩ := Option.map_eq_some_iff.1 hsecond.symm
  rw [hplace ht, yield?_of_appended happended.flatten, hyield₁, hyield₂] at hboth
  exact Run.of_toOption_eq_some hboth

end Engine

namespace Sample

/-- An engine that is provided with a signature. -/
def office : Engine where
  provider name :=
    if name = "signature" then some ("-- " ++ tagged "prompty.var name=\"from\" /") else none

/-- An escaped delimiter, a block with a variable that keeps its source, and a
text that ends with a backslash. -/
def letter : String :=
  "\\" ++ tagged "draft" ++ "\n" ++ tagged "prompty.block name=\"body\"" ++
    tagged "prompty.var name=\"to\" onerror=\"keepraw\" /" ++ tagged "/prompty.block" ++ " \\"

/-- A text, and a turn with a tag that keeps its source and an inclusion. -/
def postscript : String :=
  "~ " ++ tagged "prompty.message role=\"user\"" ++
    tagged "prompty.env name=\"UNSET\" onerror=\"keepraw\" /" ++
    tagged "prompty.include template=\"signature\" /" ++ tagged "/prompty.message"

/-- The data that the signature wants. -/
def sender : Value :=
  .ofFields [("from", .text "B")]

/-- What the letter renders to. -/
def letterText : String :=
  tagged "draft" ++ "\n" ++ tagged "prompty.var name=\"to\" onerror=\"keepraw\" /" ++ " \\"

/-- What the postscript renders to. -/
def postscriptText : String :=
  "~ " ++ tagged "prompty.env name=\"UNSET\" onerror=\"keepraw\" /" ++ "-- B"

/-- **The backslash and the tilde meet**, and nothing comes of it. -/
theorem executeSource_append_letter :
    (∃ t, office.parse "inline" (letter ++ postscript) = .ok t) ∧
      ∃ k, (office.executeSource (letter ++ postscript) sender).run {} =
        (.ok (letterText ++ postscriptText), k) := by
  have hyield₁ : ((office.executeSource letter sender).run {}).1.toOption = some letterText := by
    decide +kernel
  have hyield₂ : ((office.executeSource postscript sender).run {}).1.toOption =
      some postscriptText := by
    decide +kernel
  obtain ⟨k₁, hletter⟩ := Run.of_toOption_eq_some hyield₁
  obtain ⟨k₂, hpost⟩ := Run.of_toOption_eq_some hyield₂
  have hnone₁ : ∀ node ∈ Node.withinAll (template office "inline" letter).tree.nodes,
      node.isExtending = false := by decide +kernel
  have hnone₂ : ∀ node ∈ Node.withinAll (template office "inline" postscript).tree.nodes,
      node.isExtending = false := by decide +kernel
  have hnames : List.Disjoint (Node.blockNames (template office "inline" letter).tree.nodes)
      (Node.blockNames (template office "inline" postscript).tree.nodes) := by
    have hnone : Node.blockNames (template office "inline" postscript).tree.nodes = [] := by
      decide +kernel
    rw [hnone]
    exact List.disjoint_nil_right _
  have hslash : ¬ (letter.toList.getLast? = some '\\' ∧ ['\x7b', '~'] <+: postscript.toList) := by
    decide +kernel
  have hbrace : ¬ (letter.toList.getLast? = some '\x7b' ∧ postscript.toList.head? = some '~') := by
    decide +kernel
  obtain ⟨hparse, hrun⟩ := Engine.executeSource_append rfl
    (parse_template (by decide +kernel)) (parse_template (by decide +kernel)) hnone₁ hnone₂ hnames
    hslash hbrace
  exact ⟨hparse, hrun sender {} {} {} k₁ k₂ _ _ rfl rfl hletter hpost⟩

end Sample

end PromptMarkup
