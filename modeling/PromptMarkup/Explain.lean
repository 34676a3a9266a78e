import PromptMarkup.Render
import PromptMarkup.Tree.Outline
/-!
# Explain — a render with its reasons

An explanation renders a source and tells besides how its tree looks and
what each variable was replaced by, up to the failure if there is one.
-/

namespace PromptMarkup

/-- How a resolution is shown. -/
def Resolution.shown : Resolution → String
  | .value text => text
  | .fallback text => s!"{text} (default)"
  | .notFound => "NOT_FOUND"

/-- A variable was found in the context. -/
def Resolution.isFound : Resolution → Bool
  | .value _ => true
  | .fallback _ | .notFound => false

/-- A render with the outline of the tree and the variables read. A source
that cannot be parsed has neither. -/
structure Explanation where
  outline : String
  reads : List VariableRead
  result : Except Failure String

/-- Renders a source and explains it. The outline is that of the tree with
everything it inherits, or of the tree alone where inheritance fails. -/
def Engine.explain (e : Engine) (name source : String) (data : Value) :
    StateM Journal Explanation :=
  match e.parse name source with
  | .error failure => pure ⟨"", [], .error failure⟩
  | .ok t => do
    let outline :=
      match ← (e.effective t).run with
      | .ok nodes => Tree.outline ⟨t.name, nodes⟩
      | .error _ => t.tree.outline
    modify fun journal => { journal with reads := #[] }
    let result ← (e.execute t data).run
    let journal ← get
    pure ⟨outline, journal.reads.toList, result⟩

end PromptMarkup
