import PromptMarkup.Strategy
/-!
# Options — the settings of an engine

The delimiters of tags, the strategy of nodes that name none, and the limit
on how deep templates may include and extend one another.
-/

namespace PromptMarkup

/-- The texts that open and close a tag. -/
structure Delimiters where
  opening : String
  closing : String
  deriving DecidableEq, Repr

namespace Delimiters

/-- The delimiters of an engine that sets none. -/
def standard : Delimiters := ⟨"\x7b~", "~\x7d"⟩

/-- The fault that makes a pair of delimiters unusable. A tag could not be
told from text, or its end from its slash. -/
def fault? (d : Delimiters) : Option RegistrationFault :=
  if d.opening.isEmpty || d.closing.isEmpty then some .emptyDelimiter
  else if d.opening = d.closing then some .equalDelimiters
  else if d.opening.toList.contains '/' || d.closing.toList.contains '/' then
    some .slashInDelimiter
  else none

/-- Accepts usable delimiters. -/
def check (d : Delimiters) : Except Failure Delimiters :=
  match d.fault? with
  | some fault => .error (.registration fault)
  | none => .ok d

end Delimiters

/-- The settings of an engine. -/
structure Options where
  /-- The strategy of nodes that name none; without one they raise. -/
  strategy : Option Strategy := none
  delimiters : Delimiters := .standard
  /-- The most templates that may be open inside one another. -/
  maxDepth : Nat := 10
  deriving DecidableEq, Repr

/-- The strategy of a node: its own, else the engine's, else to raise. -/
def Options.strategyFor (o : Options) (own : Option Strategy) : Strategy :=
  (own.or o.strategy).getD .raise

end PromptMarkup
