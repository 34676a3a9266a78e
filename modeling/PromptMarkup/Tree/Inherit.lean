import PromptMarkup.Tree
/-!
# Tree — inheritance

A template that extends another is the other one with its blocks filled in.
`inherited` follows the chain of parents to its root and comes back down:
at each step the blocks of the parent get the bodies the child defines
(`override`), in which each parent tag is replaced by the body the block
had before. Blocks stay marked until the end, so a template further down
can override them again; `flatten` then takes the markers away.

The chain is followed through an arbitrary way of loading templates, which
may have effects and failures of its own.
-/

namespace PromptMarkup

namespace Node

/-- The replacement that puts the body a block had before in the place of
each parent tag. -/
def Replacement.fillParent (before : List Node) : Replacement where
  block span position name body := [.block span position name body]
  parent _ _ := before
  extending span position template := [.extending span position template]

/-- The replacement that gives each block the body defined for it, if there is
one. The first definition of a name counts. -/
def Replacement.override (defined : List (String × List Node)) : Replacement where
  block span position name body :=
    match defined.lookup name with
    | some own => [.block span position name (replaceAll (.fillParent body) own)]
    | none => [.block span position name body]
  parent span position := [.parent span position]
  extending span position template := [.extending span position template]

/-- The replacement that leaves of each block its body, and nothing of the
other tags that combine templates. -/
def Replacement.flatten : Replacement where
  block _ _ _ body := body
  parent _ _ := []
  extending _ _ _ := []

/-- The nodes of a parent, with the blocks that a child defines in place of
its own. -/
def override (child parent : List Node) : List Node :=
  replaceAll (.override (definitionsOfAll child)) parent

/-- The nodes without the tags that combine templates. -/
def flatten (nodes : List Node) : List Node :=
  replaceAll .flatten nodes

end Node

namespace Tree

variable {σ : Type}

/-- An operation that can fail and has effects on a state. -/
abbrev Effect (σ α : Type) := ExceptT Failure (StateM σ) α

/-- The nodes of a tree with everything it inherits, its blocks still
marked. `chain` holds the names met so far and the number counts the
parents that may still be loaded; a repeated name is found before an
exceeded limit, and either before a failure to load. -/
def inherited (load : String → Effect σ (Option Tree)) (limit : Nat) :
    Nat → List String → Tree → Effect σ (List Node)
  | budget, chain, tree =>
    match tree.parent? with
    | none => pure tree.nodes
    | some parent =>
      -- a cycle would exhaust every limit, so it is named first
      if chain.contains parent then throw (.inheritance (.cycle chain parent))
      else
        match budget with
        | 0 => throw (.inheritance (.tooDeep limit))
        | budget + 1 => do
          match ← load parent with
          | none => throw (.inheritance (.unknownParent tree.name parent))
          | some above =>
            let nodes ← inherited load limit budget (chain ++ [parent]) above
            pure (Node.override tree.nodes nodes)

/-- The nodes that a tree stands for once its parents are resolved. -/
def effective (load : String → Effect σ (Option Tree)) (limit : Nat) (tree : Tree) :
    Effect σ (List Node) := do
  let nodes ← inherited load limit limit [tree.name] tree
  pure (Node.flatten nodes)

end Tree

end PromptMarkup
