import PromptMarkup.Tree.Builder
/-!
# Template — a source that can be rendered

A template is a source whose tree has no errors. What else was found in it
is kept, and a configuration may be attached that the tags of the template
can read.
-/

namespace PromptMarkup

/-- A template with its source, its tree and the remarks made on it. -/
structure Template where
  name : String
  source : String
  tree : Tree
  issues : List Issue
  config : Option Value := none

namespace Template

/-- Reads a template. A single error among the issues refuses it, with all
of them. -/
def parse (d : Delimiters) (resolvers : Resolvers) (name source : String) :
    Except Failure Template :=
  match Tree.parse d resolvers name source with
  | .error failure => .error failure
  | .ok (tree, issues) =>
    if issues.any Issue.isError then .error (.invalid issues)
    else .ok { name, source, tree, issues }

/-- Reads a template with the usual delimiters and the resolvers every
engine has. -/
def ofSource (name source : String) : Except Failure Template :=
  parse .standard Resolvers.builtin name source

/-- The template with a configuration attached. -/
def withConfig (t : Template) (config : Value) : Template :=
  { t with config := some config }

end Template

end PromptMarkup
