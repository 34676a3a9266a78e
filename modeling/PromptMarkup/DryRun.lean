import PromptMarkup.Engine
import PromptMarkup.Expr.Eval
import PromptMarkup.Suggestion
/-!
# DryRun — what a template would need

A dry run goes through all nodes of a template, every branch of every
choice and the body of every loop once, and calls no resolver. It lists
what it meets, compares it with the data, and puts placeholders where a
render would put text. `Survey` is what the walk collects; `Report` is what
is concluded from it.
-/

namespace PromptMarkup

namespace DryRun

/-- A variable, and whether the data has it. -/
structure VariableUse where
  name : String
  line : Nat
  column : Nat
  inData : Bool
  fallback : Option String
  suggestions : List String
  deriving DecidableEq, Repr

/-- A tag left to a resolver, and whether there is one. -/
structure ResolverUse where
  name : String
  line : Nat
  column : Nat
  known : Bool
  deriving DecidableEq, Repr

/-- An inclusion, and whether the template exists. -/
structure InclusionUse where
  template : String
  line : Nat
  column : Nat
  found : Bool
  deriving DecidableEq, Repr

/-- A loop, and whether the data has what it runs over. -/
structure LoopUse where
  head : LoopHead
  line : Nat
  column : Nat
  inData : Bool
  deriving DecidableEq, Repr

/-- A condition with the functions it calls. -/
structure ConditionUse where
  source : String
  line : Nat
  column : Nat
  functions : List String
  deriving DecidableEq, Repr

/-- What is met in a sequence of nodes. `references` has every path that is
read. -/
structure Survey where
  vars : List VariableUse := []
  resolvers : List ResolverUse := []
  inclusions : List InclusionUse := []
  loops : List LoopUse := []
  conditions : List ConditionUse := []
  warnings : List String := []
  references : List String := []
  text : String := ""

namespace Survey

/-- One survey after another. -/
def append (a b : Survey) : Survey where
  vars := a.vars ++ b.vars
  resolvers := a.resolvers ++ b.resolvers
  inclusions := a.inclusions ++ b.inclusions
  loops := a.loops ++ b.loops
  conditions := a.conditions ++ b.conditions
  warnings := a.warnings ++ b.warnings
  references := a.references ++ b.references
  text := a.text ++ b.text

/-- The survey without its text. -/
def silent (s : Survey) : Survey :=
  { s with text := "" }

end Survey

/-- What a walk consults: the engine, the data and which templates exist. -/
structure Ground where
  engine : Engine
  data : Value
  exist : String → Bool

/-! ## Single nodes -/

/-- The survey of a variable. -/
def surveyVar (g : Ground) (info : NodeInfo) (path : String) : Survey :=
  let value := g.data.lookup? path
  let text :=
    match value, info.fallback with
    | some value, _ => value.shown
    | none, some text => text
    | none, none => s!"[missing:{path}]"
  { vars :=
      [⟨path, info.position.line, info.position.column, value.isSome, info.fallback, []⟩]
    references := [path]
    text }

/-- The survey of a tag left to a resolver. -/
def surveyTag (g : Ground) (info : NodeInfo) (name : String) : Survey where
  resolvers := [⟨name, info.position.line, info.position.column, g.engine.resolvers.has name⟩]
  text := s!"[{name}]"

/-- The survey of an inclusion. -/
def surveyInclusion (g : Ground) (info : NodeInfo) (template : String)
    (data : Option String) : Survey where
  inclusions := [⟨template, info.position.line, info.position.column, g.exist template⟩]
  references := data.toList
  text := s!"[include:{template}]"

/-- The survey of a loop without its body. -/
def surveyLoop (g : Ground) (info : NodeInfo) (head : LoopHead) : Survey where
  loops :=
    [⟨head, info.position.line, info.position.column, (g.data.lookup? head.source).isSome⟩]
  references := [head.source]

/-- Whether the condition of a branch holds for the data alone. -/
def branchHolds (g : Ground) (branch : Branch) : Except Failure Bool :=
  branch.condition.holds { root := g.data } g.engine.functions

/-- The warnings about a condition: that it could not be evaluated, or else
every call of a function that does not exist. -/
def branchWarnings (g : Ground) (branch : Branch) : List String :=
  let place :=
    s!"condition \"{branch.source}\" at line {branch.position.line}, column {branch.position.column}"
  match branchHolds g branch with
  | .error failure => [s!"{place} could not be evaluated: {failure.message}"]
  | .ok _ =>
    (branch.condition.calls.filter (!g.engine.functions.has ·)).map fun name =>
      s!"{place} calls unknown function \"{name}\""

/-- The survey of the condition of a branch. -/
def surveyCondition (g : Ground) (branch : Branch) : Survey where
  conditions :=
    [⟨branch.source, branch.position.line, branch.position.column, branch.condition.calls⟩]
  warnings := branchWarnings g branch
  references := branch.condition.paths

/-- The survey of the conditions of a choice. -/
def surveyConditions (g : Ground) (branches : List Branch) : Survey :=
  (branches.map (surveyCondition g)).foldr Survey.append {}

/-- The number of the branch that the data selects. -/
def selected? (g : Ground) (branches : List Branch) : Option Nat :=
  branches.findIdx? fun branch =>
    match branchHolds g branch with
    | .ok holds => holds
    | .error _ => false

/-! ## Sequences of nodes -/

mutual

/-- The survey of a node. The one thing it refuses is a turn inside
another. -/
def surveyNode (g : Ground) (inTurn : Bool) : Node → Except Failure Survey
  | .text _ body => .ok { text := body }
  | .comment .. | .extending .. | .parent .. => .ok {}
  | .var info path => .ok (surveyVar g info path)
  | .tag info name _ => .ok (surveyTag g info name)
  | .blockTag info name _ body =>
    (surveyAll g inTurn body).map (surveyTag g info name).append
  | .choice _ branches none =>
    (surveyBranches g inTurn (selected? g branches) branches).map
      (surveyConditions g branches).append
  | .choice _ branches (some body) =>
    -- every body is surveyed, and only the selected one has text
    let selected := selected? g branches
    match surveyBranches g inTurn selected branches with
    | .error failure => .error failure
    | .ok bodies =>
      match surveyAll g inTurn body with
      | .error failure => .error failure
      | .ok last =>
        let last := if selected.isNone then last else last.silent
        .ok ((surveyConditions g branches).append (bodies.append last))
  | .loop info head body => (surveyAll g inTurn body).map (surveyLoop g info head).append
  | .inclusion info template data => .ok (surveyInclusion g info template data)
  | .block _ _ _ body => surveyAll g inTurn body
  | .message _ position _ body =>
    if inTurn then .error (.render .nestedMessage none (some position))
    else surveyAll g true body

/-- The survey of a sequence of nodes. -/
def surveyAll (g : Ground) (inTurn : Bool) : List Node → Except Failure Survey
  | [] => .ok {}
  | node :: rest =>
    match surveyNode g inTurn node with
    | .error failure => .error failure
    | .ok first => (surveyAll g inTurn rest).map first.append

/-- The survey of the bodies of branches. Only that of the selected branch
has text; the number counts down to it. -/
def surveyBranches (g : Ground) (inTurn : Bool) (selected : Option Nat) :
    List Branch → Except Failure Survey
  | [] => .ok {}
  | .mk _ _ _ body :: rest =>
    match surveyAll g inTurn body with
    | .error failure => .error failure
    | .ok first =>
      let first := if selected = some 0 then first else first.silent
      (surveyBranches g inTurn (selected.bind fun n => if n = 0 then none else some (n - 1))
        rest).map first.append

end

/-! ## Conclusions -/

/-- One path is the other or begins with it and a point. -/
def beginsPath (shorter longer : String) : Bool :=
  match Text.dropPrefix? shorter.toList longer.toList with
  | some [] => true
  | some (c :: _) => c = '.'
  | none => false

/-- A reference uses a place of the data when either path begins the
other. -/
def overlap (reference leaf : String) : Bool :=
  beginsPath reference leaf || beginsPath leaf reference

/-- What a dry run concludes. -/
structure Report where
  valid : Bool
  vars : List VariableUse
  resolvers : List ResolverUse
  inclusions : List InclusionUse
  loops : List LoopUse
  conditions : List ConditionUse
  missing : List String
  unused : List String
  warnings : List String
  text : String

/-- A variable with suggestions, where the data does not have it. -/
def VariableUse.advised (candidates : List String) (use : VariableUse) : VariableUse :=
  if use.inData then use
  else { use with suggestions := Suggestion.nearest use.name candidates }

/-- The names of the variables that neither the data nor a default has, each
once. -/
def missingOf (uses : List VariableUse) : List String :=
  let names := (uses.filter fun use => !use.inData && use.fallback.isNone).map (·.name)
  (names.foldl (fun seen name => if seen.contains name then seen else name :: seen) []).reverse

/-- The warnings about what a survey met and did not find. -/
def absenceWarnings (s : Survey) : List String :=
  ((s.inclusions.filter (!·.found)).map fun use =>
    s!"included template \"{use.template}\" not found (line {use.line}, column {use.column})") ++
  ((s.resolvers.filter (!·.known)).map fun use =>
    s!"no resolver registered for {use.name} (line {use.line}, column {use.column})") ++
  (s.loops.filter (!·.inData)).map fun use =>
    s!"loop source \"{use.head.source}\" not found in data (line {use.line}, column {use.column})"

/-- The report on a survey of nodes against data. -/
def Survey.report (s : Survey) (data : Value) : Report :=
  let vars := s.vars.map (·.advised data.paths)
  let missing := missingOf s.vars
  { valid := missing.isEmpty && s.inclusions.all (·.found) && s.resolvers.all (·.known)
    vars
    resolvers := s.resolvers
    inclusions := s.inclusions
    loops := s.loops
    conditions := s.conditions
    missing
    unused := data.leaves.filter fun leaf => !s.references.any (overlap · leaf)
    warnings := s.warnings ++ absenceWarnings s
    text := s.text }

end DryRun

/-- Goes through a template without rendering it. Only its inheritance can
fail, and a turn inside another that inheritance brings about. -/
def Engine.dryRun (e : Engine) (t : Template) (data : Value) : Run DryRun.Report := do
  let nodes ← e.effective t
  let journal ← get
  let survey ← liftM (DryRun.surveyAll ⟨e, data, e.has journal.store⟩ false nodes)
  let report := survey.report data
  let remarks := (t.issues.filter (!·.isError)).map Issue.text
  pure { report with warnings := report.warnings ++ remarks }

end PromptMarkup
