import PromptMarkup.Engine
/-!
# Tree — what a tree takes from the resolvers

When a template is read its resolvers are asked whether there is one for a
tag, in what shape the tag is to be written, and whether they accept its
attributes (`Resolver.demands`). Nothing else of a builder looks at them, so
tables that demand the same build the same tree with the same issues
(`Tree.parse_congr`), whatever their resolvers make of a tag in a render.
-/

namespace PromptMarkup

/-- What a resolver demands of its tags when a template is read. -/
def Resolver.demands (r : Resolver) : TagShape × (Attributes → Except Failure Unit) :=
  (r.shape, r.validate)

namespace Resolvers

/-- There are resolvers under the same names, and they demand the same. -/
def SameDemands (rs rs' : Resolvers) : Prop :=
  ∀ tag, (Keyed.find? rs tag).map Resolver.demands = (Keyed.find? rs' tag).map Resolver.demands

variable {rs rs' : Resolvers}

theorem SameDemands.has_eq (h : SameDemands rs rs') (tag : String) :
    Keyed.has rs tag = Keyed.has rs' tag := by
  have hmapped := congrArg Option.isSome (h tag)
  rwa [Option.isSome_map, Option.isSome_map] at hmapped

end Resolvers

namespace Builder

/-- The same tree under construction, with another table of resolvers. -/
def knowing (b : Builder) (rs : Resolvers) : Builder :=
  { b with resolvers := rs }

variable {b : Builder} {rs : Resolvers}

/-! ## Steps that ask no resolver -/

theorem knowing_report (problems : List Problem) (position : Position) (tag : String) :
    (b.knowing rs).report problems position tag = (b.report problems position tag).knowing rs := rfl

theorem knowing_addNode (node : Node) (position : Position) :
    (b.knowing rs).addNode node position = (b.addNode node position).knowing rs := by
  have hstack : (b.knowing rs).stack = b.stack := rfl
  unfold addNode
  rw [hstack]
  cases b.stack <;> rfl

theorem knowing_closeFrame (stop : Nat) :
    (b.knowing rs).closeFrame stop = (b.closeFrame stop).knowing rs := by
  have hstack : (b.knowing rs).stack = b.stack := rfl
  have hsource : (b.knowing rs).source = b.source := rfl
  simp only [closeFrame, hstack, hsource]
  cases b.stack with
  | nil => rfl
  | cons frame outer =>
    cases hnode : frame.node? b.source ⟨frame.start, stop⟩ with
    | none => simp only [hnode]; rfl
    | some node =>
      simp only [hnode]
      exact knowing_addNode (b := { b with stack := outer }) node frame.position

theorem knowing_abandon (stop count : Nat) :
    (b.knowing rs).abandon stop count = (b.abandon stop count).knowing rs := by
  induction count generalizing b with
  | zero => rfl
  | succ n ih =>
    have hframe : (b.knowing rs).abandonFrame stop = (b.abandonFrame stop).knowing rs := by
      have hstack : (b.knowing rs).stack = b.stack := rfl
      rw [abandonFrame, abandonFrame, hstack]
      cases b.stack with
      | nil => rfl
      | cons frame outer => simp only [knowing_report, knowing_closeFrame]
    rw [abandon, abandon, hframe, ih]

theorem knowing_addOpening (tag : String) (span : Span) (position : Position)
    (opened : Opening × List Problem) :
    (b.knowing rs).addOpening tag span position opened =
      (b.addOpening tag span position opened).knowing rs := by
  obtain ⟨opening, problems⟩ := opened
  cases opening with
  | nothing => rfl
  | node node => rw [addOpening, addOpening, knowing_report, knowing_addNode]
  | frame kind => cases kind <;> rfl

theorem knowing_extending (shape : TagShape) (attrs : Attributes) (span : Span)
    (position : Position) :
    (b.knowing rs).extending shape attrs span position =
      (b.extending shape attrs span position).knowing rs := by
  have hextended : (b.knowing rs).extended = b.extended := rfl
  have hstack : (b.knowing rs).stack = b.stack := rfl
  have hfilled : (b.knowing rs).rootFilled = b.rootFilled := rfl
  simp only [extending, hextended, hstack, hfilled]
  split
  · exact knowing_addOpening _ _ _ _
  · split
    · rfl
    · split
      · rfl
      · split <;> rfl

theorem knowing_branch (tag : String) (attrs : Attributes) (position : Position) :
    (b.knowing rs).branch tag attrs position = (b.branch tag attrs position).knowing rs := by
  have hstack : (b.knowing rs).stack = b.stack := rfl
  rw [branch, branch, hstack]
  cases b.stack with
  | nil => rfl
  | cons frame outer =>
    simp only
    split
    · split <;> rfl
    · rfl

theorem knowing_close (tag : String) (span : Span) (position : Position) :
    (b.knowing rs).close tag span position = (b.close tag span position).knowing rs := by
  have hstack : (b.knowing rs).stack = b.stack := rfl
  simp only [close, hstack]
  split
  · split
    · rw [knowing_abandon, knowing_closeFrame]
    · rw [knowing_report, knowing_abandon, knowing_closeFrame]
  · split <;> rfl

/-! ## Steps that ask the resolvers -/

variable (h : b.resolvers.SameDemands rs)

include h

/-- **Resolvers that demand the same** have the same problems with a tag. -/
theorem knowing_resolverProblems (shape : TagShape) (tag : String) (attrs : Attributes) :
    (b.knowing rs).resolverProblems shape tag attrs = b.resolverProblems shape tag attrs := by
  have hdemands := h tag
  rw [resolverProblems, resolverProblems, knowing]
  cases hfind : Keyed.find? b.resolvers tag with
  | none =>
    rw [hfind] at hdemands
    rw [Option.map_eq_none_iff.1 hdemands.symm]
  | some r =>
    rw [hfind] at hdemands
    obtain ⟨r', hfind', hsame⟩ := Option.map_eq_some_iff.1 hdemands.symm
    obtain ⟨hshape, hvalidate⟩ := Prod.mk.inj hsame
    rw [hfind']
    simp only [hshape, hvalidate]

theorem knowing_opening (shape : TagShape) (tag : String) (attrs : Attributes) (span : Span)
    (position : Position) :
    (b.knowing rs).opening shape tag attrs span position =
      b.opening shape tag attrs span position := by
  have hother : (b.knowing rs).openOther shape tag attrs span position =
      b.openOther shape tag attrs span position := by
    rw [openOther, openOther, knowing_resolverProblems h]
    rfl
  rw [opening, opening, hother]
  rfl

/-- Every token is taken alike. -/
theorem knowing_accept (token : Token) :
    (b.knowing rs).accept token = (b.accept token).knowing rs := by
  rw [accept, accept]
  split
  · exact knowing_addNode _ _
  · exact knowing_addNode _ _
  · rw [openTag, openTag]
    split
    · exact knowing_branch _ _ _
    · split
      · exact knowing_extending _ _ _ _
      · rw [knowing_opening h, knowing_addOpening]
  · exact knowing_close _ _ _

omit h in
/-- And the table of resolvers stays. -/
theorem resolvers_accept (token : Token) : (b.accept token).resolvers = b.resolvers := by
  have hsame : b.resolvers.SameDemands b.resolvers := fun _ => rfl
  have haccept : b.accept token = (b.accept token).knowing b.resolvers := knowing_accept hsame token
  rw [haccept]
  rfl

theorem knowing_foldl_accept (tokens : List Token) :
    tokens.foldl accept (b.knowing rs) = (tokens.foldl accept b).knowing rs := by
  induction tokens generalizing b with
  | nil => rfl
  | cons token rest ih =>
    rw [List.foldl_cons, List.foldl_cons, knowing_accept h]
    exact ih (by rwa [resolvers_accept])

omit h in
theorem knowing_finish : (b.knowing rs).finish = b.finish.knowing rs := by
  have hstack : (b.knowing rs).stack = b.stack := rfl
  have hsource : (b.knowing rs).source = b.source := rfl
  simp only [finish, hstack, hsource, knowing_abandon]
  have hignored : ∀ b' : Builder, (b'.knowing rs).ignored = b'.ignored := fun _ => rfl
  rw [hignored]
  split <;> rfl

end Builder

variable {rs rs' : Resolvers}

/-- **Resolvers that demand the same** give a source the same tree and the
same issues. -/
theorem Tree.parse_congr (h : rs.SameDemands rs') (d : Delimiters) (name source : String) :
    Tree.parse d rs name source = Tree.parse d rs' name source := by
  have hbuild : Tree.build rs name source = Tree.build rs' name source := by
    funext tokens
    have hrun := Builder.knowing_foldl_accept (b := { source := source.toList, resolvers := rs }) h
      tokens
    have hbuilder : ({ source := source.toList, resolvers := rs' } : Builder) =
        Builder.knowing { source := source.toList, resolvers := rs } rs' := rfl
    simp only [Tree.build, hbuilder, hrun, Builder.knowing_finish]
    rfl
  rw [Tree.parse, Tree.parse, hbuild]

theorem Template.parse_congr (h : rs.SameDemands rs') (d : Delimiters) (name source : String) :
    Template.parse d rs name source = Template.parse d rs' name source := by
  rw [Template.parse, Template.parse, Tree.parse_congr h]

end PromptMarkup
