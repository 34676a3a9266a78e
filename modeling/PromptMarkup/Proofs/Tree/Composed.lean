import PromptMarkup.Engine
import PromptMarkup.Proofs.Inherit.Effective
import PromptMarkup.Proofs.Tree.Appended
import PromptMarkup.Proofs.Tree.Issues
/-!
# Tree — the issues of two sources put together

A problem never stops the reading, and it leaves nothing behind but its issue.
So where a source ends outside all tags, however broken it is, the next one is
read as if it stood alone: the issues of the two put together are those of the
first and then those of the second, in their new places
(`Engine.validate_append`). Only a template that extends another, and a block
whose name is taken, depend on what was read before them
(`Token.Independent`).
-/

namespace PromptMarkup

open Text

/-- The token does not open a tag that extends a template or names a block. -/
def Token.Independent (token : Token) : Prop :=
  ∀ shape tag attrs, token.piece = .opening shape tag attrs →
    tag ≠ Tag.extendsTag ∧ tag ≠ Tag.block

instance : (token : Token) → Decidable token.Independent
  | ⟨.opening shape tag attrs, _, _⟩ =>
    decidable_of_iff (tag ≠ Tag.extendsTag ∧ tag ≠ Tag.block)
      ⟨by rintro h _ _ _ ⟨⟩; exact h, fun h => h shape tag attrs rfl⟩
  | ⟨.text _, _, _⟩ | ⟨.comment _, _, _⟩ | ⟨.closing _, _, _⟩ => isTrue nofun

theorem Token.Independent.free {token : Token} (h : token.Independent) (names : List String) :
    token.Free names := by
  intro shape tag attrs hpiece
  obtain ⟨hextends, hblock⟩ := h shape tag attrs hpiece
  exact ⟨hextends, fun hsame => absurd hsame hblock⟩

/-- What is at the place `p` of a source that begins at `q` is at the place
that is counted on from there, and is otherwise the same. -/
theorem Issue.behind_eq (q : Position) (issue : Issue) :
    issue.behind q = { issue with
      line := q.line + issue.line - 1
      column := if issue.line = 1 then q.column + issue.column - 1 else issue.column } :=
  rfl

@[simp] theorem Issue.behind_origin (issue : Issue) : issue.behind .origin = issue := by
  obtain ⟨severity, message, line, column, tag⟩ := issue
  simp [behind_eq, Position.origin]

namespace Builder

variable {rs : Resolvers} {front b : Builder} {q position : Position} {span : Span}
  {tag : String} {source : String} {tokens : List Token}

/-! ## A template of its own -/

/-- The template has not been said to extend another, so no content is
ignored. -/
structure Standalone (rs : Resolvers) (b : Builder) : Prop where
  resolvers : b.resolvers = rs
  extended : b.extended = false
  ignored : b.ignored = none

namespace Standalone

theorem start (rs : Resolvers) (source : String) : (Builder.start rs source).Standalone rs :=
  ⟨rfl, rfl, rfl⟩

theorem closed (h : b.Standalone rs) (hstack : b.stack = []) : b.Closed rs :=
  ⟨h.resolvers, hstack, h.extended⟩

theorem report (h : b.Standalone rs) (problems : List Problem) (position : Position)
    (tag : String) : (b.report problems position tag).Standalone rs :=
  ⟨h.resolvers, h.extended, h.ignored⟩

theorem addNode (h : b.Standalone rs) (node : Node) (position : Position) :
    (b.addNode node position).Standalone rs := by
  cases hstack : b.stack with
  | nil =>
    rw [addNode_of_root hstack]
    exact ⟨h.resolvers, h.extended, by simp [h.extended, h.ignored]⟩
  | cons frame outer =>
    rw [addNode_of_frame hstack]
    exact ⟨h.resolvers, h.extended, h.ignored⟩

theorem closeFrame (h : b.Standalone rs) (stop : Nat) : (b.closeFrame stop).Standalone rs := by
  rw [Builder.closeFrame]
  split
  · exact h
  · next frame outer hstack =>
    have hpopped : Standalone rs { b with stack := outer } := ⟨h.resolvers, h.extended, h.ignored⟩
    simp only
    split
    · exact hpopped.addNode _ _
    · exact hpopped

theorem abandon (h : b.Standalone rs) (stop count : Nat) :
    (b.abandon stop count).Standalone rs := by
  induction count generalizing b with
  | zero => exact h
  | succ count ih =>
    refine ih ?_
    rw [abandonFrame]
    split
    · exact h
    · exact (h.report _ _ _).closeFrame stop

theorem addOpening (h : b.Standalone rs) (opened : Opening × List Problem) (tag : String)
    (span : Span) (position : Position) :
    (b.addOpening tag span position opened).Standalone rs := by
  obtain ⟨opening, problems⟩ := opened
  have hreport := h.report problems position tag
  cases opening with
  | nothing => exact hreport
  | node node => exact hreport.addNode node position
  | frame kind => cases kind <;> exact ⟨h.resolvers, h.extended, h.ignored⟩

theorem branch (h : b.Standalone rs) (tag : String) (attrs : Attributes) (position : Position) :
    (b.branch tag attrs position).Standalone rs := by
  simp only [Builder.branch]
  split
  · split
    · split
      · exact ⟨h.resolvers, h.extended, h.ignored⟩
      · exact h.report _ _ _
    · exact h.report _ _ _
  · exact h.report _ _ _

theorem close (h : b.Standalone rs) (tag : String) (span : Span) (position : Position) :
    (b.close tag span position).Standalone rs := by
  simp only [Builder.close]
  split
  · split
    · exact (h.abandon _ _).closeFrame _
    · exact ((h.report _ _ _).abandon _ _).closeFrame _
  · split
    · exact h
    · exact h.report _ _ _

theorem accept (h : b.Standalone rs) {token : Token} (hindependent : token.Independent) :
    (b.accept token).Standalone rs := by
  obtain ⟨piece, span, position⟩ := token
  cases piece with
  | text body => exact h.addNode _ position
  | comment body => exact h.addNode _ position
  | closing name => exact h.close name span position
  | opening shape tag attrs =>
    obtain ⟨hextends, -⟩ := hindependent shape tag attrs rfl
    simp only [Builder.accept, openTag, if_neg hextends]
    split
    · exact h.branch tag attrs position
    · exact h.addOpening _ tag span position

theorem foldl_accept (h : b.Standalone rs) (hindependent : ∀ t ∈ tokens, t.Independent) :
    (tokens.foldl Builder.accept b).Standalone rs := by
  induction tokens generalizing b with
  | nil => exact h
  | cons token rest ih =>
    obtain ⟨htoken, hrest⟩ := List.forall_mem_cons.1 hindependent
    exact ih (h.accept htoken) hrest

/-- At its end only the tags are closed that are still open. -/
theorem finish_eq (h : b.Standalone rs) :
    b.finish = b.abandon (bytes b.source) b.stack.length := by
  rw [finish, bytes_ofList]
  simp only [(h.abandon (bytes b.source) b.stack.length).ignored]

theorem behind (h : b.Standalone rs) (hfront : front.ignored = none) :
    (Builder.behind front q b).Standalone rs :=
  ⟨h.resolvers, h.extended, by simp [Builder.behind, hfront, h.ignored]⟩

end Standalone

theorem Reading.foldl_accept (h : b.Reading source.toList)
    (hplaced : ∀ t ∈ tokens, t.Placed source.toList) :
    (tokens.foldl Builder.accept b).Reading source.toList := by
  induction tokens generalizing b with
  | nil => exact h
  | cons token rest ih =>
    obtain ⟨htoken, hrest⟩ := List.forall_mem_cons.1 hplaced
    exact ih (h.accept htoken) hrest

/-! ## Issues behind others -/

/-- What is known of a source read on its own, and of its tokens. -/
structure Readable (source : String) (tokens : List Token) : Prop where
  placed : ∀ t ∈ tokens, t.Placed source.toList
  independent : ∀ t ∈ tokens, t.Independent

theorem Readable.tail {token : Token} (h : Readable source (token :: tokens)) :
    Readable source tokens :=
  ⟨fun t ht => h.placed t (List.mem_cons_of_mem _ ht),
    fun t ht => h.independent t (List.mem_cons_of_mem _ ht)⟩

section Behind

variable (h : Readable source tokens) (hfront : front.Closed rs) (hignored : front.ignored = none)

include h hfront hignored

/-- **Behind another source** that has left nothing open a source has the issues
it has alone. -/
theorem Readable.issues_behind (hcovers : Covers front.source q source.toList)
    (hend : bytes front.source = q.offset + bytes source.toList) :
    ((tokens.map (Token.relocate (.behind q))).foldl accept front).finish.issues.toList =
      front.issues.toList ++ (issuesOf rs source tokens).map (Issue.behind q) := by
  rw [hfront.foldl_accept hcovers h.placed fun t ht => (h.independent t ht).free _, issuesOf]
  have hreading := Reading.foldl_accept (b := start rs source) ⟨rfl, List.forall_mem_nil _⟩ h.placed
  have halone := (Standalone.start rs source).foldl_accept h.independent
  generalize tokens.foldl accept (start rs source) = b at hreading halone
  have hstop : Edge source.toList (bytes source.toList) := ⟨_, List.prefix_rfl, rfl⟩
  have hclosed := behind_abandon hcovers hreading hstop b.stack.length
  have hsource : (behind front q b).source = front.source := rfl
  have hdepth : (behind front q b).stack.length = b.stack.length := List.length_map _
  rw [(halone.behind hignored).finish_eq, halone.finish_eq, hsource, hend, hdepth,
    hreading.source_eq, hclosed]
  simp [behind]

/-- The same in the place where it was read. -/
theorem Readable.issues_origin (hsource : front.source = source.toList) :
    (tokens.foldl accept front).finish.issues.toList =
      front.issues.toList ++ issuesOf rs source tokens := by
  have hbehind := h.issues_behind hfront hignored (q := .origin)
    (hsource ▸ covers_refl source.toList) (by simp [hsource, Position.origin])
  rwa [List.map_congr_left fun t ht => (h.placed t ht).relocate_origin, List.map_id',
    List.map_id'' Issue.behind_origin] at hbehind

end Behind

variable {s₁ s₂ : String} {tokens₁ tokens₂ joined : List Token}

/-- A text outside all tags adds no issue, and none depends on it. -/
theorem Readable.issuesOf_text {body : String}
    (h : Readable source (⟨.text body, span, position⟩ :: tokens)) :
    issuesOf rs source (⟨.text body, span, position⟩ :: tokens) = issuesOf rs source tokens := by
  have hclosed := (closed_start rs source).addText span body position
  have halone := (Standalone.start rs source).addNode (.text span body) position
  obtain ⟨-, hsource⟩ := (closed_start rs source).root_addNode (.text span body) position
  rw [issuesOf, List.foldl_cons]
  exact (h.tail.issues_origin hclosed halone.ignored hsource).trans
    (by rw [issues_addNode]; rfl)

/-- Where the source ends outside all tags, its issues are those found in its
tokens. -/
theorem Standalone.issues_finish (h : b.Standalone rs) (hstack : b.stack = []) :
    b.finish.issues = b.issues := by
  rw [h.finish_eq, hstack]
  rfl

/-- **The issues of two sources** one behind the other. -/
theorem issuesOf_joined
    (hjoined : Token.Joined (Position.origin.advanceBy s₁.toList) tokens₁
      (tokens₂.map (Token.relocate (.behind (Position.origin.advanceBy s₁.toList)))) joined)
    (h₁ : Readable s₁ tokens₁) (h₂ : Readable s₂ tokens₂)
    (hstack : (tokens₁.foldl accept (start rs s₁)).stack = []) :
    issuesOf rs (s₁ ++ s₂) joined = issuesOf rs s₁ tokens₁ ++
      (issuesOf rs s₂ tokens₂).map (Issue.behind (Position.origin.advanceBy s₁.toList)) := by
  have hfirst : issuesOf rs s₁ tokens₁ = (tokens₁.foldl accept (start rs s₁)).issues.toList :=
    congrArg Array.toList
      (((Standalone.start rs s₁).foldl_accept h₁.independent).issues_finish hstack)
  generalize hq : Position.origin.advanceBy s₁.toList = q at hjoined
  have hsource : (start rs (s₁ ++ s₂)).source = s₁.toList ++ s₂.toList := String.toList_append
  have hend : bytes (start rs (s₁ ++ s₂)).source = q.offset + bytes s₂.toList := by
    simp [hsource, ← hq, Position.origin]
  -- the first source is built from the start, whatever is left off at its end
  have hbegin : ∀ xs ⊆ tokens₁, xs.foldl accept (start rs (s₁ ++ s₂)) =
      behind (start rs (s₁ ++ s₂)) .origin (xs.foldl accept (start rs s₁)) :=
    fun xs hxs => (closed_start rs _).foldl_accept_origin (hsource ▸ covers_append _ _)
      (fun t ht => h₁.placed t (hxs ht)) fun t ht => (h₁.independent t (hxs ht)).free _
  have hsecond : Covers (start rs (s₁ ++ s₂)).source q s₂.toList :=
    hsource ▸ hq ▸ covers_behind _ _
  have hissues : ∀ b : Builder,
      (behind (start rs (s₁ ++ s₂)) .origin b).issues.toList = b.issues.toList := by
    intro b
    simp only [behind, start, Array.toList_append, Array.toList_map, List.nil_append]
    exact List.map_id'' Issue.behind_origin _
  generalize hmoved : tokens₂.map (Token.relocate (.behind q)) = moved at hjoined
  cases hjoined with
  | apart =>
    have halone := (Standalone.start rs s₁).foldl_accept h₁.independent
    have hfront : (behind (start rs (s₁ ++ s₂)) .origin _).Standalone rs := halone.behind rfl
    have hclosed : (behind (start rs (s₁ ++ s₂)) .origin _).Closed rs :=
      (halone.closed hstack).behind
    rw [issuesOf, List.foldl_append, hbegin _ (List.Subset.refl _), ← hmoved,
      h₂.issues_behind hclosed hfront.ignored hsecond hend, hissues, hfirst]
  | @merged xs ys p stop u v =>
    obtain ⟨⟨piece, span, position⟩, rest, rfl, htoken, rfl⟩ := List.map_eq_cons_iff.1 hmoved
    obtain rfl : piece = .text v := congrArg Token.piece htoken
    have hxs : xs ⊆ xs ++ [⟨.text u, ⟨p.offset, q.offset⟩, p⟩] := List.subset_append_left _ _
    have halone := (Standalone.start rs s₁).foldl_accept fun t ht => h₁.independent t (hxs ht)
    rw [List.foldl_append] at hstack hfirst
    have hopen := (halone.addNode (.text ⟨p.offset, q.offset⟩ u) p).closed hstack
    have hclosed : (behind (start rs (s₁ ++ s₂)) .origin _).Closed rs :=
      (closed_of_addText hopen).behind
    have hbefore : (behind (start rs (s₁ ++ s₂)) .origin _).Standalone rs := halone.behind rfl
    have hfront := hbefore.addNode (.text ⟨p.offset, stop⟩ (u ++ v)) p
    obtain ⟨-, hsame⟩ := hclosed.root_addNode (.text ⟨p.offset, stop⟩ (u ++ v)) p
    rw [h₂.issuesOf_text, issuesOf, List.foldl_append, List.foldl_cons, hbegin xs hxs, accept,
      h₂.tail.issues_behind (hclosed.addText _ _ _) hfront.ignored (hsame ▸ hsecond) (hsame ▸ hend),
      issues_addNode, hissues, hfirst, List.foldl_cons, List.foldl_nil, accept, issues_addNode]

end Builder

/-- A source that can be cut into tokens has the issues found in them. -/
theorem Engine.validate_eq {e : Engine} {source : String} {tokens : List Token}
    (h : Token.read e.options.delimiters source = .ok tokens) :
    e.validate source = Builder.issuesOf e.resolvers source tokens := by
  rw [validate, Tree.parse, h]
  rfl

/-- **The issues of two sources put together** are those of the first and
then those of the second, moved on. The first may be as broken as it likes, as
long as it ends outside all tags; nothing new may come about at the seam, and
no tag extends a template or names a block. -/
theorem Engine.validate_append {e : Engine} (hdelimiters : e.options.delimiters = .standard)
    {s₁ s₂ : String} {tokens₁ tokens₂ : List Token}
    (h₁ : Token.read .standard s₁ = .ok tokens₁) (h₂ : Token.read .standard s₂ = .ok tokens₂)
    (hindependent₁ : ∀ t ∈ tokens₁, t.Independent) (hindependent₂ : ∀ t ∈ tokens₂, t.Independent)
    (hslash : ¬ (s₁.toList.getLast? = some '\\' ∧ ['\x7b', '~'] <+: s₂.toList))
    (hbrace : ¬ (s₁.toList.getLast? = some '\x7b' ∧ s₂.toList.head? = some '~'))
    (hstack : (tokens₁.foldl Builder.accept (.start e.resolvers s₁)).stack = []) :
    (∃ tokens, Token.read .standard (s₁ ++ s₂) = .ok tokens) ∧
      e.validate (s₁ ++ s₂) = e.validate s₁ ++
        (e.validate s₂).map (Issue.behind (Position.origin.advanceBy s₁.toList)) := by
  obtain ⟨joined, hread, hjoined⟩ := Token.read_append Delimiters.apart_standard h₁ h₂
    (Delimiters.unjoined_standard hslash hbrace)
  obtain ⟨-, hplaced₁⟩ := Token.readFrom_relocate Delimiters.apart_standard h₁ .origin
  obtain ⟨-, hplaced₂⟩ := Token.readFrom_relocate Delimiters.apart_standard h₂ .origin
  rw [validate_eq (hdelimiters ▸ hread), validate_eq (hdelimiters ▸ h₁),
    validate_eq (hdelimiters ▸ h₂)]
  exact ⟨⟨joined, hread⟩, Builder.issuesOf_joined hjoined ⟨hplaced₁, hindependent₁⟩
    ⟨hplaced₂, hindependent₂⟩ hstack⟩

namespace Sample

/-- A variable without a name, a condition that cannot be read, and an unknown
tag in it that is never closed. -/
def unsound : String :=
  tagged "prompty.var /" ++ tagged "prompty.if eval=\"a &&\"" ++ tagged "x" ++
    tagged "/prompty.if" ++ "\nDear "

/-- The closing tag of a loop that there is not. -/
def unopened : String :=
  "you," ++ tagged "/prompty.for"

theorem exists_independent {source : String}
    (h : ((Token.read .standard source).toOption.any fun tokens =>
      tokens.all (·.Independent) &&
        (tokens.foldl Builder.accept (.start .builtin source)).stack.isEmpty) = true) :
    ∃ tokens, Token.read .standard source = .ok tokens ∧ (∀ t ∈ tokens, t.Independent) ∧
      (tokens.foldl Builder.accept (.start .builtin source)).stack = [] := by
  cases hread : Token.read .standard source with
  | error failure =>
    rw [hread] at h
    cases h
  | ok tokens =>
    rw [hread] at h
    obtain ⟨hall, hempty⟩ := Bool.and_eq_true_iff.1 h
    exact ⟨tokens, rfl, by simpa using hall, List.isEmpty_iff.1 hempty⟩

/-- **What is wrong before** has no part in what is said of what follows. -/
theorem validate_append_unopened :
    (Engine.validate {} unsound).map (fun issue => (issue.severity, issue.line, issue.column)) =
        [(.error, 1, 1), (.error, 1, 18), (.warning, 1, 44), (.error, 1, 49), (.error, 1, 44)] ∧
      Engine.validate {} (unsound ++ unopened) = Engine.validate {} unsound ++
        [⟨.error, "unmatched closing tag for prompty.for", 2, 10, some "prompty.for"⟩] := by
  obtain ⟨tokens₁, hread₁, hindependent₁, hstack⟩ :=
    @exists_independent unsound (by decide +kernel)
  obtain ⟨tokens₂, hread₂, hindependent₂, -⟩ := @exists_independent unopened (by decide +kernel)
  have hslash : ¬ (unsound.toList.getLast? = some '\\' ∧
      ['\x7b', '~'] <+: unopened.toList) := by decide +kernel
  have hbrace : ¬ (unsound.toList.getLast? = some '\x7b' ∧
      unopened.toList.head? = some '~') := by decide +kernel
  obtain ⟨-, happend⟩ := @Engine.validate_append {} rfl _ _ _ _ hread₁ hread₂ hindependent₁
    hindependent₂ hslash hbrace hstack
  have hunopened : (Engine.validate {} unopened).map
        (Issue.behind (Position.origin.advanceBy unsound.toList)) =
      [⟨.error, "unmatched closing tag for prompty.for", 2, 10, some "prompty.for"⟩] := by
    decide +kernel
  exact ⟨by decide +kernel, happend.trans (congrArg _ hunopened)⟩

end Sample

end PromptMarkup
