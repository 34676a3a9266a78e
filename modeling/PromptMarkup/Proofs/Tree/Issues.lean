import PromptMarkup.Proofs.Tree.Demands
import PromptMarkup.Proofs.Tree.Taking
/-!
# Tree — the issues of a token

A token that is taken without an error may still be remarked upon: a loop for
want of a limit, a tag for want of a resolver (`Token.remark?`). An accepted
template has these remarks and no others, in the order of its tokens
(`Template.issues_of_parse`). Any other token adds the issues of its own
problems first, where it stands, and whatever it closes comes after them
(`Builder.exists_adds`). No issue is ever taken back.
-/

namespace PromptMarkup

/-- What is remarked of a tag though it is no error: that a loop has no limit,
or that there is no resolver for a tag. -/
def Token.remark? (rs : Resolvers) (token : Token) : Option Problem :=
  match token.piece with
  | .opening _ tag attrs =>
    if tag = Tag.forTag then if attrs.has "limit" then none else some .noLimit
    else if tag ∈ Tag.structural ∨ rs.has tag then none else some (.unknownTag tag)
  | _ => none

/-- Something is remarked of the token. -/
def Token.isRemarked (rs : Resolvers) (token : Token) : Bool :=
  (token.remark? rs).isSome

/-- Only tags are remarked upon. -/
theorem Token.isSome_tag?_of_isRemarked {rs : Resolvers} {token : Token}
    (h : token.isRemarked rs) : token.piece.tag?.isSome := by
  obtain ⟨piece, span, position⟩ := token
  cases piece with
  | opening | closing => rfl
  | text | comment => cases h

/-- The issue of it. -/
def Token.remark (rs : Resolvers) (token : Token) : List Issue :=
  (token.remark? rs).toList.map (·.issue token.position token.piece.tag?)

namespace Builder

variable {b b' : Builder} {attrs : Attributes} {span : Span} {position : Position}
  {shape : TagShape} {tag : String} {o : Opening} {token : Token} {tokens : List Token}

/-! ## Remarks of tokens that are taken -/

theorem strategyOf_eq_nil (h : Harmless (strategyOf attrs).2) : (strategyOf attrs).2 = [] := by
  rw [strategyOf] at h ⊢
  split
  · rfl
  · next raw hraw =>
    simp only [hraw] at h
    split at h
    · rfl
    · simp [Problem.severity] at h

/-- A loop that is in order has a limit, or is remarked to have none. -/
theorem limitOf_eq (h : Harmless (limitOf attrs).2) :
    (limitOf attrs).2 = if attrs.has "limit" then [] else [.noLimit] := by
  rw [limitOf] at h ⊢
  rw [Attributes.has]
  split
  · next hnone => simp [hnone]
  · next raw hraw =>
    simp only [hraw] at h
    split at h
    · simp [hraw]
    · simp [Problem.severity] at h

/-- A tag that resolvers accept has one of them, or is remarked to have none. -/
theorem resolverProblems_eq (h : b.resolvers.Accept shape tag attrs) :
    b.resolverProblems shape tag attrs =
      if b.resolvers.has tag then [] else [.unknownTag tag] := by
  rw [resolverProblems, Keyed.has]
  cases hfind : Keyed.find? b.resolvers tag with
  | none => rfl
  | some r =>
    obtain ⟨hshape, hvalid⟩ := h r hfind
    simp [hshape, hvalid]

theorem remark?_of_structural (hstructural : tag ∈ Tag.structural) (hloop : tag ≠ Tag.forTag)
    (rs : Resolvers) (shape : TagShape) (attrs : Attributes) (span : Span) (position : Position) :
    Token.remark? rs ⟨.opening shape tag attrs, span, position⟩ = none := by
  simp only [Token.remark?, if_neg hloop, hstructural, true_or, if_true]

theorem remark?_of_not_structural (hname : tag ∉ Tag.structural) (rs : Resolvers)
    (shape : TagShape) (attrs : Attributes) (span : Span) (position : Position) :
    Token.remark? rs ⟨.opening shape tag attrs, span, position⟩ =
      if rs.has tag then none else some (.unknownTag tag) := by
  have hloop : tag ≠ Tag.forTag := fun h => hname (h ▸ by decide)
  simp only [Token.remark?, if_neg hloop, hname, false_or]

/-- **What a tag that opens without an error is remarked for.** -/
theorem Opens.problems_eq (h : b.Opens attrs span position shape tag o) :
    (b.opening shape tag attrs span position).2 =
      (Token.remark? b.resolvers ⟨.opening shape tag attrs, span, position⟩).toList := by
  have hother : ∀ {shape tag}, tag ∉ Tag.structural → Harmless (strategyOf attrs).2 →
      b.resolvers.Accept shape tag attrs → (b.opening shape tag attrs span position).2 =
        (Token.remark? b.resolvers ⟨.opening shape tag attrs, span, position⟩).toList := by
    intro shape tag hname hstrategy hresolver
    rw [opening_other hname, remark?_of_not_structural hname]
    have hproblems : (b.openOther shape tag attrs span position).2 =
        b.resolverProblems shape tag attrs ++ (strategyOf attrs).2 := by
      cases shape <;> rfl
    rw [hproblems, strategyOf_eq_nil hstrategy, resolverProblems_eq hresolver, List.append_nil]
    split <;> rfl
  cases h with
  | var hstrategy hpath =>
    rw [opening_var, remark?_of_structural (by decide) (by decide)]
    simp [inShape, openVar, infoOf, hpath, strategyOf_eq_nil hstrategy]
  | inclusion hstrategy htemplate =>
    rw [opening_inclusion, remark?_of_structural (by decide) (by decide)]
    simp [inShape, openInclusion, infoOf, htemplate, strategyOf_eq_nil hstrategy]
  | parent hinside hextended =>
    rw [opening_parent, remark?_of_structural (by decide) (by decide)]
    simp [inShape, openParent, hinside, hextended]
  | tag hstrategy hname hresolver => exact hother hname hstrategy hresolver
  | choice hstrategy hsource hcondition =>
    rw [opening_choice, remark?_of_structural (by decide) (by decide)]
    simp [inShape, openChoice, infoOf, branchOf, hsource, hcondition, strategyOf_eq_nil hstrategy]
  | loop hstrategy hitem hsource hlimit =>
    rw [opening_loop]
    simp only [inShape, openLoop, infoOf, missing, hitem, hsource, Option.isSome_some, if_true,
      strategyOf_eq_nil hstrategy, limitOf_eq hlimit, Token.remark?, List.nil_append]
    split <;> rfl
  | block hstrategy hname hnew =>
    rw [opening_block, remark?_of_structural (by decide) (by decide)]
    simp [inShape, openBlock, hname, hnew, strategyOf_eq_nil hstrategy]
  | message hstrategy hrole hknown houtside =>
    rw [opening_message, remark?_of_structural (by decide) (by decide)]
    simp [inShape, openMessage, hrole, hknown, houtside, strategyOf_eq_nil hstrategy]
  | blockTag hstrategy hname hresolver => exact hother hname hstrategy hresolver

theorem issues_report (problems : List Problem) (position : Position) (tag : String) :
    (b.report problems position tag).issues.toList =
      b.issues.toList ++ problems.map (·.issue position (some tag)) := by
  simp [report]

theorem issues_addOpening (problems : List Problem) (o : Opening) :
    (b.addOpening tag span position (o, problems)).issues =
      (b.report problems position tag).issues := by
  cases o with
  | nothing => rfl
  | node node => exact issues_addNode node
  | frame kind => cases kind <;> rfl

/-- **A token that is taken is remarked upon**, and no more. -/
theorem Takes.issues_eq (h : b.Takes token b') :
    b'.issues.toList = b.issues.toList ++ token.remark b.resolvers := by
  cases h with
  | text => simp [Token.remark, Token.remark?]
  | comment => simp [Token.remark, Token.remark?]
  | opening hopens =>
    rw [issues_addOpening, issues_report, hopens.problems_eq]
    rfl
  | close => simp [Token.remark, Token.remark?]
  | closeBranch => simp [Token.remark, Token.remark?]
  | extending =>
    rw [Token.remark, remark?_of_structural (by decide) (by decide)]
    simp
  | elseIf =>
    rw [Token.remark, remark?_of_structural (by decide) (by decide)]
    simp [nextBranch]
  | otherwise =>
    rw [Token.remark, remark?_of_structural (by decide) (by decide)]
    simp [nextBranch]

/-- **So are all of them**, one after another. -/
theorem TakesAll.issues_eq (h : TakesAll b tokens b') :
    b'.issues.toList = b.issues.toList ++ tokens.flatMap (Token.remark b.resolvers) := by
  induction h with
  | nil => simp
  | cons htakes _ ih =>
    rw [ih, htakes.issues_eq, ← htakes.accept_eq, resolvers_accept, List.flatMap_cons,
      List.append_assoc]

/-! ## Issues of any tokens -/

/-- Issues of later tags follow. -/
theorem issues_abandon (b : Builder) (stop count : Nat) :
    b.issues.toList <+: (b.abandon stop count).issues.toList := by
  induction count generalizing b with
  | zero => exact List.prefix_rfl
  | succ count ih =>
    refine List.IsPrefix.trans ?_ (ih (b.abandonFrame stop))
    rw [abandonFrame]
    split
    · exact List.prefix_rfl
    · rw [issues_closeFrame, issues_report]
      exact List.prefix_append _ _

/-- The issues that a token adds: those of its own problems where it stands,
and then, if one of these is an error, those of frames that it closes. -/
structure Adds (b : Builder) (token : Token) (b' : Builder) (problems : List Problem)
    (later : List Issue) : Prop where
  issues : b'.issues.toList = b.issues.toList ++
    (problems.map (·.issue token.position token.piece.tag?) ++ later)
  later : Harmless problems → later = []
  tag : problems ≠ [] → token.piece.tag?.isSome

theorem adds_nothing (h : b'.issues = b.issues) : b.Adds token b' [] [] where
  issues := by simp [h]
  later _ := rfl
  tag hne := absurd rfl hne

theorem adds_of_report {piece : Piece} (htag : piece.tag? = some tag) {problems : List Problem}
    (h : b'.issues = (b.report problems position tag).issues) :
    b.Adds ⟨piece, span, position⟩ b' problems [] where
  issues := by rw [h, issues_report, htag, List.append_nil]
  later _ := rfl
  tag _ := by rw [htag]; rfl

theorem exists_adds_branch : ∃ problems, b.Adds ⟨.opening shape tag attrs, span, position⟩
    (b.branch tag attrs position) problems [] := by
  simp only [branch]
  split
  · split
    · split <;> exact ⟨_, adds_of_report rfl rfl⟩
    · exact ⟨_, adds_of_report rfl rfl⟩
  · exact ⟨_, adds_of_report rfl rfl⟩

theorem exists_adds_extending : ∃ problems,
    b.Adds ⟨.opening shape Tag.extendsTag attrs, span, position⟩
      (b.extending shape attrs span position) problems [] := by
  simp only [extending]
  split
  · exact ⟨_, adds_of_report rfl (issues_addOpening _ _)⟩
  · split
    · exact ⟨_, adds_of_report rfl rfl⟩
    · split
      · exact ⟨_, adds_of_report rfl rfl⟩
      · split
        · exact ⟨_, adds_of_report rfl rfl⟩
        · exact ⟨_, adds_nothing rfl⟩

theorem exists_adds_close : ∃ problems later,
    b.Adds ⟨.closing tag, span, position⟩ (b.close tag span position) problems later := by
  simp only [Builder.close]
  split
  · next count _ =>
    split
    · next hinner =>
      refine ⟨_, _, adds_nothing ?_⟩
      rw [hinner, issues_closeFrame]
      rfl
    · -- the closing tag is reported before the frames that it closes
      obtain ⟨later, hlater⟩ :=
        issues_abandon (b.report [.unmatchedClosing tag] position tag) span.start count
      refine ⟨[.unmatchedClosing tag], later, ?_, fun h => ?_, fun _ => rfl⟩
      · rw [issues_closeFrame, ← hlater, issues_report, List.append_assoc]
        rfl
      · exact absurd rfl (harmless_cons.1 h).1
  · split
    · exact ⟨_, _, adds_nothing rfl⟩
    · exact ⟨_, _, adds_of_report rfl rfl⟩

/-- **A token adds issues where it stands**, before all others. -/
theorem exists_adds (b : Builder) (token : Token) :
    ∃ problems later, b.Adds token (b.accept token) problems later := by
  obtain ⟨piece, span, position⟩ := token
  cases piece with
  | text body => exact ⟨_, _, adds_nothing (issues_addNode _)⟩
  | comment body => exact ⟨_, _, adds_nothing (issues_addNode _)⟩
  | closing name => exact exists_adds_close
  | opening shape tag attrs =>
    simp only [accept, openTag]
    split
    · obtain ⟨problems, h⟩ := @exists_adds_branch b attrs span position shape tag
      exact ⟨problems, [], h⟩
    · split
      · next hextends =>
        subst hextends
        obtain ⟨problems, h⟩ := @exists_adds_extending b attrs span position shape
        exact ⟨problems, [], h⟩
      · exact ⟨_, _, adds_of_report rfl (issues_addOpening _ _)⟩

/-- No issue is taken back, -/
theorem issues_prefix_accept (b : Builder) (token : Token) :
    b.issues.toList <+: (b.accept token).issues.toList := by
  obtain ⟨problems, later, hadds⟩ := exists_adds b token
  rw [hadds.issues]
  exact List.prefix_append _ _

theorem issues_prefix_foldl (b : Builder) (tokens : List Token) :
    b.issues.toList <+: (tokens.foldl accept b).issues.toList := by
  induction tokens generalizing b with
  | nil => exact List.prefix_rfl
  | cons token rest ih => exact (issues_prefix_accept b token).trans (ih _)

/-- not even at the end, when the open frames have been closed. -/
theorem issues_abandon_prefix_finish (b : Builder) :
    ∃ stop, (b.abandon stop b.stack.length).issues.toList <+: b.finish.issues.toList := by
  refine ⟨(String.ofList b.source).utf8ByteSize, ?_⟩
  simp only [finish]
  split
  · rw [Array.toList_push]
    exact List.prefix_append _ _
  · exact List.prefix_rfl

theorem issues_prefix_finish (b : Builder) : b.issues.toList <+: b.finish.issues.toList := by
  obtain ⟨stop, hfinish⟩ := issues_abandon_prefix_finish b
  exact (issues_abandon b stop _).trans hfinish

/-- The issues of a source that has been cut into these tokens. -/
def issuesOf (rs : Resolvers) (source : String) (tokens : List Token) : List Issue :=
  (tokens.foldl accept (start rs source)).finish.issues.toList

end Builder

/-- **The issues of an accepted template** are the remarks on its tokens, and at
the end one on content that will be ignored. -/
theorem Template.issues_of_parse {d : Delimiters} {rs : Resolvers} {name source : String}
    {t : Template} (h : parse d rs name source = .ok t) :
    ∃ tokens ignored, Token.read d source = .ok tokens ∧
      t.issues = tokens.flatMap (Token.remark rs) ++
        (ignored : Option Position).toList.map (Problem.ignoredContent.issue · none) := by
  obtain ⟨tokens, b, hread, htakes, hstack, rfl⟩ := parse_eq_ok_iff.1 h
  have hissues : b.issues.toList = tokens.flatMap (Token.remark rs) := htakes.issues_eq
  refine ⟨tokens, b.ignored, hread, ?_⟩
  simp only [Builder.finish, hstack, List.length_nil, Builder.abandon]
  cases b.ignored with
  | none => simp [hissues]
  | some position => simp [hissues]

end PromptMarkup
