import PromptMarkup.Proofs.Inherit.Effective
import PromptMarkup.Proofs.Token.Refusal
import PromptMarkup.Proofs.Tree.Branches
import PromptMarkup.Proofs.Tree.Issues
/-!
# Tree — where a rejection points

A rejected source comes with all that was found in it. The rejection is told in
the words of the first error, and it points at the first issue, of whatever
severity. The two are in one place only if nothing before the tag of that error
was remarked upon (`Template.points_iff`): a loop without a limit or a tag
without a resolver, further up, is pointed at instead.
-/

namespace PromptMarkup

/-- The line and the column. -/
def Position.place (p : Position) : Nat × Nat :=
  (p.line, p.column)

/-- The line and the column. -/
def Issue.place (issue : Issue) : Nat × Nat :=
  (issue.line, issue.column)

namespace Builder

variable {b b' : Builder} {position : Position} {token : Token} {tokens : List Token}

/-! ## Open frames -/

theorem positions_addNode (node : Node) (position : Position) :
    (b.addNode node position).stack.map Frame.position = b.stack.map Frame.position := by
  unfold addNode
  split
  · next hstack => rw [hstack]; rfl
  · rfl

theorem positions_closeFrame (stop : Nat) :
    (b.closeFrame stop).stack.map Frame.position = (b.stack.map Frame.position).tail := by
  rw [closeFrame]
  split
  · next hstack => rw [hstack]; rfl
  · next frame outer hstack =>
    simp only [hstack]
    split
    · rw [positions_addNode]; rfl
    · rfl

theorem positions_nextBranch {frame : Frame} {outer : List Frame}
    (hstack : b.stack = frame :: outer) (info : NodeInfo) (done : List Branch)
    (current : OpenBranch) (next : Option OpenBranch) :
    (b.nextBranch frame outer info done current next).stack.map Frame.position =
      b.stack.map Frame.position := by
  rw [hstack]
  rfl

/-- **A frame stands where its tag does.** -/
theorem Takes.positions (h : b.Takes token b') {p : Position}
    (hp : p ∈ b'.stack.map Frame.position) :
    p ∈ b.stack.map Frame.position ∨ token.piece.tag?.isSome ∧ token.position = p := by
  cases h with
  | text => exact .inl (positions_addNode _ _ ▸ hp)
  | comment => exact .inl (positions_addNode _ _ ▸ hp)
  | @opening shape name attrs span position o hopens =>
    cases o with
    | nothing => exact .inl hp
    | node node =>
      exact .inl (positions_addNode (b := b.report _ position name) node position ▸ hp)
    | frame kind =>
      have hpushed : (b.addOpening name span position (.frame kind,
          (b.opening shape name attrs span position).2)).stack.map Frame.position =
            position :: b.stack.map Frame.position := by
        cases kind <;> rfl
      rw [hpushed] at hp
      exact (List.mem_cons.1 hp).elim (fun hnew => .inr ⟨rfl, hnew.symm⟩) .inl
  | extending => exact .inl hp
  | elseIf hstack => exact .inl (positions_nextBranch hstack _ _ _ _ ▸ hp)
  | otherwise hstack => exact .inl (positions_nextBranch hstack _ _ _ _ ▸ hp)
  | close => exact .inl (List.mem_of_mem_tail (positions_closeFrame _ ▸ hp))
  | closeBranch => exact .inl hp

/-- So each open frame has a tag among the tokens that were taken. -/
theorem TakesAll.positions (h : TakesAll b tokens b') {p : Position}
    (hp : p ∈ b'.stack.map Frame.position) :
    p ∈ b.stack.map Frame.position ∨
      ∃ token ∈ tokens, token.piece.tag?.isSome ∧ token.position = p := by
  induction h with
  | nil => exact .inl hp
  | cons htakes _ ih =>
    obtain hbefore | ⟨token, htoken, hplaced⟩ := ih hp
    · exact (htakes.positions hbefore).imp_right fun hplaced =>
        ⟨_, List.mem_cons_self, hplaced⟩
    · exact .inr ⟨token, List.mem_cons_of_mem _ htoken, hplaced⟩

/-! ## The first error -/

instance (b : Builder) : Decidable b.Clean :=
  inferInstanceAs (Decidable (∀ issue ∈ b.issues.toList, issue.isError = false))

/-- The tokens up to the first with an error. -/
def untilError (b : Builder) : List Token → List Token
  | [] => []
  | token :: rest =>
    if (b.accept token).Clean then token :: (b.accept token).untilError rest else [token]

theorem untilError_prefix (b : Builder) (tokens : List Token) : b.untilError tokens <+: tokens := by
  induction tokens generalizing b with
  | nil => exact List.prefix_rfl
  | cons token rest ih =>
    rw [untilError]
    split
    · exact List.cons_prefix_cons.2 ⟨rfl, ih _⟩
    · exact List.cons_prefix_cons.2 ⟨rfl, List.nil_prefix⟩

/-- They are all tokens, if none has an error, or those before such a token and
it. -/
theorem untilError_cases (hb : b.Clean) (tokens : List Token) :
    (tokens.foldl accept b).Clean ∧ b.untilError tokens = tokens ∨
      ∃ before token after, tokens = before ++ token :: after ∧
        b.untilError tokens = before ++ [token] ∧ (before.foldl accept b).Clean ∧
        ¬ ((before.foldl accept b).accept token).Clean := by
  induction tokens generalizing b with
  | nil => exact .inl ⟨hb, rfl⟩
  | cons token rest ih =>
    rw [untilError]
    split
    · next hclean =>
      obtain ⟨hall, heq⟩ | ⟨before, culprit, after, rfl, heq, hbefore, hculprit⟩ := ih hclean
      · exact .inl ⟨hall, by rw [heq]⟩
      · exact .inr ⟨token :: before, culprit, after, rfl, by rw [heq]; rfl, hbefore, hculprit⟩
    · next herror => exact .inr ⟨[], token, rest, rfl, rfl, hb, herror⟩

/-- What is found once there is an error: it is the first one, and what stands
at the head is either an earlier remark or in its place. -/
structure Found (remarks : List Issue) (position : Position) (issues : List Issue) : Prop where
  first : ∃ first, issues.find? Issue.isError = some first ∧ first.place = position.place
  head : issues.head?.map Issue.place = (remarks.head?.map Issue.place).or (some position.place)

/-- Errors of one place come first behind what is no error. -/
theorem found_of_issues {remarks new later : List Issue}
    (hremarks : ∀ issue ∈ remarks, issue.isError = false)
    (hnew : ∀ issue ∈ new, issue.place = position.place) (herror : ∃ issue ∈ new, issue.isError) :
    Found remarks position (remarks ++ (new ++ later)) := by
  obtain ⟨error, hmem, herror⟩ := herror
  have hnone : remarks.find? Issue.isError = none := by simpa using hremarks
  obtain ⟨first, hfirst⟩ : ∃ first, new.find? Issue.isError = some first :=
    Option.isSome_iff_exists.1 (List.find?_isSome.2 ⟨error, hmem, herror⟩)
  refine ⟨⟨first, ?_, hnew first (List.mem_of_find?_eq_some hfirst)⟩, ?_⟩
  · rw [List.find?_append, List.find?_append, hnone, hfirst]
    rfl
  · have hhead : (new ++ later).head?.map Issue.place = some position.place := by
      cases new with
      | nil => cases hmem
      | cons issue rest => exact congrArg some (hnew issue List.mem_cons_self)
    rw [List.head?_append]
    cases remarks with
    | nil => exact hhead
    | cons remark rest => rfl

/-- Remarks in the same place may follow the others. -/
theorem Found.append {remarks own issues : List Issue} (h : Found remarks position issues)
    (hown : ∀ issue ∈ own, issue.place = position.place) :
    Found (remarks ++ own) position issues where
  first := h.first
  head := by
    rw [h.head, List.head?_append]
    cases remarks with
    | cons remark rest => rfl
    | nil =>
      cases own with
      | nil => rfl
      | cons issue rest => exact (congrArg some (hown issue List.mem_cons_self)).symm

/-- **The first error is where its token stands.** -/
theorem found_of_accept (hb : b.Clean) (herror : ¬ (b.accept token).Clean) {issues : List Issue}
    (hbegins : (b.accept token).issues.toList <+: issues) :
    Found b.issues.toList token.position issues ∧ token.piece.tag?.isSome := by
  obtain ⟨problems, later, hissues, hlater, htag⟩ := exists_adds b token
  obtain ⟨more, rfl⟩ := hbegins
  have hharmful : ¬ Harmless problems := by
    intro hharmless
    refine herror ?_
    rw [Clean, hissues, hlater hharmless, List.append_nil, List.forall_mem_append,
      List.forall_mem_map]
    refine ⟨hb, fun problem hproblem => ?_⟩
    simpa [Problem.issue, Issue.isError] using hharmless problem hproblem
  simp only [Harmless, ne_eq, not_forall, not_not] at hharmful
  obtain ⟨problem, hmem, hproblem⟩ := hharmful
  rw [hissues, List.append_assoc, List.append_assoc]
  refine ⟨found_of_issues hb ?_ ⟨_, List.mem_map_of_mem hmem, ?_⟩,
    htag (List.ne_nil_of_mem hmem)⟩
  · exact List.forall_mem_map.2 fun _ _ => rfl
  · simp [Problem.issue, Issue.isError, hproblem]

/-- At the end it is where the innermost open tag stands. -/
theorem found_of_finish (hb : b.Clean) {frame : Frame} {outer : List Frame}
    (hstack : b.stack = frame :: outer) :
    Found b.issues.toList frame.position b.finish.issues.toList := by
  obtain ⟨more, hmore⟩ : (b.report [.unclosed frame.tag] frame.position frame.tag).issues.toList <+:
      b.finish.issues.toList := by
    obtain ⟨stop, hfinish⟩ := issues_abandon_prefix_finish b
    refine List.IsPrefix.trans ?_ hfinish
    rw [hstack, List.length_cons, abandon, abandonFrame, hstack]
    refine List.IsPrefix.trans ?_ (issues_abandon _ stop outer.length)
    exact issues_closeFrame (b := b.report _ _ _) stop ▸ List.prefix_rfl
  rw [← hmore, issues_report, List.append_assoc]
  exact found_of_issues hb (List.forall_mem_singleton.2 rfl) ⟨_, List.mem_singleton_self _, rfl⟩

end Builder

/-! ## Places of tags -/

/-- A tag is before whatever is read behind it. -/
theorem Token.Laid.before {d : Delimiters} {c last : Cursor} {tokens : List Token}
    (hopening : d.opening.toList ≠ []) (h : Token.Laid d c tokens last) :
    (∀ t ∈ tokens, ∀ p : Position, p.Before c.position → p.Before t.position) ∧
      tokens.Pairwise fun t t' => t.piece.tag?.isSome → t.position.Before t'.position := by
  induction h with
  | nil => exact ⟨List.forall_mem_nil _, .nil⟩
  | @cons c first last piece body behind rest hfirst hbody htag _ ih =>
    obtain ⟨hlater, hpairwise⟩ := ih
    have hbehind : first.Onward (first.past body behind) := Cursor.onward_past hbody
    refine ⟨List.forall_mem_cons.2 ⟨fun p => hfirst.before, fun t ht p hp => ?_⟩,
      .cons (fun t ht hpiece => ?_) hpairwise⟩
    · exact hlater t ht p (hbehind.before (hfirst.before hp))
    · exact hlater t ht _ (Delimiters.before_past hopening (htag hpiece))

theorem Position.Before.place_ne {p q : Position} (h : p.Before q) : p.place ≠ q.place := by
  intro hsame
  obtain ⟨hline, hcolumn⟩ := Prod.mk.inj hsame
  rw [Before] at h
  omega

/-- **Tags are told apart by their places.** -/
theorem Token.eq_of_place {d : Delimiters} {source : String} {tokens : List Token}
    (hopening : d.opening.toList ≠ []) (hread : Token.read d source = .ok tokens) {t t' : Token}
    (ht : t ∈ tokens) (ht' : t' ∈ tokens) (htag : t.piece.tag?.isSome)
    (htag' : t'.piece.tag?.isSome) (hplace : t.position.place = t'.position.place) : t = t' := by
  obtain ⟨last, hlaid⟩ := Token.laid_read hread
  have hpairwise := List.pairwise_iff_getElem.1 (hlaid.before hopening).2
  obtain ⟨i, hi, rfl⟩ := List.mem_iff_getElem.1 ht
  obtain ⟨j, hj, rfl⟩ := List.mem_iff_getElem.1 ht'
  obtain hless | rfl | hmore := Nat.lt_trichotomy i j
  · exact absurd hplace (hpairwise i j hi hj hless htag).place_ne
  · rfl
  · exact absurd hplace.symm (hpairwise j i hj hi hmore htag').place_ne

/-! ## Rejections -/

/-- The errors are told by the first of them. -/
theorem Issue.summary_of_find? {issues : List Issue} {first : Issue}
    (h : issues.find? Issue.isError = some first) :
    ∃ more, Issue.summary issues = first.text ++ more := by
  rw [← List.head?_filter] at h
  obtain ⟨rest, hrest⟩ := List.head?_eq_some_iff.1 h
  rw [summary, hrest]
  cases rest with
  | nil => exact ⟨"", String.append_empty.symm⟩
  | cons second rest =>
    refine ⟨" (and " ++ (toString (second :: rest).length ++ " more)"), ?_⟩
    rw [← String.append_assoc, ← String.append_assoc]
    rfl

namespace Builder

variable {d : Delimiters} {rs : Resolvers} {source : String} {tokens : List Token}

/-- The first of the remarks is that of the first token that has one. -/
theorem head?_remarks (rs : Resolvers) (tokens : List Token) :
    (tokens.flatMap (Token.remark rs)).head?.map Issue.place =
      (tokens.find? (Token.isRemarked rs)).map (·.position.place) := by
  induction tokens with
  | nil => rfl
  | cons token rest ih =>
    rw [List.flatMap_cons, List.find?_cons, Token.remark, Token.isRemarked]
    cases hremark : token.remark? rs with
    | none => exact ih
    | some problem => rfl

/-- **The tag that a rejection is about** is among the tokens up to the first with
an error. The first error is in its place, and so is the first issue, unless one
of these tokens is remarked upon before it. -/
theorem exists_culprit (hread : Token.read d source = .ok tokens)
    (herror : ¬ (tokens.foldl accept (start rs source)).finish.Clean) :
    ∃ culprit ∈ (start rs source).untilError tokens, culprit.piece.tag?.isSome ∧
      Found (((start rs source).untilError tokens).flatMap (Token.remark rs)) culprit.position
        (issuesOf rs source tokens) := by
  have hbuilt := Token.built_of_read hread
  obtain ⟨hclean, hall⟩ | ⟨before, culprit, after, rfl, hseen, hclean, hculprit⟩ :=
    untilError_cases (clean_start rs source) tokens
  · -- no tag is in error, so one is still open at the end
    have htakes := takesAll_of_clean hbuilt hclean
    have hremarks : (tokens.foldl accept (start rs source)).issues.toList =
        tokens.flatMap (Token.remark rs) := htakes.issues_eq
    obtain ⟨frame, outer, hstack⟩ := List.exists_cons_of_ne_nil fun hstack =>
      herror (clean_finish.2 ⟨hclean, hstack⟩)
    have hopen : frame.position ∈
        (tokens.foldl accept (start rs source)).stack.map Frame.position := by simp [hstack]
    obtain hstart | ⟨culprit, hmem, htag, hplace⟩ := htakes.positions hopen
    · cases hstart
    · rw [hall, ← hremarks]
      exact ⟨culprit, hmem, htag, hplace ▸ found_of_finish hclean hstack⟩
  · have htakes := takesAll_of_clean (fun t ht => hbuilt t (List.mem_append_left _ ht)) hclean
    have hremarks : (before.foldl accept (start rs source)).issues.toList =
        before.flatMap (Token.remark rs) := htakes.issues_eq
    have hbegins : ((before.foldl accept (start rs source)).accept culprit).issues.toList <+:
        issuesOf rs source (before ++ culprit :: after) := by
      rw [issuesOf, List.foldl_append, List.foldl_cons]
      exact (issues_prefix_foldl _ after).trans (issues_prefix_finish _)
    obtain ⟨hfound, htag⟩ := found_of_accept hclean hculprit hbegins
    rw [hseen, List.flatMap_append, ← hremarks, List.flatMap_singleton]
    exact ⟨culprit, List.mem_append_right _ (List.mem_singleton_self _), htag,
      hfound.append (List.forall_mem_map.2 fun _ _ => rfl)⟩

end Builder

/-- A source is rejected with the issues of its tokens, some of them errors. -/
theorem Template.of_parse_invalid {d : Delimiters} {rs : Resolvers} {name source : String}
    {issues : List Issue} (h : parse d rs name source = .error (.invalid issues)) :
    ∃ tokens, Token.read d source = .ok tokens ∧
      ¬ (tokens.foldl Builder.accept (.start rs source)).finish.Clean ∧
      issues = Builder.issuesOf rs source tokens := by
  rw [parse, Tree.parse] at h
  cases hread : Token.read d source with
  | error failure =>
    rw [hread] at h
    obtain ⟨fault, position, rfl⟩ := Token.lexical_of_read hread
    cases h
  | ok tokens =>
    have hbuild : (Tree.build rs name source tokens).2 = Builder.issuesOf rs source tokens := rfl
    rw [hread] at h
    simp only [Except.map] at h
    split at h
    · next herror =>
      cases h
      refine ⟨tokens, rfl, fun hclean => ?_, rfl⟩
      rw [hbuild, List.any_eq_true] at herror
      obtain ⟨issue, hmem, hissue⟩ := herror
      rw [hclean issue hmem] at hissue
      cases hissue
    · cases h

/-- The place of a rejection is that of its first issue. -/
theorem Failure.position?_invalid_iff {issues : List Issue} {first : Issue} :
    (Failure.invalid issues).position? = some ⟨first.line, first.column, 0⟩ ↔
      issues.head?.map Issue.place = some first.place := by
  cases issues with
  | nil => exact iff_of_false nofun nofun
  | cons issue rest => simp [position?, Issue.place]

/-- **Where a rejection points**: at the tag of the first error, which its message
tells, if and only if no other of the tags up to the first error is remarked
upon, or only ones behind that tag. -/
theorem Template.points_iff {d : Delimiters} (hopening : d.opening.toList ≠ []) {rs : Resolvers}
    {name source : String} {issues : List Issue}
    (h : parse d rs name source = .error (.invalid issues)) :
    ∃ tokens first culprit, Token.read d source = .ok tokens ∧
      issues.find? Issue.isError = some first ∧
      (∃ more, (Failure.invalid issues).message = first.text ++ more) ∧
      culprit ∈ (Builder.start rs source).untilError tokens ∧ culprit.piece.tag?.isSome ∧
      culprit.position.place = first.place ∧
      ((Failure.invalid issues).position? = some ⟨first.line, first.column, 0⟩ ↔
        ∀ t ∈ ((Builder.start rs source).untilError tokens).find? (Token.isRemarked rs),
          t = culprit) := by
  obtain ⟨tokens, hread, herror, rfl⟩ := of_parse_invalid h
  obtain ⟨culprit, hculprit, htag, ⟨first, hfirst, hplace⟩, hhead⟩ :=
    Builder.exists_culprit hread herror
  refine ⟨tokens, first, culprit, hread, hfirst, Issue.summary_of_find? hfirst, hculprit, htag,
    hplace.symm, ?_⟩
  rw [Failure.position?_invalid_iff, hhead, Builder.head?_remarks, hplace]
  have hwithin := (Builder.untilError_prefix (.start rs source) tokens).subset
  cases hfind : ((Builder.start rs source).untilError tokens).find? (Token.isRemarked rs) with
  | none => exact iff_of_true rfl nofun
  | some t =>
    have hremark : t.isRemarked rs = true := List.find?_some hfind
    simp only [Option.map_some, Option.some_or, Option.some.injEq, Option.mem_def, forall_eq']
    refine ⟨fun hsame => ?_, fun heq => heq ▸ rfl⟩
    exact Token.eq_of_place hopening hread (hwithin (List.mem_of_find?_eq_some hfind))
      (hwithin hculprit) (Token.isSome_tag?_of_isRemarked hremark) htag hsame

namespace Sample

/-- A rejection, as reading the source shows. -/
theorem exists_rejected {source : String} (p : List Issue → Prop) [DecidablePred p]
    (h : (match Template.parse .standard .builtin "t" source with
      | .error (.invalid issues) => decide (p issues)
      | _ => false) = true) :
    ∃ issues, Template.parse .standard .builtin "t" source = .error (.invalid issues) ∧
      p issues := by
  split at h
  · next issues hparse => exact ⟨issues, hparse, of_decide_eq_true h⟩
  · cases h

/-- A loop without a limit that is not closed. -/
def openLoop : String :=
  tagged "prompty.for item=\"x\" in=\"xs\"" ++ "x"

/-- Its rejection points at the loop, though it was remarked upon first. -/
theorem points_iff_openLoop :
    ∃ issues first, Template.parse .standard .builtin "t" openLoop = .error (.invalid issues) ∧
      issues.map Issue.severity = [.warning, .error] ∧
      issues.find? Issue.isError = some first ∧
      (Failure.invalid issues).position? = some ⟨first.line, first.column, 0⟩ := by
  obtain ⟨issues, hparse, hseverities⟩ := @exists_rejected openLoop
    (fun issues => issues.map Issue.severity = [.warning, .error]) _ (by decide +kernel)
  obtain ⟨tokens, first, culprit, hread, hfirst, -, hculprit, htag, -, hpoints⟩ :=
    Template.points_iff (by decide) hparse
  refine ⟨issues, first, hparse, hseverities, hfirst, hpoints.2 fun t ht => ?_⟩
  have hone : ((Token.read .standard openLoop).toOption.any fun tokens =>
      decide ((tokens.filter (·.piece.tag?.isSome)).length = 1)) = true := by decide +kernel
  rw [hread] at hone
  obtain ⟨loop, hloop⟩ := List.length_eq_one_iff.1 (of_decide_eq_true hone)
  -- the loop is the only tag
  have honly : ∀ t ∈ (Builder.start .builtin openLoop).untilError tokens, t.piece.tag?.isSome →
      t = loop := by
    intro t ht htag
    rw [← List.mem_singleton, ← hloop, List.mem_filter]
    exact ⟨(Builder.untilError_prefix _ tokens).subset ht, htag⟩
  have hremark := Token.isSome_tag?_of_isRemarked (List.find?_some ht)
  rw [honly t (List.mem_of_find?_eq_some ht) hremark, honly culprit hculprit htag]

/-- A tag without a resolver, and behind it the closing tag of another. -/
def misplaced : String :=
  tagged "a /" ++ tagged "/b"

/-- **Its rejection points at the first tag, and tells of the second.** -/
theorem points_at_remark :
    ∃ issues first, Template.parse .standard .builtin "t" misplaced = .error (.invalid issues) ∧
      issues.find? Issue.isError = some first ∧ (first.line, first.column) = (1, 8) ∧
      (Failure.invalid issues).message = "1:8: unmatched closing tag for b [b]" ∧
      (Failure.invalid issues).position? = some ⟨1, 1, 0⟩ := by
  obtain ⟨issues, hparse, rfl⟩ := @exists_rejected misplaced
    (fun issues => issues = [⟨.warning, "unknown tag a", 1, 1, some "a"⟩,
      ⟨.error, "unmatched closing tag for b", 1, 8, some "b"⟩]) _ (by decide +kernel)
  exact ⟨_, _, hparse, rfl, rfl, by decide +kernel, rfl⟩

end Sample

end PromptMarkup
