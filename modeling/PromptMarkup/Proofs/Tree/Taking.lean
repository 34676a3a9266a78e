import PromptMarkup.Template
import PromptMarkup.Proofs.Token.Named
import PromptMarkup.Proofs.Tree.Walk
/-!
# Tree — tokens that are taken without an error

A builder reports what is wrong and goes on with some repair. Where it has no
error to report (`Builder.Clean`) no repair is made either, and a token does
one of a few things (`Builder.Takes`): it adds a node, opens a frame, ends a
branch or closes the innermost frame. Each of them says everything that has
been checked before. A template is accepted where all its tokens are taken
like that and no frame is left open (`Template.parse_eq_ok_iff`).
-/

namespace PromptMarkup

/-- None of the problems makes a template unusable. -/
def Harmless (problems : List Problem) : Prop :=
  ∀ problem ∈ problems, problem.severity ≠ .error

@[simp] theorem harmless_nil : Harmless [] := List.forall_mem_nil _

@[simp] theorem harmless_cons {problem : Problem} {rest : List Problem} :
    Harmless (problem :: rest) ↔ problem.severity ≠ .error ∧ Harmless rest :=
  List.forall_mem_cons

@[simp] theorem harmless_append {xs ys : List Problem} :
    Harmless (xs ++ ys) ↔ Harmless xs ∧ Harmless ys :=
  List.forall_mem_append

/-- A resolver of this name, if there is one, wants its tags in this shape and
accepts these attributes. -/
def Resolvers.Accept (rs : Resolvers) (shape : TagShape) (name : String) (attrs : Attributes) :
    Prop :=
  ∀ r, Keyed.find? rs name = some r → r.shape = shape ∧ r.validate attrs = .ok ()

namespace Token

/-- The token is no opening tag of a body that is to be taken verbatim. -/
def Built (token : Token) : Prop :=
  ∀ shape name attrs, token.piece = .opening shape name attrs →
    name ≠ Token.rawTag ∧ name ≠ Token.commentTag

/-- **A tag around a verbatim body** is no token by itself. -/
theorem built_of_read {d : Delimiters} {source : String} {tokens : List Token}
    (h : read d source = .ok tokens) : ∀ token ∈ tokens, token.Built := by
  intro token htoken shape name attrs hpiece
  have hwritable := writable_of_read h token htoken (by rw [hpiece]; rfl)
  rw [hpiece] at hwritable
  exact ⟨hwritable.2.1, hwritable.2.2.1⟩

end Token

namespace Builder

/-- No error has been reported. -/
def Clean (b : Builder) : Prop :=
  ∀ issue ∈ b.issues.toList, issue.isError = false

/-! ## Opening tags -/

/-- What an opening tag adds that is written without an error. -/
inductive Opens (b : Builder) (attrs : Attributes) (span : Span) (position : Position) :
    TagShape → String → Opening → Prop
  | var {path : String} (hstrategy : Harmless (strategyOf attrs).2)
      (hpath : attrs.filled? "name" = some path) :
      Opens b attrs span position .selfClosing Tag.var
        (.node (.var (b.infoOf attrs span position).1 path))
  | inclusion {template : String} (hstrategy : Harmless (strategyOf attrs).2)
      (htemplate : attrs.filled? "template" = some template) :
      Opens b attrs span position .selfClosing Tag.includeTag
        (.node (.inclusion (b.infoOf attrs span position).1 template (attrs.get? "with")))
  | parent (hinside : b.stack.any (·.kind.isBlock) = true) (hextended : b.extended = true) :
      Opens b attrs span position .selfClosing Tag.parent (.node (.parent span position))
  | tag {name : String} (hstrategy : Harmless (strategyOf attrs).2)
      (hname : name ∉ Tag.structural) (hresolver : b.resolvers.Accept .selfClosing name attrs) :
      Opens b attrs span position .selfClosing name
        (.node (.tag (b.infoOf attrs span position).1 name attrs))
  | choice {source : String} {condition : Expr} (hstrategy : Harmless (strategyOf attrs).2)
      (hsource : attrs.filled? "eval" = some source)
      (hcondition : Expr.parse source = .ok condition) :
      Opens b attrs span position .block Tag.ifTag
        (.frame (.choice (b.infoOf attrs span position).1 [] (some ⟨position, source, condition⟩)))
  | loop {item source : String} (hstrategy : Harmless (strategyOf attrs).2)
      (hitem : attrs.filled? "item" = some item) (hsource : attrs.filled? "in" = some source)
      (hlimit : Harmless (limitOf attrs).2) :
      Opens b attrs span position .block Tag.forTag
        (.frame (.loop (b.infoOf attrs span position).1
          ⟨item, attrs.get? "index", source, (limitOf attrs).1⟩))
  | block {name : String} (hstrategy : Harmless (strategyOf attrs).2)
      (hname : attrs.filled? "name" = some name) (hnew : name ∉ b.blockNames) :
      Opens b attrs span position .block Tag.block (.frame (.block name))
  | message {role : String} (hstrategy : Harmless (strategyOf attrs).2)
      (hrole : attrs.filled? "role" = some role) (hknown : role ∈ messageRoles)
      (houtside : b.stack.any (·.kind.isMessage) = false) :
      Opens b attrs span position .block Tag.message (.frame (.message role))
  | blockTag {name : String} (hstrategy : Harmless (strategyOf attrs).2)
      (hname : name ∉ Tag.structural) (hresolver : b.resolvers.Accept .block name attrs) :
      Opens b attrs span position .block name
        (.frame (.tag (b.infoOf attrs span position).1 attrs))

variable {b b' : Builder} {attrs : Attributes} {span : Span} {position : Position}
  {shape : TagShape} {tag : String} {o : Opening}

theorem harmless_resolverProblems_iff :
    Harmless (b.resolverProblems shape tag attrs) ↔ b.resolvers.Accept shape tag attrs := by
  rw [resolverProblems, Resolvers.Accept]
  cases hfind : Keyed.find? b.resolvers tag with
  | none => simp [Problem.severity]
  | some r =>
    have hshape : Harmless (if r.shape = shape then [] else [.shapeMismatch tag r.shape shape]) ↔
        r.shape = shape := by
      split <;> simp_all [Problem.severity]
    cases hvalidate : r.validate attrs <;> simp [hshape, hvalidate, Problem.severity]

/-- A tag in the wrong shape is an error. -/
theorem not_harmless_misshapen (tag : String) (expected : TagShape) :
    ¬ Harmless (misshapen tag expected).2 := by
  cases expected <;> simp [misshapen, Problem.severity]

theorem opens_openVar (h : Harmless (b.openVar attrs span position).2) :
    b.Opens attrs span position .selfClosing Tag.var (b.openVar attrs span position).1 := by
  simp only [openVar, infoOf] at h ⊢
  split at h
  · next path hpath => exact .var h hpath
  · next hpath => simp [missing, hpath, Problem.severity] at h

theorem opens_openInclusion (h : Harmless (b.openInclusion attrs span position).2) :
    b.Opens attrs span position .selfClosing Tag.includeTag
      (b.openInclusion attrs span position).1 := by
  simp only [openInclusion, infoOf] at h ⊢
  split at h
  · next template htemplate => exact .inclusion h htemplate
  · next htemplate => simp [missing, htemplate, Problem.severity] at h

theorem opens_openParent (h : Harmless (b.openParent span position).2) :
    b.Opens attrs span position .selfClosing Tag.parent (b.openParent span position).1 := by
  simp only [openParent] at h ⊢
  split at h
  · simp [Problem.severity] at h
  · split at h
    · simp [Problem.severity] at h
    · next hinside hextended =>
      rw [if_neg hinside, if_neg hextended]
      exact .parent (by simpa using hinside) (by simpa using hextended)

/-- A branch that opens without an error has a condition that can be read. -/
theorem of_harmless_branchOf (h : Harmless (branchOf tag attrs position).2) :
    ∃ source condition, attrs.filled? "eval" = some source ∧ Expr.parse source = .ok condition := by
  rw [branchOf] at h
  split at h
  · next hsource => simp [missing, hsource, Problem.severity] at h
  · next source hsource =>
    split at h
    · next condition hcondition => exact ⟨source, condition, hsource, hcondition⟩
    · simp [Problem.severity] at h

theorem opens_openChoice (h : Harmless (b.openChoice attrs span position).2) :
    b.Opens attrs span position .block Tag.ifTag (b.openChoice attrs span position).1 := by
  simp only [openChoice, infoOf, harmless_append] at h ⊢
  obtain ⟨source, condition, hsource, hcondition⟩ := of_harmless_branchOf h.2
  simpa only [branchOf, hsource, hcondition] using .choice h.1 hsource hcondition

theorem opens_openLoop (h : Harmless (b.openLoop attrs span position).2) :
    b.Opens attrs span position .block Tag.forTag (b.openLoop attrs span position).1 := by
  simp only [openLoop, infoOf] at h ⊢
  split at h
  · next item source hitem hsource =>
    simp only [harmless_append] at h
    exact .loop h.1.1.1 hitem hsource h.2
  · next hmissing =>
    simp only [harmless_append, missing] at h
    cases hitem : attrs.filled? "item" with
    | none => simp [hitem, Problem.severity] at h
    | some item =>
      cases hsource : attrs.filled? "in" with
      | none => simp [hsource, Problem.severity] at h
      | some source => exact absurd hsource (hmissing item source hitem)

theorem opens_openBlock (h : Harmless (b.openBlock attrs).2) :
    b.Opens attrs span position .block Tag.block (b.openBlock attrs).1 := by
  simp only [openBlock] at h ⊢
  split at h
  · next name hname =>
    split at h
    · simp [Problem.severity] at h
    · next hnew =>
      rw [if_neg hnew]
      exact .block h hname (by simpa using hnew)
  · next hname => simp [missing, hname, Problem.severity] at h

theorem opens_openMessage (h : Harmless (b.openMessage attrs).2) :
    b.Opens attrs span position .block Tag.message (b.openMessage attrs).1 := by
  simp only [openMessage] at h ⊢
  split at h
  · next role hrole =>
    split at h
    · next hknown =>
      rw [if_pos hknown]
      simp only [harmless_append] at h
      refine .message h.1 hrole (by simpa using hknown) ?_
      cases hnested : b.stack.any (·.kind.isMessage) with
      | false => rfl
      | true => simp [hnested, Problem.severity] at h
    · simp [Problem.severity] at h
  · next hrole => simp [missing, hrole, Problem.severity] at h

theorem opens_openOther (hname : tag ∉ Tag.structural)
    (h : Harmless (b.openOther shape tag attrs span position).2) :
    b.Opens attrs span position shape tag (b.openOther shape tag attrs span position).1 := by
  cases shape <;> simp only [openOther, infoOf, harmless_append] at h ⊢
  · exact .tag h.2 hname (harmless_resolverProblems_iff.1 h.1)
  · exact .blockTag h.2 hname (harmless_resolverProblems_iff.1 h.1)

/-! Each of the tags with a meaning of its own has its shape. -/

/-- What is opened by a tag that is to be written in one shape. -/
def inShape (shape : TagShape) (tag : String) (expected : TagShape)
    (opened : Opening × List Problem) : Opening × List Problem :=
  if shape = expected then opened else misshapen tag expected

theorem opening_var : b.opening shape Tag.var attrs span position =
    inShape shape Tag.var .selfClosing (b.openVar attrs span position) := rfl

theorem opening_choice : b.opening shape Tag.ifTag attrs span position =
    inShape shape Tag.ifTag .block (b.openChoice attrs span position) := rfl

theorem opening_loop : b.opening shape Tag.forTag attrs span position =
    inShape shape Tag.forTag .block (b.openLoop attrs span position) := rfl

theorem opening_inclusion : b.opening shape Tag.includeTag attrs span position =
    inShape shape Tag.includeTag .selfClosing (b.openInclusion attrs span position) := rfl

theorem opening_block : b.opening shape Tag.block attrs span position =
    inShape shape Tag.block .block (b.openBlock attrs) := rfl

theorem opening_parent : b.opening shape Tag.parent attrs span position =
    inShape shape Tag.parent .selfClosing (b.openParent span position) := rfl

theorem opening_message : b.opening shape Tag.message attrs span position =
    inShape shape Tag.message .block (b.openMessage attrs) := rfl

theorem opening_other (h : tag ∉ Tag.structural) : b.opening shape tag attrs span position =
    b.openOther shape tag attrs span position := by
  simp only [Tag.structural, List.mem_cons, List.not_mem_nil, not_or] at h
  simp [opening, h]

/-- A tag that is opened without an error is in its shape. -/
theorem opens_inShape {expected : TagShape} {opened : Opening × List Problem}
    (hopening : b.opening shape tag attrs span position = inShape shape tag expected opened)
    (hopens : Harmless opened.2 → b.Opens attrs span position expected tag opened.1)
    (h : Harmless (b.opening shape tag attrs span position).2) :
    b.Opens attrs span position shape tag (b.opening shape tag attrs span position).1 := by
  rw [hopening, inShape] at h ⊢
  split at h
  · next hshape =>
    rw [if_pos hshape, hshape]
    exact hopens h
  · exact absurd h (not_harmless_misshapen _ _)

/-- **An opening tag without an error** adds what such a tag opens. -/
theorem opens_of_harmless
    (htag : tag ∉ [Tag.elseIfTag, Tag.elseTag, Tag.extendsTag, Token.rawTag, Token.commentTag])
    (h : Harmless (b.opening shape tag attrs span position).2) :
    b.Opens attrs span position shape tag (b.opening shape tag attrs span position).1 := by
  by_cases hname : tag ∈ Tag.structural
  · simp only [List.mem_cons, List.not_mem_nil, not_or] at htag
    simp only [Tag.structural, List.mem_cons, List.not_mem_nil, htag, false_or, or_false] at hname
    obtain rfl | rfl | rfl | rfl | rfl | rfl | rfl := hname
    · exact opens_inShape opening_var opens_openVar h
    · exact opens_inShape opening_choice opens_openChoice h
    · exact opens_inShape opening_loop opens_openLoop h
    · exact opens_inShape opening_inclusion opens_openInclusion h
    · exact opens_inShape opening_block opens_openBlock h
    · exact opens_inShape opening_parent opens_openParent h
    · exact opens_inShape opening_message opens_openMessage h
  · rw [opening_other hname] at h ⊢
    exact opens_openOther hname h

/-- And what such a tag opens is added without an error. -/
theorem Opens.opening_eq (h : b.Opens attrs span position shape tag o) :
    (b.opening shape tag attrs span position).1 = o ∧
      Harmless (b.opening shape tag attrs span position).2 := by
  cases h with
  | var hstrategy hpath =>
    rw [opening_var]
    simpa [inShape, openVar, infoOf, hpath] using hstrategy
  | inclusion hstrategy htemplate =>
    rw [opening_inclusion]
    simpa [inShape, openInclusion, infoOf, htemplate] using hstrategy
  | parent hinside hextended =>
    rw [opening_parent]
    simp [inShape, openParent, hinside, hextended]
  | tag hstrategy hname hresolver =>
    rw [opening_other hname]
    simpa [openOther, infoOf, hstrategy] using harmless_resolverProblems_iff.2 hresolver
  | choice hstrategy hsource hcondition =>
    rw [opening_choice]
    simpa [inShape, openChoice, infoOf, branchOf, hsource, hcondition] using hstrategy
  | loop hstrategy hitem hsource hlimit =>
    rw [opening_loop]
    simpa [inShape, openLoop, infoOf, missing, hitem, hsource, hlimit] using hstrategy
  | block hstrategy hname hnew =>
    rw [opening_block]
    simpa [inShape, openBlock, hname, hnew] using hstrategy
  | message hstrategy hrole hknown houtside =>
    rw [opening_message]
    simpa [inShape, openMessage, hrole, hknown, houtside] using hstrategy
  | blockTag hstrategy hname hresolver =>
    rw [opening_other hname]
    simpa [openOther, infoOf, hstrategy] using harmless_resolverProblems_iff.2 hresolver

/-! ## Tokens -/

/-- What a token does that is taken without an error. -/
inductive Takes (b : Builder) : Token → Builder → Prop
  | text {body : String} {span : Span} {position : Position} :
      Takes b ⟨.text body, span, position⟩ (b.addNode (.text span body) position)
  | comment {body : String} {span : Span} {position : Position} :
      Takes b ⟨.comment body, span, position⟩ (b.addNode (.comment span body) position)
  | opening {shape : TagShape} {name : String} {attrs : Attributes} {span : Span}
      {position : Position} {o : Opening} (hopens : b.Opens attrs span position shape name o) :
      Takes b ⟨.opening shape name attrs, span, position⟩
        (b.addOpening name span position (o, (b.opening shape name attrs span position).2))
  | extending {attrs : Attributes} {span : Span} {position : Position} {template : String}
      (htemplate : attrs.filled? "template" = some template) (hfirst : b.extended = false)
      (hstack : b.stack = []) (hroot : b.rootFilled = false) :
      Takes b ⟨.opening .selfClosing Tag.extendsTag attrs, span, position⟩
        { b with extended := true, root := b.root.push (.extending span position template) }
  | elseIf {shape : TagShape} {attrs : Attributes} {span : Span} {position : Position}
      {frame : Frame} {outer : List Frame} {info : NodeInfo} {done : List Branch}
      {current : OpenBranch} {source : String} {condition : Expr}
      (hstack : b.stack = frame :: outer) (hkind : frame.kind = .choice info done (some current))
      (hsource : attrs.filled? "eval" = some source)
      (hcondition : Expr.parse source = .ok condition) :
      Takes b ⟨.opening shape Tag.elseIfTag attrs, span, position⟩
        (b.nextBranch frame outer info done current (some ⟨position, source, condition⟩))
  | otherwise {shape : TagShape} {attrs : Attributes} {span : Span} {position : Position}
      {frame : Frame} {outer : List Frame} {info : NodeInfo} {done : List Branch}
      {current : OpenBranch} (hstack : b.stack = frame :: outer)
      (hkind : frame.kind = .choice info done (some current)) :
      Takes b ⟨.opening shape Tag.elseTag attrs, span, position⟩
        (b.nextBranch frame outer info done current none)
  | close {name : String} {span : Span} {position : Position} {frame : Frame} {outer : List Frame}
      (hstack : b.stack = frame :: outer) (htag : frame.tag = name) :
      Takes b ⟨.closing name, span, position⟩ (b.closeFrame span.stop)
  /-- The closing tag of a branch closes nothing. -/
  | closeBranch {name : String} {span : Span} {position : Position}
      (hname : name = Tag.elseTag ∨ name = Tag.elseIfTag)
      (hchoice : b.stack.head?.any (·.kind.isChoice) = true)
      (hopen : ∀ frame ∈ b.stack, frame.tag ≠ name) :
      Takes b ⟨.closing name, span, position⟩ b

/-! Errors are only ever added. -/

theorem clean_report {problems : List Problem} :
    (b.report problems position tag).Clean ↔ b.Clean ∧ Harmless problems := by
  simp only [Clean, report, Array.toList_append, List.forall_mem_append, List.forall_mem_map,
    Harmless]
  refine and_congr_right fun _ => forall₂_congr fun problem _ => ?_
  simp [Problem.issue, Issue.isError]

@[simp] theorem report_nil : b.report [] position tag = b := by
  simp [report]

@[simp] theorem issues_addNode (node : Node) : (b.addNode node position).issues = b.issues := by
  unfold addNode
  cases b.stack <;> rfl

@[simp] theorem issues_closeFrame (stop : Nat) : (b.closeFrame stop).issues = b.issues := by
  rw [closeFrame]
  split
  · rfl
  · simp only
    split
    · rw [issues_addNode]
    · rfl

@[simp] theorem clean_addNode {node : Node} : (b.addNode node position).Clean ↔ b.Clean := by
  rw [Clean, issues_addNode, Clean]

@[simp] theorem clean_closeFrame {stop : Nat} : (b.closeFrame stop).Clean ↔ b.Clean := by
  rw [Clean, issues_closeFrame, Clean]

theorem clean_addOpening {problems : List Problem} :
    (b.addOpening tag span position (o, problems)).Clean ↔ b.Clean ∧ Harmless problems := by
  have hreport : (b.report problems position tag).Clean ↔ _ := clean_report
  rw [← hreport]
  cases o with
  | nothing => rfl
  | node node => exact clean_addNode
  | frame kind => cases kind <;> rfl

/-- A frame that is closed for want of its closing tag is an error. -/
theorem clean_abandon {stop n : Nat} :
    (b.abandon stop n).Clean ↔ b.Clean ∧ (n = 0 ∨ b.stack = []) := by
  induction n generalizing b with
  | zero => simp [abandon]
  | succ n ih =>
    rw [abandon, ih, abandonFrame]
    cases hstack : b.stack with
    | nil => simp [hstack]
    | cons frame outer => simp [clean_report, Problem.severity]

/-- What opens is none of the tags that continue a choice or extend a
template. -/
theorem Opens.tag_notMem (h : b.Opens attrs span position shape tag o) :
    tag ∉ [Tag.elseIfTag, Tag.elseTag, Tag.extendsTag] := by
  have hother : ∀ {name}, name ∉ Tag.structural →
      name ∉ [Tag.elseIfTag, Tag.elseTag, Tag.extendsTag] := fun hname hmem =>
    hname (List.Sublist.subset (by decide) hmem)
  cases h with
  | tag _ hname _ => exact hother hname
  | blockTag _ hname _ => exact hother hname
  | _ => decide

/-- **What a token is taken for** is what is done with it. -/
theorem Takes.accept_eq {token : Token} (h : b.Takes token b') : b.accept token = b' := by
  cases h with
  | text => rfl
  | comment => rfl
  | opening hopens =>
    have hname := hopens.tag_notMem
    simp only [List.mem_cons, List.not_mem_nil, or_false, not_or] at hname
    simp only [accept, openTag, hname, or_self, if_false]
    rw [← hopens.opening_eq.1]
  | extending htemplate hfirst hstack hroot =>
    have hopen : ∀ attrs span position, b.openTag .selfClosing Tag.extendsTag attrs span position =
        b.extending .selfClosing attrs span position := fun _ _ _ => rfl
    simp [accept, hopen, Builder.extending, htemplate, hfirst, hstack, hroot]
  | elseIf hstack hkind hsource hcondition =>
    have hopen : ∀ shape attrs span position, b.openTag shape Tag.elseIfTag attrs span position =
        b.branch Tag.elseIfTag attrs position := fun _ _ _ _ => rfl
    simp [accept, hopen, branch, hstack, hkind, branchOf, hsource, hcondition]
  | otherwise hstack hkind =>
    have hopen : ∀ shape attrs span position, b.openTag shape Tag.elseTag attrs span position =
        b.branch Tag.elseTag attrs position := fun _ _ _ _ => rfl
    have hne : Tag.elseTag ≠ Tag.elseIfTag := by decide
    simp [accept, hopen, branch, hstack, hkind, hne]
  | close hstack htag =>
    simp [accept, Builder.close, hstack, htag, List.findIdx?_cons, abandon]
  | closeBranch hname hchoice hopen =>
    have hnone : ∀ name, (∀ frame ∈ b.stack, frame.tag ≠ name) →
        b.stack.findIdx? (·.tag == name) = none := by
      intro name h
      simpa using h
    simp [accept, Builder.close, hnone _ hopen, hname, hchoice]

/-- Taking it is no error. -/
theorem Takes.clean_iff {token : Token} (h : b.Takes token b') : b'.Clean ↔ b.Clean := by
  cases h with
  | text => exact clean_addNode
  | comment => exact clean_addNode
  | opening hopens => rw [clean_addOpening, and_iff_left hopens.opening_eq.2]
  | close => exact clean_closeFrame
  | _ => rfl

/-! Whatever repairs something has reported an error for it, and no error is
ever taken back. -/

/-- After an error nothing is clean. -/
theorem not_clean_report {problems : List Problem} {problem : Problem}
    (hmem : problem ∈ problems) (hproblem : problem.severity = .error) :
    ¬ (b.report problems position tag).Clean :=
  fun h => (clean_report.1 h).2 problem hmem hproblem

theorem exists_takes_of_extending (h : (b.extending shape attrs span position).Clean) :
    ∃ b', b.Takes ⟨.opening shape Tag.extendsTag attrs, span, position⟩ b' := by
  have hrefused : ∀ problem : Problem, problem.severity = .error →
      ¬ (b.report [problem] position Tag.extendsTag).Clean :=
    fun problem => not_clean_report (List.mem_singleton_self problem)
  simp only [extending] at h
  split at h
  · exact absurd h (hrefused _ rfl)
  · next hshape =>
    obtain rfl : shape = .selfClosing := by simpa using hshape
    split at h
    · exact absurd h (hrefused _ rfl)
    · next template htemplate =>
      split at h
      · exact absurd h (hrefused _ rfl)
      · next hfirst =>
        split at h
        · exact absurd h (hrefused _ rfl)
        · next hlate =>
          simp only [Bool.or_eq_true, Bool.not_eq_true', not_or, Bool.not_eq_true,
            Bool.not_eq_false, List.isEmpty_iff] at hfirst hlate
          exact ⟨_, .extending htemplate hfirst hlate.1 hlate.2⟩

theorem exists_takes_of_branch (htag : tag = Tag.elseIfTag ∨ tag = Tag.elseTag)
    (h : (b.branch tag attrs position).Clean) :
    ∃ b', b.Takes ⟨.opening shape tag attrs, span, position⟩ b' := by
  have houtside : ¬ (b.report [.branchOutsideChoice tag] position tag).Clean :=
    not_clean_report (List.mem_singleton_self _) rfl
  simp only [branch] at h
  split at h
  · next frame outer hstack =>
    split at h
    · next info done current hkind =>
      cases current with
      | none =>
        have hlast : ∀ problems : List Problem,
            .branchAfterElse tag ∈ problems ++ [.branchAfterElse tag] :=
          fun _ => List.mem_append_right _ (List.mem_singleton_self _)
        exact absurd h (not_clean_report (hlast _) rfl)
      | some current =>
        obtain rfl | rfl := htag
        · -- the next branch has a condition, which has been read
          have hbranch : Harmless (branchOf Tag.elseIfTag attrs position).2 := (clean_report.1 h).2
          obtain ⟨source, condition, hsource, hcondition⟩ := of_harmless_branchOf hbranch
          exact ⟨_, .elseIf hstack hkind hsource hcondition⟩
        · exact ⟨_, .otherwise hstack hkind⟩
    · exact absurd h houtside
  · exact absurd h houtside

theorem exists_takes_of_close (h : (b.close tag span position).Clean) :
    ∃ b', b.Takes ⟨.closing tag, span, position⟩ b' := by
  have hunmatched : ¬ (b.report [.unmatchedClosing tag] position tag).Clean :=
    not_clean_report (List.mem_singleton_self _) rfl
  simp only [Builder.close] at h
  split at h
  · next inside hinside =>
    rw [clean_closeFrame, clean_abandon] at h
    split at h
    · next hinner =>
      -- the innermost frame has the name of the tag
      subst hinner
      cases hstack : b.stack with
      | nil => simp [hstack] at hinside
      | cons frame outer =>
        simp only [hstack, List.findIdx?_cons] at hinside
        split at hinside
        · next htag => exact ⟨_, .close hstack (by simpa using htag)⟩
        · simp at hinside
    · exact absurd h.1 hunmatched
  · next hnone =>
    split at h
    · next hends =>
      simp only [Bool.and_eq_true, Bool.or_eq_true, decide_eq_true_eq] at hends
      exact ⟨_, .closeBranch hends.1 hends.2 (by simpa using hnone)⟩
    · exact absurd h hunmatched

/-- **A token without an error is taken.** -/
theorem takes_of_clean {token : Token} (hbuilt : token.Built) (h : (b.accept token).Clean) :
    b.Takes token (b.accept token) := by
  suffices hexists : ∃ b', b.Takes token b' by
    obtain ⟨b', htakes⟩ := hexists
    exact htakes.accept_eq ▸ htakes
  obtain ⟨piece, span, position⟩ := token
  cases piece with
  | text body => exact ⟨_, .text⟩
  | comment body => exact ⟨_, .comment⟩
  | closing name => exact exists_takes_of_close h
  | opening shape tag attrs =>
    simp only [accept, openTag] at h
    split at h
    · next htag => exact exists_takes_of_branch htag h
    · next hbranch =>
      split at h
      · next htag => exact htag ▸ exists_takes_of_extending h
      · next hextends =>
        refine ⟨_, .opening (opens_of_harmless ?_ (clean_addOpening.1 h).2)⟩
        have := hbuilt shape tag attrs rfl
        simp only [List.mem_cons, List.not_mem_nil, or_false]
        tauto

/-! ## Sources -/

/-- The tree before the first token of a source. -/
def start (resolvers : Resolvers) (source : String) : Builder :=
  { source := source.toList, resolvers := resolvers }

theorem clean_start (resolvers : Resolvers) (source : String) : (start resolvers source).Clean :=
  List.forall_mem_nil _

/-- Tokens one after another are taken without an error. -/
inductive TakesAll : Builder → List Token → Builder → Prop
  | nil {b : Builder} : TakesAll b [] b
  | cons {b b₁ b' : Builder} {token : Token} {rest : List Token} (htakes : b.Takes token b₁)
      (hrest : TakesAll b₁ rest b') : TakesAll b (token :: rest) b'

theorem TakesAll.foldl_eq {tokens : List Token} (h : TakesAll b tokens b') :
    tokens.foldl accept b = b' := by
  induction h with
  | nil => rfl
  | cons htakes _ ih => rw [List.foldl_cons, htakes.accept_eq, ih]

theorem TakesAll.clean_iff {tokens : List Token} (h : TakesAll b tokens b') :
    b'.Clean ↔ b.Clean := by
  induction h with
  | nil => rfl
  | cons htakes _ ih => rw [ih, htakes.clean_iff]

/-- **What every token keeps** that is taken without an error holds after all
of them. -/
theorem TakesAll.keeps {P : Builder → Prop} {tokens : List Token} (h : TakesAll b tokens b')
    (step : ∀ b token b', Takes b token b' → P b → P b') (hb : P b) : P b' := by
  induction h with
  | nil => exact hb
  | cons htakes _ ih => exact ih (step _ _ _ htakes hb)

theorem takesAll_of_clean {tokens : List Token} (hbuilt : ∀ token ∈ tokens, token.Built)
    (h : (tokens.foldl accept b).Clean) : TakesAll b tokens (tokens.foldl accept b) := by
  induction tokens generalizing b with
  | nil => exact .nil
  | cons token rest ih =>
    have hrest := ih (fun t ht => hbuilt t (List.mem_cons_of_mem _ ht)) h
    have htoken := takes_of_clean (hbuilt token List.mem_cons_self) (hrest.clean_iff.1 h)
    exact .cons htoken hrest

/-- An open frame at the end is an error, and ignored content is none. -/
theorem clean_finish : b.finish.Clean ↔ b.Clean ∧ b.stack = [] := by
  have habandon := @clean_abandon b (String.ofList b.source).utf8ByteSize b.stack.length
  rw [List.length_eq_zero_iff, or_self] at habandon
  rw [← habandon]
  simp only [finish]
  split
  · simp only [Clean, Array.toList_push, List.forall_mem_append, List.forall_mem_singleton]
    exact and_iff_left rfl
  · rfl

/-- Where none is open the end adds no nodes. -/
theorem root_finish (h : b.stack = []) : b.finish.root = b.root := by
  rw [finish, h]
  simp only [List.length_nil, abandon]
  split <;> rfl

end Builder

/-- **A template is accepted where its tokens are taken** without an error and
leave no tag open. -/
theorem Template.parse_eq_ok_iff {d : Delimiters} {resolvers : Resolvers} {name source : String}
    {t : Template} :
    Template.parse d resolvers name source = .ok t ↔
      ∃ tokens b, Token.read d source = .ok tokens ∧
        Builder.TakesAll (.start resolvers source) tokens b ∧ b.stack = [] ∧
        t = { name, source, tree := ⟨name, b.root.toList⟩, issues := b.finish.issues.toList } := by
  have hclean : ∀ b : Builder, b.issues.toList.any Issue.isError = true ↔ ¬ b.Clean := by
    intro b
    simp only [List.any_eq_true, Builder.Clean, not_forall, Bool.not_eq_false, exists_prop]
  have hbuild : ∀ tokens, Tree.build resolvers name source tokens =
      (⟨name, (tokens.foldl Builder.accept (.start resolvers source)).finish.root.toList⟩,
        (tokens.foldl Builder.accept (.start resolvers source)).finish.issues.toList) :=
    fun _ => rfl
  simp only [Template.parse, Tree.parse]
  cases htokens : Token.read d source with
  | error failure => simp [Except.map]
  | ok tokens =>
    simp only [Except.map, hbuild, hclean]
    constructor
    · intro h
      split at h
      · cases h
      · next hfinish =>
        obtain ⟨hrun, hstack⟩ := Builder.clean_finish.1 (not_not.1 (mt (hclean _).2 hfinish))
        refine ⟨_, _, rfl, Builder.takesAll_of_clean (Token.built_of_read htokens) hrun, hstack, ?_⟩
        rw [← Except.ok.inj h, Builder.root_finish hstack]
    · rintro ⟨_, b, hsame, htakes, hstack, rfl⟩
      cases hsame
      have hrun : b.Clean := htakes.clean_iff.2 (Builder.clean_start _ _)
      have hfinish : b.finish.Clean := Builder.clean_finish.2 ⟨hrun, hstack⟩
      have hnone : ¬ b.finish.issues.toList.any Issue.isError = true :=
        fun herror => (hclean _).1 herror hfinish
      rw [htakes.foldl_eq, if_neg hnone, Builder.root_finish hstack]

end PromptMarkup
