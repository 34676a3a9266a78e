import PromptMarkup.Proofs.Token.Written
import PromptMarkup.Proofs.Tree.Reading
/-!
# Tree — what a closing tag closes

The open tags behind a sequence of pieces are a stack (`Piece.track`), and the
frames of a builder without an error are the same ones (`Builder.Follows`). So
in an accepted template a closing tag has the name of the innermost open tag,
and that of a branch stands directly in a choice (`Tag.InPlace`).

Of a branch no more is asked. Which branches a choice has got, and whether one
of them is still open, does not count, and the closing tags of branches can be
left out or put in anywhere directly in a choice
(`Builder.takesAll_iff_filter`).
-/

namespace PromptMarkup

/-- A block tag that is open. Of the branch tags directly in it, it has the
latest one until that is closed. -/
structure OpenTag where
  name : String
  branch : Option String
  deriving DecidableEq, Repr

namespace Tag

/-- A closing tag of this name stands where it should: the innermost open tag
has its name, and the one around the closing tag of a branch is a choice. -/
def InPlace (opened : List OpenTag) (name : String) : Prop :=
  ∃ top ∈ opened.head?, top.name = if isBranch name then ifTag else name

/-- If it closes a branch, the latest one has its name and is open. -/
def EndsBranch (opened : List OpenTag) (name : String) : Prop :=
  isBranch name = true → ∃ top ∈ opened.head?, top.branch = some name

/-- **A closing tag matches**: it has the name of the innermost open tag, or it
stands directly in a choice whose latest branch has its name and is open. -/
def Matches (opened : List OpenTag) (name : String) : Prop :=
  ∃ top ∈ opened.head?,
    if isBranch name then top.name = ifTag ∧ top.branch = some name else top.name = name

theorem matches_iff {opened : List OpenTag} {name : String} :
    Matches opened name ↔ InPlace opened name ∧ EndsBranch opened name := by
  cases opened with
  | nil => simp [Matches, InPlace]
  | cons top outer => cases h : isBranch name <;> simp [Matches, InPlace, EndsBranch, h]

end Tag

namespace Piece

/-- The open tags behind one more piece, the innermost first. -/
def track (opened : List OpenTag) : Piece → List OpenTag
  | .text _ | .comment _ => opened
  | .opening shape name _ =>
    if Tag.isBranch name then opened.modifyHead ({ · with branch := some name })
    else
      match shape with
      | .selfClosing => opened
      | .block => ⟨name, none⟩ :: opened
  | .closing name =>
    if Tag.isBranch name then opened.modifyHead ({ · with branch := none }) else opened.tail

theorem track_closing {name : String} (h : Tag.isBranch name = false) (opened : List OpenTag) :
    track opened (.closing name) = opened.tail := by
  rw [track, if_neg (by rw [h]; exact Bool.false_ne_true)]

theorem track_closing_branch {name : String} (h : Tag.isBranch name = true)
    (opened : List OpenTag) :
    track opened (.closing name) = opened.modifyHead ({ · with branch := none }) := by
  rw [track, if_pos h]

/-- Something holds of every closing tag and the tags that are open before it. -/
def EachClosing (P : List OpenTag → String → Prop) (opened : List OpenTag) (pieces : List Piece) :
    Prop :=
  ∀ before name after, pieces = before ++ .closing name :: after →
    P (before.foldl track opened) name

variable {P Q R : List OpenTag → String → Prop} {opened : List OpenTag} {piece : Piece}
  {pieces : List Piece}

theorem eachClosing_nil : EachClosing P opened [] :=
  fun _ _ _ h => absurd h (by simp)

theorem eachClosing_cons : EachClosing P opened (piece :: pieces) ↔
    (∀ name, piece = .closing name → P opened name) ∧
      EachClosing P (track opened piece) pieces := by
  constructor
  · intro h
    exact ⟨fun name hpiece => h [] name pieces (by rw [hpiece]; rfl),
      fun before name after hpieces => h (piece :: before) name after (by rw [hpieces]; rfl)⟩
  · rintro ⟨hfirst, hrest⟩ before name after hpieces
    cases before with
    | nil =>
      cases hpieces
      exact hfirst name rfl
    | cons first before =>
      cases hpieces
      exact hrest before name after rfl

theorem eachClosing_and (h : ∀ opened name, P opened name ↔ Q opened name ∧ R opened name) :
    EachClosing P opened pieces ↔ EachClosing Q opened pieces ∧ EachClosing R opened pieces := by
  simp only [EachClosing, h, forall_and]

end Piece

namespace Builder

open Piece (track EachClosing)

variable {b b' : Builder} {opened : List OpenTag} {token : Token} {tokens : List Token}

/-- The frame is that of the open tag. -/
def Serves (frame : Frame) (top : OpenTag) : Prop :=
  frame.tag = top.name ∧ frame.kind.Named frame.tag

/-- The open frames are those of the open tags. -/
def Follows (b : Builder) (opened : List OpenTag) : Prop :=
  List.Forall₂ Serves b.stack opened

theorem follows_start (resolvers : Resolvers) (source : String) :
    (start resolvers source).Follows [] :=
  .nil

/-- What is known of the branches does not matter. -/
theorem Follows.modifyHead (hb : b.Follows opened) (branch : Option String) :
    b.Follows (opened.modifyHead ({ · with branch := branch })) := by
  rw [Follows] at hb ⊢
  generalize b.stack = stack at hb ⊢
  cases hb with
  | nil => exact .nil
  | cons hserves hrest => exact .cons hserves hrest

theorem Follows.addNode (hb : b.Follows opened) (node : Node) (position : Position) :
    (b.addNode node position).Follows opened := by
  rw [Follows] at hb ⊢
  unfold Builder.addNode
  split
  · next frame outer hstack =>
    rw [hstack] at hb
    cases hb with
    | cons hserves hrest => exact .cons hserves hrest
  · next hstack =>
    rw [hstack] at hb
    exact hstack ▸ hb

theorem Follows.closeFrame (hb : b.Follows opened) (stop : Nat) :
    (b.closeFrame stop).Follows opened.tail := by
  rw [Builder.closeFrame]
  split
  · next hstack =>
    rw [Follows, hstack, List.forall₂_nil_left_iff] at hb
    rw [hb, Follows, hstack]
    exact .nil
  · next frame outer hstack =>
    have hpopped : Follows { b with stack := outer } opened.tail := by
      rw [Follows, hstack] at hb
      cases hb with
      | cons _ hrest => exact hrest
    simp only
    split
    · exact hpopped.addNode _ _
    · exact hpopped

theorem Follows.addOpening (hb : b.Follows opened) {attrs : Attributes} {span : Span}
    {position : Position} {shape : TagShape} {name : String} {o : Opening}
    {problems : List Problem} (h : b.Opens attrs span position shape name o) :
    (b.addOpening name span position (o, problems)).Follows
      (track opened (.opening shape name attrs)) := by
  have hbranch := Tag.isBranch_of_notMem h.tag_notMem
  have hreport : (b.report problems position name).Follows opened := hb
  simp only [track, hbranch, Bool.false_eq_true, if_false]
  cases h with
  | var | inclusion | parent | tag => exact hreport.addNode _ _
  | choice | loop | block | message => exact .cons ⟨rfl, rfl⟩ hb
  | blockTag _ hname _ => exact .cons ⟨rfl, hname⟩ hb

/-- The tag of the innermost frame is that of the innermost open tag. -/
theorem Follows.exists_top (hb : b.Follows opened) {frame : Frame} {outer : List Frame}
    (hstack : b.stack = frame :: outer) : ∃ top ∈ opened.head?, Serves frame top := by
  rw [Follows, hstack] at hb
  cases hb with
  | cons hserves _ => exact ⟨_, rfl, hserves⟩

theorem Follows.exists_frame (hb : b.Follows opened) {top : OpenTag} (htop : top ∈ opened.head?) :
    ∃ frame outer, b.stack = frame :: outer ∧ Serves frame top := by
  rw [Follows] at hb
  generalize b.stack = stack at hb ⊢
  cases hb with
  | nil => cases htop
  | cons hserves _ =>
    cases htop
    exact ⟨_, _, rfl, hserves⟩

theorem Follows.named (hb : b.Follows opened) : ∀ frame ∈ b.stack, frame.kind.Named frame.tag := by
  rw [Follows] at hb
  generalize b.stack = stack at hb ⊢
  induction hb with
  | nil => exact List.forall_mem_nil _
  | cons hserves _ ih => exact List.forall_mem_cons.2 ⟨hserves.2, ih⟩

/-- A branch that ends leaves its frame open. -/
theorem Follows.nextBranch (hb : b.Follows opened) {frame : Frame} {outer : List Frame}
    {info : NodeInfo} {done : List Branch} {current : OpenBranch} {next : Option OpenBranch}
    (hstack : b.stack = frame :: outer) (hkind : frame.kind = .choice info done (some current)) :
    (b.nextBranch frame outer info done current next).Follows opened := by
  rw [Follows, hstack] at hb
  cases hb with
  | cons hserves hrest =>
    obtain ⟨hname, hnamed⟩ := hserves
    rw [hkind] at hnamed
    exact .cons ⟨hname, hnamed⟩ hrest

/-- The frames of choices are those with their tag. -/
theorem isChoice_iff {frame : Frame} (h : frame.kind.Named frame.tag) :
    frame.kind.isChoice = true ↔ frame.tag = Tag.ifTag := by
  obtain ⟨tag, start, position, kind, children⟩ := frame
  cases kind with
  | choice => exact iff_of_true rfl h
  | discard => exact h.elim
  | tag info attrs =>
    refine iff_of_false Bool.false_ne_true fun htag => h ?_
    obtain rfl : tag = Tag.ifTag := htag
    exact List.contains_iff_mem.1 rfl
  | loop | block | message =>
    exact iff_of_false Bool.false_ne_true
      fun htag => absurd (Eq.trans (Eq.symm h) htag) (by decide)

/-- **A token keeps to the open tags**, and a closing tag stands where it
should. -/
theorem Takes.follows (h : b.Takes token b') (hb : b.Follows opened) :
    b'.Follows (track opened token.piece) ∧
      ∀ name, token.piece = .closing name → Tag.InPlace opened name := by
  cases h with
  | text | comment => exact ⟨hb.addNode _ _, by rintro _ ⟨⟩⟩
  | opening hopens => exact ⟨hb.addOpening hopens, by rintro _ ⟨⟩⟩
  | extending => exact ⟨hb, by rintro _ ⟨⟩⟩
  | elseIf hstack hkind | otherwise hstack hkind =>
    exact ⟨(hb.nextBranch hstack hkind).modifyHead _, by rintro _ ⟨⟩⟩
  | @close _ span _ _ _ hstack htag =>
    subst htag
    obtain ⟨top, htop, hname, hnamed⟩ := hb.exists_top hstack
    have hbranch := hnamed.isBranch_eq
    refine ⟨?_, ?_⟩
    · rw [Piece.track_closing hbranch]
      exact hb.closeFrame span.stop
    · rintro _ ⟨⟩
      refine ⟨top, htop, ?_⟩
      rw [hbranch, hname]
      rfl
  | @closeBranch name _ _ hname hchoice =>
    have hbranch : Tag.isBranch name = true := Tag.isBranch_iff.2 hname
    refine ⟨?_, ?_⟩
    · rw [Piece.track_closing_branch hbranch]
      exact hb.modifyHead none
    · rintro _ ⟨⟩
      cases hstack : b.stack with
      | nil => simp [hstack] at hchoice
      | cons frame outer =>
        obtain ⟨top, htop, htag, hnamed⟩ := hb.exists_top hstack
        rw [hstack] at hchoice
        refine ⟨top, htop, ?_⟩
        rw [hbranch, ← htag]
        exact (isChoice_iff hnamed).1 hchoice

/-- **A closing tag of a branch is ignored** where it may stand. -/
theorem takes_closing_branch_iff (hb : b.Follows opened) {name : String} {span : Span}
    {position : Position} (hname : Tag.isBranch name = true) :
    b.Takes ⟨.closing name, span, position⟩ b' ↔ Tag.InPlace opened name ∧ b' = b := by
  constructor
  · intro h
    refine ⟨(h.follows hb).2 name rfl, ?_⟩
    cases h with
    | close hstack htag =>
      subst htag
      obtain ⟨top, -, -, hnamed⟩ := hb.exists_top hstack
      rw [hnamed.isBranch_eq] at hname
      cases hname
    | closeBranch => rfl
  · rintro ⟨⟨top, htop, htag⟩, rfl⟩
    rw [hname, if_pos rfl] at htag
    obtain ⟨frame, outer, hstack, hsame, hnamed⟩ := hb.exists_frame htop
    refine .closeBranch (Tag.isBranch_iff.1 hname) ?_ fun frame hframe hopen => ?_
    · rw [hstack]
      exact (isChoice_iff hnamed).2 (hsame.trans htag)
    · have hnot := (hb.named frame hframe).isBranch_eq
      rw [hopen, hname] at hnot
      cases hnot

/-- **Closing tags of branches can be left out**, and put in where they may
stand: what is left of the tokens is taken alike. -/
theorem takesAll_iff_filter (hb : b.Follows opened) :
    TakesAll b tokens b' ↔ EachClosing Tag.InPlace opened (tokens.map Token.piece) ∧
      TakesAll b (tokens.filter (!·.piece.closesBranch)) b' := by
  induction tokens generalizing b opened with
  | nil => exact ⟨fun h => ⟨Piece.eachClosing_nil, h⟩, And.right⟩
  | cons token rest ih =>
    rw [List.map_cons, Piece.eachClosing_cons, List.filter_cons]
    cases hbranch : token.piece.closesBranch with
    | true =>
      obtain ⟨piece, span, position⟩ := token
      obtain ⟨name, rfl, hname⟩ : ∃ name, piece = .closing name ∧ Tag.isBranch name = true := by
        cases piece with
        | closing name => exact ⟨name, rfl, hbranch⟩
        | _ => cases hbranch
      have htrack : b.Follows (track opened (.closing name)) := by
        rw [Piece.track_closing_branch hname]
        exact hb.modifyHead none
      simp only [Bool.not_true, Bool.false_eq_true, if_false, Piece.closing.injEq, forall_eq']
      rw [and_assoc, ← ih htrack]
      constructor
      · rintro (_ | ⟨htakes, hrest⟩)
        obtain ⟨hplace, rfl⟩ := (takes_closing_branch_iff hb hname).1 htakes
        exact ⟨hplace, hrest⟩
      · rintro ⟨hplace, hrest⟩
        exact .cons ((takes_closing_branch_iff hb hname).2 ⟨hplace, rfl⟩) hrest
    | false =>
      simp only [Bool.not_false, if_true]
      constructor
      · rintro (_ | ⟨htakes, hrest⟩)
        obtain ⟨hnext, hplace⟩ := htakes.follows hb
        obtain ⟨heach, hkept⟩ := (ih hnext).1 hrest
        exact ⟨⟨hplace, heach⟩, .cons htakes hkept⟩
      · rintro ⟨⟨hplace, heach⟩, _ | ⟨htakes, hkept⟩⟩
        exact .cons htakes ((ih (htakes.follows hb).1).2 ⟨heach, hkept⟩)

end Builder

namespace Tree

variable {rs : Resolvers} {source : String} {tokens : List Token} {b : Builder}

/-- The tree of tokens that are taken and leave no tag open. -/
theorem build_eq (htakes : Builder.TakesAll (.start rs source) tokens b) (hstack : b.stack = [])
    (name : String) :
    build rs name source tokens = (⟨name, b.root.toList⟩, b.finish.issues.toList) := by
  have hbuild : build rs name source tokens =
      (⟨name, (tokens.foldl Builder.accept (.start rs source)).finish.root.toList⟩,
        (tokens.foldl Builder.accept (.start rs source)).finish.issues.toList) := rfl
  rw [hbuild, htakes.foldl_eq, Builder.root_finish hstack]

/-- **A tree without an error** is one of tokens that are taken, and leave no
tag open. -/
theorem build_clean_iff (hbuilt : ∀ token ∈ tokens, token.Built) (name : String) :
    (∀ issue ∈ (build rs name source tokens).2, issue.isError = false) ↔
      ∃ b, Builder.TakesAll (.start rs source) tokens b ∧ b.stack = [] := by
  constructor
  · intro hclean
    obtain ⟨hrun, hstack⟩ := Builder.clean_finish.1 hclean
    exact ⟨_, Builder.takesAll_of_clean hbuilt hrun, hstack⟩
  · rintro ⟨b, htakes, hstack⟩
    rw [build_eq htakes hstack]
    exact Builder.clean_finish.2 ⟨htakes.clean_iff.2 (Builder.clean_start _ _), hstack⟩

end Tree

namespace Template

open Piece (EachClosing)

variable {d : Delimiters} {rs : Resolvers} {name source : String} {tokens : List Token}
  {t : Template}

/-- **Closing tags match.** A template is accepted where every closing tag has
the name of the innermost open tag, or is that of a branch and stands directly
in a choice, and where nothing is wrong without the closing tags of branches;
and these leave nothing in its tree. So each of its closing tags matches where
those of branches close one that is open. -/
theorem closings_iff (hread : Token.read d source = .ok tokens) :
    (Template.parse d rs name source = .ok t ↔
      EachClosing Tag.InPlace [] (tokens.map Token.piece) ∧
        ∃ tree issues,
          Tree.build rs name source (tokens.filter (!·.piece.closesBranch)) = (tree, issues) ∧
          (∀ issue ∈ issues, issue.isError = false) ∧ t = { name, source, tree, issues }) ∧
    (Template.parse d rs name source = .ok t →
      (EachClosing Tag.Matches [] (tokens.map Token.piece) ↔
        EachClosing Tag.EndsBranch [] (tokens.map Token.piece))) := by
  have hbuilt : ∀ token ∈ tokens.filter (!·.piece.closesBranch), token.Built := fun token htoken =>
    Token.built_of_read hread token (List.mem_of_mem_filter htoken)
  have haccepted : Template.parse d rs name source = .ok t ↔
      EachClosing Tag.InPlace [] (tokens.map Token.piece) ∧
        ∃ tree issues,
          Tree.build rs name source (tokens.filter (!·.piece.closesBranch)) = (tree, issues) ∧
          (∀ issue ∈ issues, issue.isError = false) ∧ t = { name, source, tree, issues } := by
    rw [parse_eq_ok_iff]
    constructor
    · rintro ⟨_, b, hsame, htakes, hstack, rfl⟩
      cases hread.symm.trans hsame
      obtain ⟨heach, hkept⟩ :=
        (Builder.takesAll_iff_filter (Builder.follows_start rs source)).1 htakes
      have hclean := (Tree.build_clean_iff hbuilt name).2 ⟨b, hkept, hstack⟩
      rw [Tree.build_eq hkept hstack] at hclean
      exact ⟨heach, _, _, Tree.build_eq hkept hstack name, hclean, rfl⟩
    · rintro ⟨heach, tree, issues, hbuild, hclean, rfl⟩
      have hissues :
          (Tree.build rs name source (tokens.filter (!·.piece.closesBranch))).2 = issues :=
        congrArg Prod.snd hbuild
      obtain ⟨b, hkept, hstack⟩ := (Tree.build_clean_iff hbuilt name).1 (hissues ▸ hclean)
      rw [Tree.build_eq hkept hstack] at hbuild
      cases hbuild
      exact ⟨tokens, b, hread,
        (Builder.takesAll_iff_filter (Builder.follows_start rs source)).2 ⟨heach, hkept⟩, hstack,
        rfl⟩
  refine ⟨haccepted, fun h => ?_⟩
  rw [Piece.eachClosing_and fun _ _ => Tag.matches_iff, and_iff_right (haccepted.1 h).1]

end Template

namespace Sample

open Piece (EachClosing)

/-- What is read of a source that is accepted. -/
theorem exists_accepted {source : String} {pieces : List Piece}
    (h : ((Token.read .standard source).toOption.any fun tokens =>
      decide (tokens.map Token.piece = pieces) &&
        (Template.parse .standard .builtin "t" source).toOption.isSome) = true) :
    ∃ tokens t, Token.read .standard source = .ok tokens ∧
      Template.parse .standard .builtin "t" source = .ok t ∧ tokens.map Token.piece = pieces := by
  cases hread : Token.read .standard source with
  | error failure =>
    rw [hread] at h
    cases h
  | ok tokens =>
    cases hparse : Template.parse .standard .builtin "t" source with
    | error failure =>
      rw [hread, hparse] at h
      simp [Except.toOption] at h
    | ok t =>
      rw [hread] at h
      simp only [Except.toOption, Option.any_some, Bool.and_eq_true, decide_eq_true_eq] at h
      exact ⟨tokens, t, rfl, rfl, h.1⟩

/-- A choice whose last body is closed. -/
def closedBranch : String :=
  tagged "prompty.if eval=\"a\"" ++ "x" ++ tagged "prompty.else" ++ "y" ++
    tagged "/prompty.else" ++ tagged "/prompty.if"

def closedPieces : List Piece :=
  [.opening .block Tag.ifTag ⟨[("eval", "a")]⟩, .text "x", .opening .block Tag.elseTag .empty,
   .text "y", .closing Tag.elseTag, .closing Tag.ifTag]

/-- It is accepted, and its closing tags match. -/
theorem closings_iff_closedBranch :
    ∃ tokens t, Token.read .standard closedBranch = .ok tokens ∧
      Template.parse .standard .builtin "t" closedBranch = .ok t ∧
      tokens.map Token.piece = closedPieces ∧
      EachClosing Tag.Matches [] (tokens.map Token.piece) := by
  obtain ⟨tokens, t, hread, hparse, hpieces⟩ :=
    @exists_accepted closedBranch closedPieces (by decide +kernel)
  refine ⟨tokens, t, hread, hparse, hpieces, ((Template.closings_iff hread).2 hparse).2 ?_⟩
  have hif : Tag.isBranch Tag.ifTag = false := by decide
  have helse : Tag.isBranch Tag.elseTag = true := by decide
  simp [hpieces, closedPieces, Piece.eachClosing_cons, Piece.eachClosing_nil, Tag.EndsBranch,
    Piece.track, hif, helse]

/-- A choice of one branch, with the closing tag of a last body in it. -/
def strayClosing : String :=
  tagged "prompty.if eval=\"a\"" ++ "x" ++ tagged "/prompty.else" ++ tagged "/prompty.if"

def strayPieces : List Piece :=
  [.opening .block Tag.ifTag ⟨[("eval", "a")]⟩, .text "x", .closing Tag.elseTag,
   .closing Tag.ifTag]

/-- It is accepted, though no last body is open where it is closed. -/
theorem strayClosing_accepted :
    ∃ tokens t, Token.read .standard strayClosing = .ok tokens ∧
      Template.parse .standard .builtin "t" strayClosing = .ok t ∧
      tokens.map Token.piece = strayPieces ∧
      ¬ EachClosing Tag.Matches [] (tokens.map Token.piece) := by
  obtain ⟨tokens, t, hread, hparse, hpieces⟩ :=
    @exists_accepted strayClosing strayPieces (by decide +kernel)
  refine ⟨tokens, t, hread, hparse, hpieces, fun hmatches => ?_⟩
  have hif : Tag.isBranch Tag.ifTag = false := by decide
  have helse : Tag.isBranch Tag.elseTag = true := by decide
  simp [hpieces, strayPieces, Piece.eachClosing_cons, Piece.eachClosing_nil, Tag.Matches,
    Piece.track, hif, helse] at hmatches

end Sample

end PromptMarkup
