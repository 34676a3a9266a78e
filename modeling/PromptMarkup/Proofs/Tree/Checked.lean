import PromptMarkup.Proofs.Tree.Closings
/-!
# Tree — whose strategies are checked

A tag says in an attribute what is to happen when it fails. The attribute is
checked where the info of a node is made or a block or a turn is opened, so an
accepted template has no tag of these kinds with another word in it
(`Builder.Takes.strategy`). The tags that make no such node do not look at the
attribute (`Builder.accept_set_strategy`), and one with any word in it is
accepted (`Tag.checksStrategy_iff`).
-/

namespace PromptMarkup

namespace Strategy

/-- The text is the name of a strategy, up to case and white space around it. -/
def Names (s : Strategy) (raw : String) : Prop :=
  String.ofList ((Text.trim raw.toList).map Char.toLower) = s.name

/-- A text that can be read is the name of a strategy. -/
theorem names_of_read {raw : String} {s : Strategy} (h : Strategy.read raw = .ok s) :
    s.Names raw := by
  simp only [Strategy.read] at h
  split at h
  · next own hown =>
    cases h
    have := List.find?_some hown
    exact (beq_iff_eq.1 this).symm
  · cases h

end Strategy

namespace Tag

/-- The tags that do not look at the strategy they name: those that continue a
choice, extend a template or stand for what a block replaces. -/
def heedless : List String :=
  [elseIfTag, elseTag, extendsTag, parent]

/-- In every accepted source all tags of this name that name a strategy at all
name one that there is. -/
def ChecksStrategy (name : String) : Prop :=
  ∀ d rs template source tokens t, Token.read d source = .ok tokens →
    Template.parse d rs template source = .ok t →
    ∀ token ∈ tokens, ∀ shape attrs raw, token.piece = .opening shape name attrs →
      attrs.get? "onerror" = some raw → ∃ s : Strategy, s.Names raw

end Tag

namespace Builder

variable {b b' : Builder} {token : Token} {tokens : List Token} {attrs : Attributes}
  {shape : TagShape} {name raw : String}

/-- A strategy that is no problem is one that there is. -/
theorem names_of_harmless (h : Harmless (strategyOf attrs).2)
    (hraw : attrs.get? "onerror" = some raw) : ∃ s : Strategy, s.Names raw := by
  rw [strategyOf, hraw] at h
  simp only at h
  split at h
  · next s hs => exact ⟨s, Strategy.names_of_read hs⟩
  · simp [Problem.severity] at h

/-- **A tag that is taken names a strategy**, if it is one of those that look at
it. -/
theorem Takes.strategy (h : b.Takes token b') (hpiece : token.piece = .opening shape name attrs)
    (hname : name ∉ Tag.heedless) (hraw : attrs.get? "onerror" = some raw) :
    ∃ s : Strategy, s.Names raw := by
  cases h with
  | text | comment | close | closeBranch => cases hpiece
  | opening hopens =>
    cases hpiece
    cases hopens with
    | parent => exact absurd (List.contains_iff_mem.1 rfl) hname
    | var hstrategy | inclusion hstrategy | tag hstrategy | choice hstrategy | loop hstrategy
    | block hstrategy | message hstrategy | blockTag hstrategy =>
      exact names_of_harmless hstrategy hraw
  | extending | elseIf | otherwise =>
    cases hpiece
    exact absurd (List.contains_iff_mem.1 rfl) hname

/-- Each of the tokens is taken at its place. -/
theorem TakesAll.exists_takes (h : TakesAll b tokens b') (htoken : token ∈ tokens) :
    ∃ b₁ b₂, Takes b₁ token b₂ := by
  induction h with
  | nil => cases htoken
  | cons htakes _ ih =>
    obtain rfl | hrest := List.mem_cons.1 htoken
    · exact ⟨_, _, htakes⟩
    · exact ih hrest

/-- **A heedless tag is taken alike** whatever strategy it names. -/
theorem accept_set_strategy (hname : name ∈ Tag.heedless) (b : Builder) (shape : TagShape)
    (attrs : Attributes) (span : Span) (position : Position) (word : String) :
    b.accept ⟨.opening shape name (attrs.set "onerror" word), span, position⟩ =
      b.accept ⟨.opening shape name attrs, span, position⟩ := by
  have hfilled : ∀ other, other ≠ "onerror" →
      (attrs.set "onerror" word).filled? other = attrs.filled? other := fun other hother => by
    rw [Attributes.filled?, Attributes.get?_set, if_neg hother, Attributes.filled?]
  have hbranch : ∀ tag, b.branch tag (attrs.set "onerror" word) position =
      b.branch tag attrs position := fun tag => by
    simp only [branch, branchOf, missing, hfilled "eval" (by decide)]
  have hextending : b.extending shape (attrs.set "onerror" word) span position =
      b.extending shape attrs span position := by
    simp only [extending, hfilled "template" (by decide)]
  simp only [Tag.heedless, List.mem_cons, List.not_mem_nil, or_false] at hname
  obtain rfl | rfl | rfl | rfl := hname
  · exact hbranch Tag.elseIfTag
  · exact hbranch Tag.elseTag
  · exact hextending
  · rfl

end Builder

namespace Sample

/-- A template with a tag of each heedless kind, all with a word that names no
strategy. -/
def unheeded : String :=
  tagged "prompty.extends template=\"p\" onerror=\"explode\" /" ++
    tagged "prompty.block name=\"b\"" ++ tagged "prompty.parent onerror=\"explode\" /" ++
    tagged "prompty.if eval=\"a\"" ++ tagged "prompty.elseif eval=\"a\" onerror=\"explode\"" ++
    tagged "prompty.else onerror=\"explode\"" ++ tagged "/prompty.if" ++ tagged "/prompty.block"

def unheededPieces : List Piece :=
  [.opening .selfClosing Tag.extendsTag ⟨[("template", "p"), ("onerror", "explode")]⟩,
   .opening .block Tag.block ⟨[("name", "b")]⟩,
   .opening .selfClosing Tag.parent ⟨[("onerror", "explode")]⟩,
   .opening .block Tag.ifTag ⟨[("eval", "a")]⟩,
   .opening .block Tag.elseIfTag ⟨[("eval", "a"), ("onerror", "explode")]⟩,
   .opening .block Tag.elseTag ⟨[("onerror", "explode")]⟩,
   .closing Tag.ifTag, .closing Tag.block]

theorem not_names_explode (s : Strategy) : ¬ s.Names "explode" := by
  rw [Strategy.Names]
  cases s <;> decide

/-- It is accepted, with a tag of each of these names. -/
theorem unheeded_spec {name : String} (h : name ∈ Tag.heedless) :
    ∃ tokens t, Token.read .standard unheeded = .ok tokens ∧
      Template.parse .standard .builtin "t" unheeded = .ok t ∧
      ∃ token ∈ tokens, ∃ shape attrs, token.piece = .opening shape name attrs ∧
        attrs.get? "onerror" = some "explode" := by
  obtain ⟨tokens, t, hread, hparse, hpieces⟩ :=
    @exists_accepted unheeded unheededPieces (by decide +kernel)
  obtain ⟨shape, attrs, hmem, hword⟩ : ∃ shape attrs,
      .opening shape name attrs ∈ unheededPieces ∧ attrs.get? "onerror" = some "explode" := by
    simp only [Tag.heedless, List.mem_cons, List.not_mem_nil, or_false] at h
    obtain rfl | rfl | rfl | rfl := h
    · exact ⟨.block, ⟨[("eval", "a"), ("onerror", "explode")]⟩, List.contains_iff_mem.1 rfl, rfl⟩
    · exact ⟨.block, ⟨[("onerror", "explode")]⟩, List.contains_iff_mem.1 rfl, rfl⟩
    · exact ⟨.selfClosing, ⟨[("template", "p"), ("onerror", "explode")]⟩,
        List.contains_iff_mem.1 rfl, rfl⟩
    · exact ⟨.selfClosing, ⟨[("onerror", "explode")]⟩, List.contains_iff_mem.1 rfl, rfl⟩
  rw [← hpieces, List.mem_map] at hmem
  obtain ⟨token, htoken, hpiece⟩ := hmem
  exact ⟨tokens, t, hread, hparse, token, htoken, shape, attrs, hpiece, hword⟩

end Sample

namespace Tag

/-- **A strategy is checked** by all tags but the heedless ones. Of those, there
is an accepted template with a word in it that names none. -/
theorem checksStrategy_iff (name : String) : ChecksStrategy name ↔ name ∉ heedless := by
  constructor
  · intro hchecks hname
    obtain ⟨tokens, t, hread, hparse, token, htoken, shape, attrs, hpiece, hword⟩ :=
      Sample.unheeded_spec hname
    obtain ⟨s, hs⟩ := hchecks _ _ _ _ tokens t hread hparse token htoken shape attrs _ hpiece hword
    exact Sample.not_names_explode s hs
  · intro hname d rs template source tokens t hread hparse token htoken shape attrs raw hpiece hraw
    obtain ⟨_, b, hsame, htakes, -, -⟩ := Template.parse_eq_ok_iff.1 hparse
    cases hread.symm.trans hsame
    obtain ⟨b₁, b₂, htaken⟩ := htakes.exists_takes htoken
    exact htaken.strategy hpiece hname hraw

end Tag

namespace Sample

/-- A choice whose last body is to be handled by a strategy that there is not. -/
def explosive : String :=
  tagged "prompty.if eval=\"a\"" ++ "x" ++ tagged "prompty.else onerror=\"explode\"" ++ "y" ++
    tagged "/prompty.if"

def explosivePieces : List Piece :=
  [.opening .block Tag.ifTag ⟨[("eval", "a")]⟩, .text "x",
   .opening .block Tag.elseTag ⟨[("onerror", "explode")]⟩, .text "y", .closing Tag.ifTag]

/-- It is accepted. -/
theorem explosive_accepted :
    ∃ tokens t, Token.read .standard explosive = .ok tokens ∧
      Template.parse .standard .builtin "t" explosive = .ok t ∧
      (∃ token ∈ tokens,
        token.piece = .opening .block Tag.elseTag ⟨[("onerror", "explode")]⟩) ∧
      ∀ s : Strategy, ¬ s.Names "explode" := by
  obtain ⟨tokens, t, hread, hparse, hpieces⟩ :=
    @exists_accepted explosive explosivePieces (by decide +kernel)
  have hmem : Piece.opening .block Tag.elseTag ⟨[("onerror", "explode")]⟩ ∈
      tokens.map Token.piece := hpieces ▸ List.contains_iff_mem.1 rfl
  exact ⟨tokens, t, hread, hparse, List.mem_map.1 hmem, not_names_explode⟩

end Sample

end PromptMarkup
