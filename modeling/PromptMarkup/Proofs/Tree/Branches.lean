import PromptMarkup.Proofs.Token.Spans
import PromptMarkup.Proofs.Tree.Kept
/-!
# Tree — branches stand one behind the other

The first branch of a choice has the tag of the choice, and each further one a
tag of its own. Tokens come in the order of the source, so the tags of the
branches do (`Template.staggered_of_parse`). Hence in an accepted template the
first branch alone stands where its choice does (`Position.RunsFrom.same_iff`).
-/

namespace PromptMarkup

/-! ## The order of places -/

namespace Position

variable {p q r : Position}

/-- The place is on a line before the other's, or further left on the same. -/
def Before (p q : Position) : Prop :=
  p.line < q.line ∨ p.line = q.line ∧ p.column < q.column

theorem Before.trans (h : p.Before q) (h' : q.Before r) : p.Before r := by
  simp only [Before] at *
  omega

theorem before_advance (p : Position) (c : Char) : p.Before (p.advance c) := by
  rw [advance]
  split
  · exact .inl (Nat.lt_succ_self _)
  · exact .inr ⟨rfl, Nat.lt_succ_self _⟩

/-- A place is before the one behind any text. -/
theorem before_advanceBy (p : Position) {cs : List Char} (h : cs ≠ []) :
    p.Before (p.advanceBy cs) := by
  induction cs generalizing p with
  | nil => exact absurd rfl h
  | cons c rest ih =>
    have hfirst := p.before_advance c
    rw [advanceBy_cons]
    by_cases hrest : rest = []
    · rw [hrest]
      exact hfirst
    · exact hfirst.trans (ih _ hrest)

/-- Places that come one after another, if any from this one on. -/
def RunsFrom (first : Position) (places : List Position) : Prop :=
  (∀ p ∈ places.head?, p = first) ∧ places.Pairwise Before

theorem runsFrom_singleton (p : Position) : RunsFrom p [p] :=
  ⟨fun _ hfirst => (Option.some.inj hfirst).symm, List.pairwise_singleton _ _⟩

/-- One more place may follow that all of them are before. -/
theorem RunsFrom.concat {first : Position} {places : List Position} (h : RunsFrom first places)
    (hne : places ≠ []) (hbefore : ∀ p ∈ places, p.Before q) : RunsFrom first (places ++ [q]) := by
  obtain ⟨hfirst, horder⟩ := h
  refine ⟨?_, List.pairwise_append.2 ⟨horder, List.pairwise_singleton _ _, ?_⟩⟩
  · rwa [List.head?_append_of_ne_nil _ hne]
  · exact fun p hp last hlast => List.mem_singleton.1 hlast ▸ hbefore p hp

/-- Of such places the first alone is on the line and in the column where they
begin. -/
theorem RunsFrom.same_iff {first place : Position} {before after : List Position}
    (h : RunsFrom first (before ++ place :: after)) :
    place.line = first.line ∧ place.column = first.column ↔ before = [] := by
  obtain ⟨hfirst, horder⟩ := h
  cases before with
  | nil =>
    have hplace : place = first := hfirst place rfl
    rw [hplace]
    exact iff_of_true ⟨rfl, rfl⟩ rfl
  | cons start rest =>
    have hstart : start = first := hfirst start rfl
    have hbefore : start.Before place := by
      rw [List.cons_append, List.pairwise_cons] at horder
      exact horder.1 place (List.mem_append_right _ List.mem_cons_self)
    refine iff_of_false (fun hsame => ?_) (List.cons_ne_nil _ _)
    rw [hstart, Before] at hbefore
    omega

end Position

/-- What is before a cursor is before where it moves. -/
theorem Cursor.Onward.before {c next : Cursor} (h : c.Onward next) {p : Position}
    (hp : p.Before c.position) : p.Before next.position := by
  obtain ⟨passed, -, hnext⟩ := h
  rw [hnext, Cursor.past]
  by_cases hpassed : passed = []
  · rw [hpassed]
    exact hp
  · exact hp.trans (c.position.before_advanceBy hpassed)

/-- A tag has at least its opening delimiter, so it stands before what is behind
it. -/
theorem Delimiters.before_past {d : Delimiters} (hopening : d.opening.toList ≠ []) {first : Cursor}
    {body behind : List Char} (htag : ∃ content, body = d.around content) :
    first.position.Before (first.past body behind).position := by
  obtain ⟨content, hcontent⟩ := htag
  refine first.position.before_advanceBy ?_
  rw [hcontent]
  simp [Delimiters.around, hopening]

/-! ## Choices and their frames -/

/-- The branches of a choice come one after another, from where the choice
stands. -/
def Node.Staggered : Node → Prop
  | .choice info branches _ => Position.RunsFrom info.position (branches.map Branch.position)
  | _ => True

/-- So do those of an open choice, and all are before what is still to be
read. -/
def FrameKind.Staggered (reached : Position) : FrameKind → Prop
  | .choice info done current =>
    let places := done.map Branch.position ++ (current.map OpenBranch.position).toList
    Position.RunsFrom info.position places ∧ ∀ p ∈ places, p.Before reached
  | _ => True

theorem FrameKind.Staggered.later {reached next : Position} {kind : FrameKind}
    (h : kind.Staggered reached) (hlater : ∀ p : Position, p.Before reached → p.Before next) :
    kind.Staggered next := by
  cases kind with
  | choice info done current => exact ⟨h.1, fun p hp => hlater p (h.2 p hp)⟩
  | _ => trivial

/-- A closed frame becomes such a choice. -/
theorem Frame.staggered_node? {frame : Frame} {reached : Position} {source : List Char}
    {span : Span} {node : Node} (hframe : frame.kind.Staggered reached)
    (h : frame.node? source span = some node) : node.Staggered := by
  obtain ⟨tag, start, position, kind, children⟩ := frame
  cases kind with
  | choice info done current =>
    obtain ⟨hruns, -⟩ := hframe
    cases current with
    | some current =>
      cases h
      simpa [Node.Staggered, NodeInfo.spanning, Branch.position] using hruns
    | none =>
      cases h
      simpa [Node.Staggered, NodeInfo.spanning] using hruns
  | discard => cases h
  | loop | block | message | tag =>
    cases h
    trivial

namespace Builder

variable {b b' : Builder}

/-- **A token keeps the order of branches**: it stands behind the branches of
the choice that it continues. -/
theorem Takes.staggered {token : Token} {reached : Position} (h : b.Takes token b')
    (hb : b.Keeps Node.Staggered fun _ => FrameKind.Staggered token.position)
    (hlater : ∀ p : Position, p.Before token.position → p.Before reached)
    (htag : token.piece.tag?.isSome → token.position.Before reached) :
    b'.Keeps Node.Staggered fun _ => FrameKind.Staggered reached := by
  refine h.keeps hb ?leaf (fun _ kind hkind => hkind.later hlater) ?opened ?continued
    fun frame span node => Frame.staggered_node?
  case leaf =>
    rintro node ⟨hbodies, -, -⟩
    cases node with
    | choice info branches otherwise =>
      -- a choice without bodies would have no branches either
      have hnone : branches = [] := by
        cases otherwise <;> simp_all [Node.bodies]
      rw [hnone]
      exact ⟨fun _ h => absurd h (by simp), .nil⟩
    | _ => trivial
  case opened =>
    intro shape name attrs kind hpiece hopens
    have hbefore : token.position.Before reached := htag (by rw [hpiece]; rfl)
    cases hopens with
    | choice => exact ⟨Position.runsFrom_singleton _, List.forall_mem_singleton.2 hbefore⟩
    | loop | block | message | blockTag => trivial
  case continued =>
    rintro tag info done current next body hpiece ⟨hruns, hplaces⟩ hnext
    have hsame : (done ++ [Branch.mk current.position current.source current.condition body]).map
        Branch.position = done.map Branch.position ++ [current.position] := List.map_append
    simp only [Option.map_some, Option.toList_some] at hruns hplaces
    rw [FrameKind.Staggered, hsame]
    cases next with
    | none =>
      rw [Option.map_none, Option.toList_none, List.append_nil]
      exact ⟨hruns, fun p hp => hlater p (hplaces p hp)⟩
    | some next =>
      -- the token is where the next branch stands, behind all of them
      rw [Option.map_some, Option.toList_some, hnext next rfl]
      refine ⟨hruns.concat (by simp) hplaces, List.forall_mem_append.2 ⟨?_, ?_⟩⟩
      · exact fun p hp => hlater p (hplaces p hp)
      · exact List.forall_mem_singleton.2 (htag hpiece)

/-- **So do all tokens of a source.** -/
theorem TakesAll.staggered {d : Delimiters} {c last : Cursor} {tokens : List Token}
    (hopening : d.opening.toList ≠ []) (hlaid : Token.Laid d c tokens last)
    (h : TakesAll b tokens b')
    (hb : b.Keeps Node.Staggered fun _ => FrameKind.Staggered c.position) :
    b'.Keeps Node.Staggered fun _ => FrameKind.Staggered last.position := by
  induction hlaid generalizing b with
  | nil honward =>
    cases h
    exact hb.imp fun _ kind hkind => hkind.later fun p => honward.before
  | @cons c first last piece body behind rest hfirst hbody htag _ ih =>
    cases h with
    | cons htakes hrest =>
      have hbehind : first.Onward (first.past body behind) := Cursor.onward_past hbody
      refine ih hrest (htakes.staggered ?_ (fun p => hbehind.before) fun hpiece => ?_)
      · exact hb.imp fun _ kind hkind => hkind.later fun p => hfirst.before
      · exact Delimiters.before_past hopening (htag hpiece)

end Builder

/-- **The branches of an accepted template stand one behind the other.** -/
theorem Template.staggered_of_parse {d : Delimiters} {rs : Resolvers} {name source : String}
    {t : Template} (hopening : d.opening.toList ≠ [])
    (h : Template.parse d rs name source = .ok t) :
    Node.Throughout Node.Staggered t.tree.nodes := by
  obtain ⟨tokens, b, hread, htakes, -, rfl⟩ := parse_eq_ok_iff.1 h
  obtain ⟨last, hlaid⟩ := Token.laid_read hread
  exact (htakes.staggered hopening hlaid (Builder.keeps_start _ _ rs source)).root

end PromptMarkup
