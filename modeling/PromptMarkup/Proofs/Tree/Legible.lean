import PromptMarkup.Proofs.Engine.Involved
import PromptMarkup.Proofs.Engine.Session
import PromptMarkup.Proofs.Tree.Accepted
import PromptMarkup.Proofs.Tree.Kept
/-!
# Tree — names that a template was read with

The tags of a template that are left to resolvers have the names they are
written with, and their attributes too; a turn has one of the known roles
(`Node.Legible`). This is kept from the tags to the tree of an accepted template
(`Template.legible_of_parse`), and from the trees of templates to what they
stand for together (`Engine.legible_effective`).
-/

namespace PromptMarkup

open Node

/-- The names in the node are such as can be read. -/
def Node.Legible : Node → Prop
  | .tag _ name attrs | .blockTag _ name attrs _ => Token.isTagName name = true ∧ attrs.Writable
  | .message _ _ role _ => role ∈ messageRoles
  | .text .. | .comment .. | .var .. | .choice .. | .loop .. | .inclusion .. | .extending ..
  | .block .. | .parent .. => True

theorem Node.legible_bare (node : Node) : node.bare.Legible ↔ node.Legible := by
  cases node <;> rfl

/-- So are those of an open frame. -/
def FrameKind.Legible (tag : String) : FrameKind → Prop
  | .tag _ attrs => Token.isTagName tag = true ∧ attrs.Writable
  | .message role => role ∈ messageRoles
  | .choice .. | .loop .. | .block .. | .discard => True

theorem Frame.legible_node? {frame : Frame} {source : List Char} {span : Span} {node : Node}
    (hframe : frame.kind.Legible frame.tag) (h : frame.node? source span = some node) :
    node.Legible := by
  obtain ⟨tag, start, position, kind, children⟩ := frame
  cases kind with
  | choice info done current =>
    cases current <;>
      · cases h
        trivial
  | discard => cases h
  | loop | block =>
    cases h
    trivial
  | message | tag =>
    cases h
    exact hframe

/-- **A token keeps the names legible** if it is one that can be written where
it is a tag. -/
theorem Builder.Takes.legible {b b' : Builder} {token : Token} {d : Delimiters}
    (h : b.Takes token b') (htoken : token.piece.tag?.isSome → token.piece.Writable d)
    (hb : b.Keeps Node.Legible FrameKind.Legible) : b'.Keeps Node.Legible FrameKind.Legible := by
  have hnames : ∀ {shape name attrs}, token.piece = .opening shape name attrs →
      Token.isTagName name = true ∧ attrs.Writable := by
    intro shape name attrs hpiece
    have hwritable := htoken (by rw [hpiece]; rfl)
    rw [hpiece] at hwritable
    exact ⟨hwritable.1, hwritable.2.2.2⟩
  refine h.keeps hb ?leaf (fun _ _ => id) ?opened (fun _ _ _ _ _ _ _ _ _ => trivial)
    fun frame span node => Frame.legible_node?
  case leaf =>
    intro node hleaf
    cases node with
    | tag info name attrs =>
      obtain ⟨shape, hpiece⟩ := hleaf.tag info name attrs rfl
      exact hnames hpiece
    | blockTag | message => exact absurd hleaf.bodies (List.cons_ne_nil _ _)
    | _ => trivial
  case opened =>
    intro shape name attrs kind hpiece hopens
    cases hopens with
    | choice | loop | block => trivial
    | message _ _ hknown => exact hknown
    | blockTag => exact hnames hpiece

theorem Builder.TakesAll.legible {b b' : Builder} {tokens : List Token} {d : Delimiters}
    (h : TakesAll b tokens b')
    (htokens : ∀ token ∈ tokens, token.piece.tag?.isSome → token.piece.Writable d)
    (hb : b.Keeps Node.Legible FrameKind.Legible) : b'.Keeps Node.Legible FrameKind.Legible := by
  induction h with
  | nil => exact hb
  | cons htakes _ ih =>
    obtain ⟨htoken, hrest⟩ := List.forall_mem_cons.1 htokens
    exact ih hrest (htakes.legible htoken hb)

/-- **The names in an accepted template are legible.** -/
theorem Template.legible_of_parse {d : Delimiters} {rs : Resolvers} {name source : String}
    {t : Template} (h : Template.parse d rs name source = .ok t) :
    Throughout Node.Legible t.tree.nodes := by
  obtain ⟨tokens, b, hread, htakes, -, rfl⟩ := parse_eq_ok_iff.1 h
  exact (htakes.legible (Token.writable_of_read hread) (Builder.keeps_start _ _ rs source)).root

theorem Tree.Accepted.legible {tree : Tree} (h : tree.Accepted) :
    Throughout Node.Legible tree.nodes := by
  obtain ⟨d, rs, name, source, t, hparse, rfl⟩ := h
  exact Template.legible_of_parse hparse

/-- All templates of the store were accepted when they were read. -/
def Store.Accepted (store : Store) : Prop :=
  ∀ name t, Keyed.find? store name = some t → t.tree.Accepted

theorem Store.accepted_nil : Store.Accepted [] :=
  fun _ _ h => absurd h (Option.some_ne_none _).symm

/-- It is so after every session that registers accepted templates. -/
theorem Session.Sound.accepted {e : Engine} {s : Session} (h : s.Sound e)
    (hregistered : ∀ t ∈ s.registered, t.tree.Accepted) : s.store.Accepted := by
  intro name t hfind
  obtain ⟨-, hmem | ⟨source, -, hparse⟩⟩ := h.entry name t hfind
  · exact hregistered t hmem
  · exact ⟨_, _, _, _, t, hparse, rfl⟩

namespace Engine

variable {e : Engine} {store : Store} {t : Template} {j j' : Journal}

/-- With such a store, what an accepted template involves was accepted too. -/
theorem Involved.accepted {user : Template} (h : e.Involved store t user)
    (ht : t.tree.Accepted) (hstore : store.Accepted) : user.tree.Accepted := by
  induction h with
  | self => exact ht
  | @mentioned user found name _ _ hfound ih =>
    cases hfind : Keyed.find? store name with
    | some stored =>
      simp only [available, hfind] at hfound
      cases hfound
      exact hstore name _ hfind
    | none =>
      obtain ⟨source, -, hparse⟩ := provided_of_available hfind hfound
      exact ⟨_, _, _, _, found, hparse, rfl⟩

/-- **And the names in what it stands for are legible.** -/
theorem legible_effective (ht : t.tree.Accepted) (hstore : j.store.Accepted)
    {nodes : List Node} (h : (e.effective t).run j = (.ok nodes, j')) :
    Throughout Node.Legible nodes := by
  intro node hnode
  obtain ⟨user, huser, origin, horigin, hbare⟩ :=
    Involved.self.written_effective rfl h node hnode
  have hlegible := (huser.accepted ht hstore).legible origin horigin
  rw [← Node.legible_bare] at hlegible ⊢
  exact hbare ▸ hlegible

end Engine

end PromptMarkup
