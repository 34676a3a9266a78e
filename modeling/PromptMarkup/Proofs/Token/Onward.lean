import PromptMarkup.Proofs.Token.Local
/-!
# Token — readers only move on

Whatever reads a part of a tag leaves a cursor further on in the same text
(`Cursor.Onward`). A tag is read up to its closing delimiter
(`readAttributes_end`) and a verbatim body up to where it stops
(`readVerbatim?_stop`), so a token covers either the whole tag or what stands
between two tags (`Covers`, `covers_readTag`).
-/

namespace PromptMarkup

open Text

namespace Cursor

/-- The second cursor is the first one moved past a text. -/
def Onward (c next : Cursor) : Prop :=
  ∃ passed, c.rest = passed ++ next.rest ∧ next = c.past passed next.rest

variable {c next last : Cursor}

theorem onward_refl (c : Cursor) : c.Onward c :=
  ⟨[], rfl, rfl⟩

theorem Onward.trans (h : c.Onward next) (h' : next.Onward last) : c.Onward last := by
  obtain ⟨xs, hrest, hnext⟩ := h
  obtain ⟨ys, hrest', hlast⟩ := h'
  refine ⟨xs ++ ys, by rw [hrest, hrest', List.append_assoc], ?_⟩
  rw [← past_past c xs ys next.rest, ← hnext]
  exact hlast

/-- The text that was passed is the one before what is left. -/
theorem Onward.eq_past (h : c.Onward next) {xs : List Char} (hrest : c.rest = xs ++ next.rest) :
    next = c.past xs next.rest := by
  obtain ⟨passed, hpassed, hnext⟩ := h
  rw [hpassed] at hrest
  rwa [List.append_cancel_right hrest] at hnext

theorem onward_past {xs ys : List Char} (h : c.rest = xs ++ ys) : c.Onward (c.past xs ys) :=
  ⟨xs, h, rfl⟩

theorem onward_run (c : Cursor) (kind : Char → Bool) : c.Onward (c.run kind).2 :=
  onward_past List.takeWhile_append_dropWhile.symm

theorem onward_skipBlanks (c : Cursor) : c.Onward c.skipBlanks :=
  c.onward_run isBlank

theorem onward_eat? {text : List Char} (h : c.eat? text = some next) : c.Onward next :=
  ⟨text, eat?_eq_some_iff.1 h⟩

/-- Something is eaten behind white space. -/
theorem onward_eat?_skipBlanks {text : List Char} (h : c.skipBlanks.eat? text = some next) :
    c.Onward next :=
  c.onward_skipBlanks.trans (onward_eat? h)

end Cursor

namespace Token

open Cursor

variable {d : Delimiters} {c next : Cursor} {start : Position} {name : String}

/-! ## Parts of a tag -/

theorem onward_readName (h : readName start c = .ok (name, next)) : c.Onward next := by
  rw [readName] at h
  split at h
  · cases h
  · split at h
    · cases h
      exact c.onward_run isNameChar
    · cases h

theorem onward_readQuoted {value : String} (h : readQuoted start c = .ok (value, next)) :
    c.Onward next := by
  rw [readQuoted] at h
  split at h
  · cases h
  · next quote rest hrest =>
    split at h
    · split at h
      · next v n hvalue =>
        cases h
        obtain ⟨taken, rfl, hposition, -⟩ := local_readLiteral? hvalue
        refine ⟨quote :: taken, hrest, ?_⟩
        cases next
        exact congrArg (Cursor.mk · _) hposition
      · cases h
    · cases h

theorem onward_readAttribute {value : String}
    (h : readAttribute start c = .ok (name, value, next)) : c.Onward next := by
  simp only [readAttribute] at h
  split at h
  · cases h
  · split at h
    · cases h
    · next sign hsign =>
      split at h
      · cases h
      · next v n hvalue =>
        cases h
        have hsigned := (c.onward_run isAttributeChar).trans (onward_eat?_skipBlanks hsign)
        exact (hsigned.trans sign.onward_skipBlanks).trans (onward_readQuoted hvalue)

/-- **A tag ends with its closing delimiter.** -/
theorem readAttributes_end {closing : List Char} {attrs attrs' : Attributes} {shape : TagShape}
    (h : readAttributes closing start attrs c = .ok (shape, attrs', next)) :
    ∃ last, c.Onward last ∧ last.eat? closing = some next := by
  fun_induction readAttributes closing start attrs c with
  | case1 => cases h
  | case2 _ c here _ n heat =>
    cases h
    exact ⟨here, c.onward_skipBlanks, heat⟩
  | case3 _ c here _ _ slash hslash n heat =>
    cases h
    exact ⟨slash.skipBlanks, (onward_eat?_skipBlanks hslash).trans slash.onward_skipBlanks, heat⟩
  | case4 => cases h
  | case5 => cases h
  | case6 _ c here _ _ _ name value n hn ih =>
    obtain ⟨last, hlast, heat⟩ := ih h
    exact ⟨last, (c.onward_skipBlanks.trans (onward_readAttribute hn)).trans hlast, heat⟩

theorem onward_readAttributes {closing : List Char} {attrs attrs' : Attributes} {shape : TagShape}
    (h : readAttributes closing start attrs c = .ok (shape, attrs', next)) : c.Onward next := by
  obtain ⟨last, hlast, heat⟩ := readAttributes_end h
  exact hlast.trans (onward_eat? heat)

theorem onward_readClosing? {closing : List Char} (h : readClosing? closing name c = some next) :
    c.Onward next := by
  simp only [readClosing?, Option.bind_eq_some_iff] at h
  obtain ⟨c₁, h₁, c₂, h₂, h₃⟩ := h
  exact ((onward_eat?_skipBlanks h₁).trans (onward_eat?_skipBlanks h₂)).trans
    (onward_eat?_skipBlanks h₃)

/-- **A verbatim body stops** where the source goes on behind it, and its
closing tag is read from there. -/
theorem readVerbatim?_stop {body : List Char} {stop : Nat}
    (h : readVerbatim? d name c = some (body, stop, next)) :
    ∃ behind, c.rest = body ++ behind ∧ stop = (c.position.advanceBy body).offset ∧
      (c.past body behind).Onward next := by
  fun_induction readVerbatim? d name c generalizing body
  case case1 => cases h
  case case2 c before after hbreak inner n hclosing =>
    cases h
    have hrest := eq_of_breakOn hbreak
    rw [List.append_assoc] at hrest
    refine ⟨_, hrest, rfl, ?_⟩
    have hinner : (c.past before (d.opening.toList ++ after)).Onward inner :=
      ⟨d.opening.toList, rfl, (past_past _ _ _ _ _).symm⟩
    exact hinner.trans (onward_readClosing? hclosing)
  case case3 => cases h
  case case4 c before after hbreak inner _ hopening ih =>
    obtain ⟨⟨more, s, n⟩, hmore, heq⟩ := Option.map_eq_some_iff.1 h
    cases heq
    obtain ⟨behind, hrest, rfl, honward⟩ := ih hmore
    have hafter : after = more ++ behind := hrest
    refine ⟨behind, ?_, ?_, ?_⟩
    · rw [eq_of_breakOn hbreak, hafter, ← List.append_assoc]
    · simp only [inner, Cursor.past, Position.advanceBy_append]
    · simpa only [inner, past_past] using honward

/-! ## Tags -/

/-- What is covered by the token of a tag that begins at `start` and is read
from one cursor to another, behind its opening delimiter. -/
inductive Covers (d : Delimiters) (start : Position) (c next : Cursor) : Option Token → Prop
  /-- A raw tag without a body leaves no token. -/
  | nothing (honward : c.Onward next) : Covers d start c next none
  /-- A tag is covered up to its closing delimiter. -/
  | tag {last : Cursor} {piece : Piece} (hlast : c.Onward last)
      (hclosing : last.eat? d.closing.toList = some next) :
      Covers d start c next (some ⟨piece, ⟨start.offset, next.offset⟩, start⟩)
  /-- Of a comment, and of raw text, only the body between its tags is. -/
  | body {first : Cursor} {piece : Piece} {body behind : List Char} (hpiece : piece.tag? = none)
      (hfirst : c.Onward first) (hrest : first.rest = body ++ behind)
      (hnext : (first.past body behind).Onward next) :
      Covers d start c next (some ⟨piece,
        ⟨first.position.offset, (first.position.advanceBy body).offset⟩, first.position⟩)

theorem Covers.onward {token : Option Token} (h : Covers d start c next token) :
    c.Onward next := by
  cases h with
  | nothing honward => exact honward
  | tag hlast hclosing => exact hlast.trans (onward_eat? hclosing)
  | body _ hfirst hrest hnext => exact (hfirst.trans (onward_past hrest)).trans hnext

theorem covers_verbatimToken? {first : Cursor} {body behind : List Char} (hfirst : c.Onward first)
    (hrest : first.rest = body ++ behind) (hnext : (first.past body behind).Onward next) :
    Covers d start c next (verbatimToken? name body first.position
      (first.position.advanceBy body).offset) := by
  rw [verbatimToken?]
  split
  · exact .body rfl hfirst hrest hnext
  · split
    · exact .nothing ((hfirst.trans (onward_past hrest)).trans hnext)
    · exact .body rfl hfirst hrest hnext

theorem covers_readClosingTag {token : Option Token}
    (h : readClosingTag d start c = .ok (token, next)) : Covers d start c next token := by
  rw [readClosingTag] at h
  split at h
  · cases h
  · next named n hname =>
    split at h
    · cases h
    · next m hclosing =>
      cases h
      have hnamed := c.onward_skipBlanks.trans (onward_readName hname)
      exact .tag (hnamed.trans n.onward_skipBlanks) hclosing

theorem covers_readOpeningTag {token : Option Token}
    (h : readOpeningTag d start c = .ok (token, next)) : Covers d start c next token := by
  rw [readOpeningTag] at h
  split at h
  · cases h
  · next named n hname =>
    split at h
    · cases h
    · next shape attrs m hattrs =>
      have honward := (onward_readName hname).trans (onward_readAttributes hattrs)
      split at h
      · split at h
        · cases h
          exact .nothing honward
        · split at h
          · cases h
          · next body stop after hbody =>
            cases h
            obtain ⟨behind, hrest, rfl, hnext⟩ := readVerbatim?_stop hbody
            exact covers_verbatimToken? honward hrest hnext
      · cases h
        obtain ⟨last, hlast, hclosing⟩ := readAttributes_end hattrs
        exact .tag ((onward_readName hname).trans hlast) hclosing

/-- **The token of a tag** covers the tag, or a body between two tags. -/
theorem covers_readTag {token : Option Token} (h : readTag d start c = .ok (token, next)) :
    Covers d start c next token := by
  have hfront : ∀ {c' : Cursor} {token : Option Token}, c.Onward c' →
      Covers d start c' next token → Covers d start c next token := by
    intro c' token honward hcovers
    cases hcovers with
    | nothing h => exact .nothing (honward.trans h)
    | tag hlast hclosing => exact .tag (honward.trans hlast) hclosing
    | body hpiece hfirst hrest hnext => exact .body hpiece (honward.trans hfirst) hrest hnext
  rw [readTag] at h
  split at h
  · next slash hslash => exact hfront (onward_eat?_skipBlanks hslash) (covers_readClosingTag h)
  · exact hfront c.onward_skipBlanks (covers_readOpeningTag h)

/-- What a tag was read from is what stands before the rest. -/
theorem eq_past_of_readTag {token : Option Token} {xs ys : List Char}
    (h : readTag d start c = .ok (token, next)) (hnext : next.rest = ys)
    (hrest : c.rest = xs ++ ys) : next = c.past xs ys := by
  subst hnext
  exact (covers_readTag h).onward.eq_past hrest

end Token

end PromptMarkup
