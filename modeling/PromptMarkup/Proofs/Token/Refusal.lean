import PromptMarkup.Proofs.Token.Onward
/-!
# Token — why a source is refused, and where

Each part of a tag is refused for a fault of the text. It is blamed on the
start of the tag or on a place that the reader has come to (`Blamed`), and a
part that reads others refuses for nothing else. So a source that cannot be cut
into tokens has a fault at a place of it (`faultAhead_read`).
-/

namespace PromptMarkup

/-- A fault of a text, at a position in it. -/
def Failure.Lexical (failure : Failure) : Prop :=
  ∃ fault position, failure = .parse fault (some position)

namespace Token

open Cursor Text

/-- The failure of a tag that begins at `start` and is read on from a cursor:
a fault at its start, or at a place further on. -/
inductive Blamed (start : Position) (c : Cursor) : Failure → Prop
  | start (fault : ParseFault) : Blamed start c (.parse fault (some start))
  | further {place : Cursor} (fault : ParseFault) (honward : c.Onward place) :
      Blamed start c (.parse fault (some place.position))

variable {failure : Failure} {start : Position} {c next : Cursor}

/-- What is blamed by a reader that goes on later is blamed from here. -/
theorem Blamed.of_onward (h : Blamed start next failure) (honward : c.Onward next) :
    Blamed start c failure := by
  cases h with
  | start fault => exact .start fault
  | further fault hplace => exact .further fault (honward.trans hplace)

theorem blamed_here (start : Position) (c : Cursor) (fault : ParseFault) :
    Blamed start c (.parse fault (some c.position)) :=
  .further fault (onward_refl c)

theorem blamed_stuck (start : Position) (after : TagSite) (c : Cursor) :
    Blamed start c (stuck start after c) := by
  rw [stuck]
  split
  · exact .start _
  · exact blamed_here _ _ _

theorem blamed_readName (h : readName start c = .error failure) : Blamed start c failure := by
  rw [readName] at h
  split at h
  · cases h
    exact blamed_stuck _ _ _
  · split at h
    · cases h
    · cases h
      exact blamed_stuck _ _ _

theorem blamed_readQuoted (h : readQuoted start c = .error failure) : Blamed start c failure := by
  rw [readQuoted] at h
  split at h
  · cases h
    exact .start _
  · split at h
    · split at h <;> cases h
      exact blamed_here _ _ _
    · cases h
      exact blamed_here _ _ _

theorem blamed_readAttribute (h : readAttribute start c = .error failure) :
    Blamed start c failure := by
  simp only [readAttribute] at h
  have hnamed := c.onward_run isAttributeChar
  split at h
  · cases h
    exact blamed_stuck _ _ _
  · split at h
    · cases h
      have hstuck := blamed_stuck start (.attributeName (String.ofList (c.run isAttributeChar).1))
        (c.run isAttributeChar).2.skipBlanks
      exact hstuck.of_onward (hnamed.trans (onward_skipBlanks _))
    · next sign hsign =>
      split at h
      · next hvalue =>
        cases h
        have hsigned := hnamed.trans (onward_eat?_skipBlanks hsign)
        exact (blamed_readQuoted hvalue).of_onward (hsigned.trans sign.onward_skipBlanks)
      · cases h

theorem blamed_readAttributes {closing : List Char} {attrs : Attributes}
    (h : readAttributes closing start attrs c = .error failure) : Blamed start c failure := by
  fun_induction readAttributes closing start attrs c with
  | case1 =>
    cases h
    exact .start _
  | case2 => cases h
  | case3 => cases h
  | case4 _ c here _ _ slash hslash =>
    cases h
    have hslashed := onward_eat?_skipBlanks hslash
    exact (blamed_stuck _ _ _).of_onward (hslashed.trans slash.onward_skipBlanks)
  | case5 _ c here _ _ _ _ hattribute =>
    cases h
    exact (blamed_readAttribute hattribute).of_onward c.onward_skipBlanks
  | case6 _ c here _ _ _ name value n hn ih =>
    exact (ih h).of_onward (c.onward_skipBlanks.trans (onward_readAttribute hn))

theorem blamed_readClosingTag {d : Delimiters} (h : readClosingTag d start c = .error failure) :
    Blamed start c failure := by
  rw [readClosingTag] at h
  split at h
  · next hname =>
    cases h
    exact (blamed_readName hname).of_onward c.onward_skipBlanks
  · next name n hname =>
    split at h <;> cases h
    have hnamed := c.onward_skipBlanks.trans (onward_readName hname)
    exact (blamed_stuck _ _ _).of_onward (hnamed.trans n.onward_skipBlanks)

theorem blamed_readOpeningTag {d : Delimiters} (h : readOpeningTag d start c = .error failure) :
    Blamed start c failure := by
  rw [readOpeningTag] at h
  split at h
  · next hname =>
    cases h
    exact blamed_readName hname
  · next name n hname =>
    split at h
    · next hattributes =>
      cases h
      exact (blamed_readAttributes hattributes).of_onward (onward_readName hname)
    · split at h
      · split at h
        · cases h
        · split at h <;> cases h
          exact .start _
      · cases h

/-- **A tag is refused for a fault of its text**, at its start or further on. -/
theorem blamed_readTag {d : Delimiters} (h : readTag d start c = .error failure) :
    Blamed start c failure := by
  rw [readTag] at h
  split at h
  · next slash hslash =>
    exact (blamed_readClosingTag h).of_onward (onward_eat?_skipBlanks hslash)
  · exact (blamed_readOpeningTag h).of_onward c.onward_skipBlanks

/-- A fault of a text, at a place that is reached from the cursor. -/
def FaultAhead (c : Cursor) (failure : Failure) : Prop :=
  ∃ place fault, c.Onward place ∧ failure = .parse fault (some place.position)

theorem FaultAhead.of_onward (h : FaultAhead next failure) (honward : c.Onward next) :
    FaultAhead c failure := by
  obtain ⟨place, fault, hplace, hfailure⟩ := h
  exact ⟨place, fault, honward.trans hplace, hfailure⟩

/-- What is blamed on a tag is at a place that is reached from its start. -/
theorem Blamed.faultAhead {first : Cursor} (h : Blamed first.position c failure)
    (honward : first.Onward c) : FaultAhead first failure := by
  cases h with
  | start fault => exact ⟨first, fault, onward_refl first, rfl⟩
  | further fault hplace => exact ⟨_, fault, honward.trans hplace, rfl⟩

/-- **What is read on from a cursor** is refused for a fault further on. -/
theorem faultAhead_readFrom {d : Delimiters} {pending : List Char}
    (h : readFrom d pending start c = .error failure) : FaultAhead c failure := by
  fun_induction readFrom d pending start c with
  | case1 => cases h
  | case2 => cases h
  | case3 pending start c _ before after hbreak inner _ ih =>
    exact (ih h).of_onward (onward_past (eq_of_breakOn hbreak))
  | case4 pending start c _ before after hbreak inner _ here f htag =>
    cases h
    have hrest : c.rest = before ++ (d.opening.toList ++ after) := by
      rw [eq_of_breakOn hbreak, List.append_assoc]
    -- the tag starts with its opening delimiter, which is what stands before `inner`
    have hopening : (c.past before (d.opening.toList ++ after)).Onward inner :=
      ⟨d.opening.toList, rfl, (past_past _ _ _ _ _).symm⟩
    have htagged : FaultAhead (c.past before (d.opening.toList ++ after)) failure :=
      (blamed_readTag htag).faultAhead hopening
    exact htagged.of_onward (onward_past hrest)
  | case5 pending start c _ before after hbreak inner _ here token next htag f hmore ih =>
    cases h
    have hinner : c.Onward inner := onward_past (eq_of_breakOn hbreak)
    exact (ih hmore).of_onward (hinner.trans (covers_readTag htag).onward)
  | case6 => cases h

/-- **And so is a source**: for a fault at a place of it. -/
theorem faultAhead_read {d : Delimiters} {source : String} (h : read d source = .error failure) :
    FaultAhead (.ofSource source) failure :=
  faultAhead_readFrom h

theorem lexical_of_read {d : Delimiters} {source : String}
    (h : Token.read d source = .error failure) : failure.Lexical := by
  obtain ⟨place, fault, _, hfailure⟩ := faultAhead_read h
  exact ⟨fault, place.position, hfailure⟩

end Token

end PromptMarkup
