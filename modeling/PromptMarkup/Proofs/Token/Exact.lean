import PromptMarkup.Proofs.Token.InStep
import PromptMarkup.Proofs.Token.Refusal
import PromptMarkup.Proofs.Token.Spans
/-!
# Token — places are counted right

A position is exact when it is what one finds by counting the source anew up to
there (`Position.Exact`), and cursors stand at exact positions
(`Cursor.Onward.exact`). Tokens start where a cursor came to, and so does every
fault that a source is refused for. A counter, which never counts a line anew,
comes by the same tokens and the same faults (`Counted.read_eq`), so all
positions that it gives are exact (`exact_read`).
-/

namespace PromptMarkup

open Text

/-- So many bytes before a place in a text are no more than all of its bytes. -/
theorem Edge.le_bytes {source : List Char} {n : Nat} (h : Edge source n) : n ≤ bytes source := by
  obtain ⟨before, ⟨after, rfl⟩, rfl⟩ := h
  rw [bytes_append]
  exact Nat.le_add_right _ _

namespace Position

/-- The position is that of its offset in the source: the offset lies between two
characters, there are as many lines before it as newlines, and the column is
counted in characters from the last newline, or from the start. -/
structure Exact (source : List Char) (p : Position) : Prop where
  edge : Edge source p.offset
  line : p.line = 1 + (takeBytes p.offset source).count '\n'
  column : p.column = 1 + ((takeBytes p.offset source).rtakeWhile (· ≠ '\n')).length

theorem exact_recount (before after : List Char) : (recount before).Exact (before ++ after) := by
  have htaken : takeBytes (recount before).offset (before ++ after) = before :=
    takeBytes_bytes before after
  refine ⟨⟨before, List.prefix_append _ _, rfl⟩, ?_, ?_⟩
  · rw [htaken, recount]
  · rw [htaken, recount]

end Position

/-- **A cursor stands at an exact position**, wherever it has moved. -/
theorem Cursor.Onward.exact {source : String} {c : Cursor}
    (h : (Cursor.ofSource source).Onward c) : c.position.Exact source.toList := by
  obtain ⟨passed, hrest, hc⟩ := h
  have hposition : c.position = Position.recount passed := by
    rw [hc]
    exact Position.advanceBy_origin passed
  have hsource : source.toList = passed ++ c.rest := hrest
  rw [hposition, hsource]
  exact Position.exact_recount passed c.rest

namespace Token

variable {d : Delimiters} {c last : Cursor} {tokens : List Token}

/-- A token starts where the reader stood. -/
theorem Laid.start (h : Laid d c tokens last) :
    ∀ token ∈ tokens, ∃ first : Cursor, c.Onward first ∧ token.position = first.position ∧
      token.span.start = first.offset := by
  induction h with
  | nil => exact List.forall_mem_nil _
  | @cons c first last piece body behind rest hfirst hbody htag hrest ih =>
    have hbehind := hfirst.trans (Cursor.onward_past hbody)
    refine List.forall_mem_cons.2 ⟨⟨first, hfirst, rfl, rfl⟩, fun token htoken => ?_⟩
    obtain ⟨place, hplace, hposition⟩ := ih token htoken
    exact ⟨place, hbehind.trans hplace, hposition⟩

/-- **Positions are exact.** Whatever the delimiters, a counter that is moved
along a source, past characters and over texts, gives the tokens of the source or
the failure that it is refused for. The tokens stand at the positions that one
counts anew from its start, where their spans begin; no span is reversed or runs
past the end, and each ends before the next one starts. A source that is refused
is refused for a fault at such a position. -/
theorem exact_read (d : Delimiters) (source : String) :
    Counted.read d source = read d source ∧
    (∀ tokens, Counted.read d source = .ok tokens →
      (∀ token ∈ tokens, token.position.Exact source.toList ∧
        token.position.offset = token.span.start ∧
        token.span.start ≤ token.span.stop ∧ token.span.stop ≤ bytes source.toList) ∧
      tokens.Pairwise (·.span.stop ≤ ·.span.start)) ∧
    ∀ failure, Counted.read d source = .error failure →
      ∃ position, failure.position? = some position ∧ position.Exact source.toList := by
  have hsame := Counted.read_eq d source
  refine ⟨hsame, fun tokens hread => ?_, fun failure hread => ?_⟩
  · obtain ⟨last, hlaid⟩ := laid_read (hsame.symm.trans hread)
    refine ⟨fun token htoken => ?_, hlaid.pairwise⟩
    obtain ⟨first, hfirst, hposition, hstart⟩ := hlaid.start token htoken
    obtain ⟨body, hbody, _⟩ := hlaid.cut (Cursor.onward_refl _) token htoken
    refine ⟨hposition ▸ hfirst.exact, ?_, hbody.start_le_stop, hbody.edge_stop.le_bytes⟩
    rw [hposition, hstart, Cursor.offset]
  · obtain ⟨place, fault, hplace, rfl⟩ := faultAhead_read (hsame.symm.trans hread)
    exact ⟨place.position, rfl, hplace.exact⟩

end Token

namespace Sample

/-- Delimiters of more than one byte. -/
def quotes : Delimiters := ⟨"«", "»"⟩

/-- A page of three lines, on which tags stand behind wide characters. -/
def page : String := "é\n😀 «a /»\n«b»"

/-- A page whose last line has a value without an end. -/
def tornPage : String := "é\n«t a='x"

/-- The tags of the page and the fault of the torn one are where one counts
them. -/
theorem exact_read_page :
    (∃ tokens, Token.Counted.read quotes page = .ok tokens ∧
      tokens.map (·.position) = [⟨1, 1, 0⟩, ⟨2, 3, 8⟩, ⟨2, 8, 15⟩, ⟨3, 1, 16⟩] ∧
      ∀ token ∈ tokens, token.position.Exact page.toList) ∧
    ∃ failure, Token.Counted.read quotes tornPage = .error failure ∧
      failure.position? = some ⟨2, 6, 9⟩ ∧ Position.Exact tornPage.toList ⟨2, 6, 9⟩ := by
  obtain ⟨hpage, htokens, -⟩ := Token.exact_read quotes page
  obtain ⟨htornPage, -, hfault⟩ := Token.exact_read quotes tornPage
  constructor
  · have hplaces : ((Token.read quotes page).toOption.map (·.map Token.position)) =
        some [⟨1, 1, 0⟩, ⟨2, 3, 8⟩, ⟨2, 8, 15⟩, ⟨3, 1, 16⟩] := by decide +kernel
    cases hread : Token.read quotes page with
    | error failure =>
      rw [hread] at hplaces
      cases hplaces
    | ok tokens =>
      rw [hread] at hplaces
      have hcounted := hpage.trans hread
      obtain ⟨hexact, -⟩ := htokens tokens hcounted
      exact ⟨tokens, hcounted, Option.some.inj hplaces, fun token htoken => (hexact token htoken).1⟩
  · have hread : Token.read quotes tornPage =
        .error (.parse .unterminatedString (some ⟨2, 6, 9⟩)) := by decide +kernel
    have hcounted := htornPage.trans hread
    obtain ⟨position, hposition, hexact⟩ := hfault _ hcounted
    obtain rfl := Option.some.inj hposition
    exact ⟨_, hcounted, rfl, hexact⟩

end Sample

end PromptMarkup
