import PromptMarkup.Text.Blank
import PromptMarkup.Text.Search
/-!
# Source — places in a source text

A position counts lines and characters for people and bytes of UTF-8 for
programs. A cursor is what is left to read together with the position of
its first character, and every way of moving it goes through
`Position.advance`, so the position is always that of the text read so far.
-/

namespace PromptMarkup

/-- The line and column of a character, both from one, and the number of
bytes before it. Columns count characters. -/
structure Position where
  line : Nat
  column : Nat
  offset : Nat
  deriving DecidableEq, Repr, Inhabited

/-- A stretch of a source text, in bytes. -/
structure Span where
  start : Nat
  stop : Nat
  deriving DecidableEq, Repr, Inhabited

namespace Position

/-- The start of a text. -/
def origin : Position := ⟨1, 1, 0⟩

/-- The position after a character. -/
def advance (p : Position) (c : Char) : Position :=
  if c = '\n' then ⟨p.line + 1, 1, p.offset + c.utf8Size⟩
  else ⟨p.line, p.column + 1, p.offset + c.utf8Size⟩

/-- The position after a text. -/
def advanceBy (p : Position) (cs : List Char) : Position :=
  cs.foldl advance p

end Position

/-- The characters that remain after `n` bytes. -/
def dropBytes : Nat → List Char → List Char
  | _, [] => []
  | n, c :: cs => if n = 0 then c :: cs else dropBytes (n - c.utf8Size) cs

/-- The characters of the first `n` bytes. -/
def takeBytes : Nat → List Char → List Char
  | _, [] => []
  | n, c :: cs => if n = 0 then [] else c :: takeBytes (n - c.utf8Size) cs

/-- The part of a source text that a span covers. -/
def Span.slice (s : Span) (source : List Char) : String :=
  String.ofList (takeBytes (s.stop - s.start) (dropBytes s.start source))

/-- The rest of a source text and the position it starts at. -/
structure Cursor where
  position : Position
  rest : List Char
  deriving DecidableEq, Repr

namespace Cursor

/-- The start of a source text. -/
def ofSource (source : String) : Cursor :=
  ⟨.origin, source.toList⟩

/-- The number of bytes before the cursor. -/
def offset (c : Cursor) : Nat :=
  c.position.offset

/-- The cursor after the text `passed`, with `rest` left. -/
def past (c : Cursor) (passed rest : List Char) : Cursor :=
  ⟨c.position.advanceBy passed, rest⟩

/-- The cursor after one character, if one is left. -/
def next? (c : Cursor) : Option (Char × Cursor) :=
  match c.rest with
  | [] => none
  | d :: rest => some (d, c.past [d] rest)

/-- The longest run of characters of a kind, and the cursor after it. -/
def run (c : Cursor) (kind : Char → Bool) : List Char × Cursor :=
  let taken := c.rest.takeWhile kind
  (taken, c.past taken (c.rest.dropWhile kind))

/-- The cursor after the white space it stands before. -/
def skipBlanks (c : Cursor) : Cursor :=
  (c.run Text.isBlank).2

/-- The cursor after a text it stands before. -/
def eat? (c : Cursor) (text : List Char) : Option Cursor :=
  (Text.dropPrefix? text c.rest).map (c.past text)

/-! Nothing that moves a cursor gives anything back to read. -/

theorem run_length_le (c : Cursor) (kind : Char → Bool) :
    (c.run kind).2.rest.length ≤ c.rest.length :=
  (List.dropWhile_suffix kind).length_le

theorem skipBlanks_length_le (c : Cursor) : c.skipBlanks.rest.length ≤ c.rest.length :=
  c.run_length_le _

theorem next?_length {c d : Cursor} {ch : Char} (h : c.next? = some (ch, d)) :
    d.rest.length + 1 = c.rest.length := by
  simp only [next?] at h
  split at h
  · cases h
  · next heq =>
    cases h
    simp [heq, past]

theorem eat?_length {c d : Cursor} {text : List Char} (h : c.eat? text = some d) :
    d.rest.length + text.length = c.rest.length := by
  simp only [eat?, Option.map_eq_some_iff] at h
  obtain ⟨r, hr, rfl⟩ := h
  rw [Text.eq_of_dropPrefix? hr]
  simp only [past, List.length_append]
  omega

end Cursor

end PromptMarkup
