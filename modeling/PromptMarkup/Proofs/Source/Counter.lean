import Mathlib.Data.List.DropRight
import PromptMarkup.Proofs.Source.Place
import PromptMarkup.Proofs.Text.Octets
/-!
# Source — counting as one goes

One need not count a text anew to say where in it one stands. A `Counter` keeps
how many bytes are read, the line, the byte this line starts at, and a mark: the
byte at which the column was last asked for, with the number of characters before
it on its line. It moves in two ways, past one character (`next?`) or byte by
byte to a place further on (`advanceTo`), and it is asked for its position,
which counts the characters behind the mark and moves the mark there
(`position`). A mark on an earlier line is of no use any more.

A counter is right about the text before it (`Right`), whichever way it was
moved there and wherever it was asked (`Right.pass`, `Right.advanceTo`), and its
answer is the position that one finds by counting the text anew
(`Right.position_eq`).
-/

namespace PromptMarkup

open Text

namespace Text

/-- What stands behind the last end of a line. -/
def lastLine (before : List Char) : List Char :=
  before.rtakeWhile (· ≠ '\n')

/-- A newline begins an empty line. -/
theorem lastLine_newline (before : List Char) : lastLine (before ++ ['\n']) = [] := by
  rw [lastLine, List.rtakeWhile_concat_neg]
  simp

/-- Any other character is appended to the last line. -/
theorem lastLine_concat {c : Char} (hc : c ≠ '\n') (before : List Char) :
    lastLine (before ++ [c]) = lastLine before ++ [c] := by
  rw [lastLine, List.rtakeWhile_concat_pos]
  · rfl
  · simpa using hc

theorem count_newline_concat {c : Char} (hc : c ≠ '\n') (before : List Char) :
    (before ++ [c]).count '\n' = before.count '\n' := by
  have hnone : '\n' ∉ [c] := by simpa using Ne.symm hc
  rw [List.count_append, List.count_eq_zero.2 hnone, Nat.add_zero]

end Text

namespace Position

/-- The position behind the text that begins a source: its newlines give the
line, what follows the last of them the column, and all of it the offset. -/
def recount (before : List Char) : Position where
  line := 1 + before.count '\n'
  column := 1 + (before.rtakeWhile (· ≠ '\n')).length
  offset := bytes before

/-- **Counting on is counting anew.** -/
theorem advanceBy_origin (before : List Char) : origin.advanceBy before = recount before := by
  induction before using List.reverseRecOn with
  | nil => rfl
  | append_singleton before c ih =>
    rw [advanceBy_append, ih, advanceBy_cons, advanceBy_nil, advance]
    by_cases hc : c = '\n'
    · subst hc
      have hcolumn : (before ++ ['\n']).rtakeWhile (· ≠ '\n') = [] := lastLine_newline before
      rw [if_pos rfl, recount, recount, hcolumn, List.count_append, List.count_singleton_self,
        bytes_concat]
      rfl
    · have hcolumn : (before ++ [c]).rtakeWhile (· ≠ '\n') =
          before.rtakeWhile (· ≠ '\n') ++ [c] := lastLine_concat hc before
      rw [if_neg hc, recount, recount, hcolumn, count_newline_concat hc, bytes_concat,
        List.length_append]
      rfl

/-- Counting on from any place of a text. -/
theorem advanceBy_recount (before text : List Char) :
    (recount before).advanceBy text = recount (before ++ text) := by
  rw [← advanceBy_origin, ← advanceBy_append, advanceBy_origin]

end Position

/-- A place in a text, with what there is to know for counting on from it. -/
structure Counter where
  offset : Nat
  line : Nat
  /-- The byte that the line starts at. -/
  lineStart : Nat
  /-- The byte at which the column was last asked for. -/
  markOffset : Nat
  /-- The characters before that byte on its line. -/
  markColumn : Nat
  deriving DecidableEq, Repr

namespace Counter

variable {source before text after : List Char} {k : Counter} {c : Char}

/-! ## Moving and asking -/

/-- The start of a text. -/
def start : Counter :=
  ⟨0, 1, 0, 0, 0⟩

/-- What is left to read. -/
def rest (source : List Char) (k : Counter) : List Char :=
  dropBytes k.offset source

/-- The next line starts at this byte. -/
def newline (k : Counter) (first : Nat) : Counter :=
  { k with line := k.line + 1, lineStart := first }

/-- The counter behind a character. -/
def pass (k : Counter) (c : Char) : Counter :=
  let next := { k with offset := k.offset + c.utf8Size }
  if c = '\n' then next.newline next.offset else next

/-- Moves past one character, if one is left. -/
def next? (source : List Char) (k : Counter) : Option (Char × Counter) :=
  match k.rest source with
  | [] => none
  | c :: _ => some (c, k.pass c)

/-- Looks for the ends of lines in bytes of which the first stands at `place`. -/
def passBytes (k : Counter) (place : Nat) : List UInt8 → Counter
  | [] => k
  | byte :: more =>
    passBytes (if byte = 10 then k.newline (place + 1) else k) (place + 1) more

/-- Moves to a byte further on. -/
def advanceTo (source : List Char) (k : Counter) (stop : Nat) : Counter :=
  let skipped := ((octets source).drop k.offset).take (stop - k.offset)
  { k.passBytes k.offset skipped with offset := stop }

/-- The position of the counter, which leaves a mark there. -/
def position (source : List Char) (k : Counter) : Position × Counter :=
  let (since, chars) :=
    if k.markOffset < k.lineStart ∨ k.offset < k.markOffset then (k.lineStart, 0)
    else (k.markOffset, k.markColumn)
  let column := chars + (takeBytes (k.offset - since) (dropBytes since source)).length
  (⟨k.line, column + 1, k.offset⟩, { k with markOffset := k.offset, markColumn := column })

/-! ## A jump is a walk -/

@[simp] theorem offset_pass (k : Counter) (c : Char) :
    (k.pass c).offset = k.offset + c.utf8Size := by
  rw [pass]
  split <;> rfl

@[simp] theorem offset_advanceTo (source : List Char) (k : Counter) (stop : Nat) :
    (k.advanceTo source stop).offset = stop := rfl

@[simp] theorem offset_position (source : List Char) (k : Counter) :
    (k.position source).2.offset = k.offset := rfl

theorem passBytes_append (k : Counter) (place : Nat) (xs ys : List UInt8) :
    k.passBytes place (xs ++ ys) = (k.passBytes place xs).passBytes (place + xs.length) ys := by
  induction xs generalizing k place with
  | nil => rfl
  | cons byte xs ih =>
    rw [List.cons_append, passBytes, ih, passBytes, List.length_cons, Nat.add_assoc,
      Nat.add_comm 1]

/-- Bytes without an end of a line leave the line as it is. -/
theorem passBytes_of_notMem {bytes : List UInt8} (h : 10 ∉ bytes) (k : Counter) (place : Nat) :
    k.passBytes place bytes = k := by
  induction bytes generalizing place with
  | nil => rfl
  | cons byte more ih =>
    obtain ⟨hbyte, hmore⟩ := not_or.1 (mt List.mem_cons.2 h)
    rw [passBytes, if_neg (Ne.symm hbyte), ih hmore]

/-- Looking for the ends of lines does not depend on the place reached. -/
theorem passBytes_offset (k : Counter) (offset place : Nat) (bytes : List UInt8) :
    passBytes { k with offset } place bytes = { k.passBytes place bytes with offset } := by
  induction bytes generalizing k place with
  | nil => rfl
  | cons byte more ih =>
    rw [passBytes, passBytes]
    split
    · exact ih (k.newline (place + 1)) (place + 1)
    · exact ih k (place + 1)

/-- In the bytes of a character one sees the end of a line only if it is one. -/
theorem passBytes_char (k : Counter) (c : Char) :
    k.passBytes k.offset (String.utf8EncodeChar c) = { k.pass c with offset := k.offset } := by
  rw [pass]
  by_cases hc : c = '\n'
  · subst hc
    rfl
  · rw [if_neg hc, passBytes_of_notMem (mt newline_mem_utf8EncodeChar.1 hc)]

/-- **A jump over a text** does what moving past its characters does. -/
theorem passBytes_octets (k : Counter) (text : List Char) :
    { k.passBytes k.offset (octets text) with offset := k.offset + bytes text } =
      text.foldl pass k := by
  induction text generalizing k with
  | nil => rfl
  | cons c text ih =>
    rw [octets_cons, passBytes_append, passBytes_char, String.length_utf8EncodeChar,
      passBytes_offset, List.foldl_cons, ← ih, offset_pass, bytes_cons, Nat.add_assoc]

theorem advanceTo_eq (hsource : source = before ++ (text ++ after))
    (hoffset : k.offset = bytes before) :
    k.advanceTo source (k.offset + bytes text) = text.foldl pass k := by
  have hskipped : ((octets source).drop k.offset).take (k.offset + bytes text - k.offset) =
      octets text := by
    rw [hsource, hoffset, octets_append, octets_append, ← length_octets, List.drop_left,
      ← length_octets text, Nat.add_sub_cancel_left, List.take_left]
  rw [advanceTo, hskipped, passBytes_octets]

/-! ## Being right -/

/-- The counter is right about the text before it. Its mark, unless it is on an
earlier line, is right too. -/
structure Right (before : List Char) (k : Counter) : Prop where
  offset : k.offset = bytes before
  line : k.line = 1 + before.count '\n'
  lineStart : k.lineStart + bytes (lastLine before) = bytes before
  markOffset_le : k.markOffset ≤ k.offset
  mark : k.lineStart ≤ k.markOffset → ∃ passed, passed <+: lastLine before ∧
    k.markOffset = k.lineStart + bytes passed ∧ k.markColumn = passed.length

theorem right_start : Right [] start where
  offset := rfl
  line := rfl
  lineStart := rfl
  markOffset_le := Nat.le_refl 0
  mark _ := ⟨[], List.nil_prefix, rfl, rfl⟩

/-- **A counter stays right** when it moves past a character. -/
theorem Right.pass (h : k.Right before) (c : Char) : (k.pass c).Right (before ++ [c]) := by
  have hoffset : k.offset + c.utf8Size = bytes (before ++ [c]) := by rw [h.offset, bytes_concat]
  have hmark : k.markOffset ≤ k.offset + c.utf8Size := Nat.le_add_right_of_le h.markOffset_le
  rw [Counter.pass]
  by_cases hc : c = '\n'
  · subst hc
    rw [if_pos rfl]
    refine ⟨hoffset, ?_, ?_, hmark, ?_⟩
    · rw [newline, List.count_append, List.count_singleton_self, h.line, Nat.add_assoc]
    · rw [lastLine_newline, ← hoffset]
      rfl
    · -- the mark is on the line that has ended
      intro (hle : k.offset + '\n'.utf8Size ≤ k.markOffset)
      have hpos := '\n'.utf8Size_pos
      have hbehind := h.markOffset_le
      omega
  · rw [if_neg hc]
    refine ⟨hoffset, ?_, ?_, hmark, ?_⟩
    · rw [count_newline_concat hc, h.line]
    · rw [lastLine_concat hc, bytes_concat, bytes_concat, ← h.lineStart, Nat.add_assoc]
    · intro hle
      obtain ⟨passed, hpassed, hplace, hcolumn⟩ := h.mark hle
      refine ⟨passed, ?_, hplace, hcolumn⟩
      rw [lastLine_concat hc]
      exact hpassed.trans (List.prefix_append _ _)

theorem Right.foldl_pass (h : k.Right before) (text : List Char) :
    (text.foldl Counter.pass k).Right (before ++ text) := by
  induction text generalizing k before with
  | nil => rwa [List.append_nil]
  | cons c text ih =>
    have := ih (h.pass c)
    rwa [List.append_assoc] at this

/-- And when it jumps over a text. -/
theorem Right.advanceTo (h : k.Right before) (hsource : source = before ++ (text ++ after)) :
    (k.advanceTo source (k.offset + bytes text)).Right (before ++ text) := by
  rw [advanceTo_eq hsource h.offset]
  exact h.foldl_pass text

/-- The characters of the line are those before the mark and those behind it. -/
theorem Right.column (h : k.Right before) (hsource : source = before ++ after) {passed : List Char}
    (hpassed : passed <+: lastLine before) :
    passed.length + (takeBytes (k.offset - (k.lineStart + bytes passed))
      (dropBytes (k.lineStart + bytes passed) source)).length = (lastLine before).length := by
  obtain ⟨more, hmore⟩ := hpassed
  have hbefore : before = before.rdropWhile (· ≠ '\n') ++ (passed ++ more) := by
    rw [hmore]
    exact List.rdropWhile_append_rtakeWhile.symm
  generalize before.rdropWhile (· ≠ '\n') = earlier at hbefore
  have hbytes : bytes before = bytes earlier + (bytes passed + bytes more) := by
    rw [hbefore, bytes_append, bytes_append]
  have hlast : bytes (lastLine before) = bytes passed + bytes more := by
    rw [← hmore, bytes_append]
  have hstart : k.lineStart = bytes earlier := by
    have := h.lineStart
    omega
  have hleft : k.offset - (bytes earlier + bytes passed) = bytes more := by
    have := h.offset
    omega
  have hrest : source = (earlier ++ passed) ++ (more ++ after) := by
    rw [hsource, hbefore]
    simp only [List.append_assoc]
  rw [hstart, hleft, ← bytes_append, hrest, dropBytes_bytes, takeBytes_bytes, ← hmore,
    List.length_append]

/-- **A counter that is right gives the position** that one finds by counting
anew, and stays right. -/
theorem Right.position_eq (h : k.Right before) (hsource : source = before ++ after) :
    (k.position source).1 = .recount before ∧ (k.position source).2.Right before := by
  obtain ⟨passed, hpassed, hsince⟩ : ∃ passed, passed <+: lastLine before ∧
      (if k.markOffset < k.lineStart ∨ k.offset < k.markOffset then (k.lineStart, 0)
        else (k.markOffset, k.markColumn)) = (k.lineStart + bytes passed, passed.length) := by
    split
    · exact ⟨[], List.nil_prefix, rfl⟩
    · next hmark =>
      obtain ⟨passed, hpassed, hplace, hcolumn⟩ := h.mark (by omega)
      exact ⟨passed, hpassed, by rw [hplace, hcolumn]⟩
  rw [Counter.position, hsince]
  simp only [h.column hsource hpassed]
  refine ⟨?_, h.offset, h.line, h.lineStart, Nat.le_refl _, fun _ => ?_⟩
  · rw [h.line, h.offset, Position.recount, Nat.add_comm _ 1]
    rfl
  · exact ⟨lastLine before, List.prefix_rfl, h.offset.trans h.lineStart.symm, rfl⟩

end Counter

end PromptMarkup
