import Mathlib.Data.List.Induction
import PromptMarkup.Source
/-!
# Source — places in a text that is part of another

The place of a character depends on the text before it alone, and it is
counted on from where that text begins: `Position.behind q p` is the place
`p` of a text that itself begins at `q` (`behind_advanceBy`). Between two
characters of a text (`Edge`) a span covers the same characters whatever
follows the text (`slice_append`) and, moved on, whatever stands before it
(`slice_behind`).
-/

namespace PromptMarkup

namespace Position

@[simp] theorem advanceBy_nil (p : Position) : p.advanceBy [] = p := rfl

@[simp] theorem advanceBy_cons (p : Position) (c : Char) (cs : List Char) :
    p.advanceBy (c :: cs) = (p.advance c).advanceBy cs := rfl

@[simp] theorem advanceBy_append (p : Position) (xs ys : List Char) :
    p.advanceBy (xs ++ ys) = (p.advanceBy xs).advanceBy ys :=
  List.foldl_append

/-- A place of a text that begins at `q`, by its place in the text alone. On
the first line columns are counted on from those before the text. -/
def behind (q p : Position) : Position :=
  ⟨q.line + p.line - 1, if p.line = 1 then q.column + p.column - 1 else p.column,
    q.offset + p.offset⟩

@[simp] theorem behind_origin (q : Position) : behind q .origin = q := by
  simp [behind, origin]

/-- Lines and columns are counted from one. -/
theorem one_le_advanceBy (cs : List Char) :
    1 ≤ (origin.advanceBy cs).line ∧ 1 ≤ (origin.advanceBy cs).column := by
  induction cs using List.reverseRecOn with
  | nil => decide
  | append_singleton cs c ih =>
    rw [advanceBy_append, advanceBy_cons, advanceBy_nil, advance]
    split
    · exact ⟨Nat.le_add_left 1 _, Nat.le_refl 1⟩
    · exact ⟨ih.1, Nat.le_succ_of_le ih.2⟩

/-- **Places are counted on** from where a text begins. -/
@[simp] theorem behind_advanceBy (q : Position) (cs : List Char) :
    behind q (origin.advanceBy cs) = q.advanceBy cs := by
  induction cs using List.reverseRecOn with
  | nil => exact behind_origin q
  | append_singleton cs c ih =>
    obtain ⟨hline, hcolumn⟩ := one_le_advanceBy cs
    simp only [advanceBy_append, advanceBy_cons, advanceBy_nil, ← ih]
    by_cases hc : c = '\n'
    · simp only [advance, hc, if_true, behind, mk.injEq]
      refine ⟨by omega, ?_, by omega⟩
      rw [if_neg (by omega)]
    · simp only [advance, hc, if_false, behind, mk.injEq]
      refine ⟨trivial, ?_, by omega⟩
      split <;> omega

end Position

/-! ## Bytes -/

/-- The bytes of a text. -/
def Text.bytes : List Char → Nat
  | [] => 0
  | c :: cs => c.utf8Size + bytes cs

namespace Text

@[simp] theorem bytes_nil : bytes [] = 0 := rfl

@[simp] theorem bytes_cons (c : Char) (cs : List Char) :
    bytes (c :: cs) = c.utf8Size + bytes cs := rfl

@[simp] theorem bytes_append (xs ys : List Char) : bytes (xs ++ ys) = bytes xs + bytes ys := by
  induction xs with
  | nil => rw [List.nil_append, bytes_nil, Nat.zero_add]
  | cons c xs ih => rw [List.cons_append, bytes_cons, bytes_cons, ih, Nat.add_assoc]

theorem bytes_concat (cs : List Char) (c : Char) : bytes (cs ++ [c]) = bytes cs + c.utf8Size := by
  rw [bytes_append, bytes_cons, bytes_nil, Nat.add_zero]

@[simp] theorem bytes_eq_zero_iff {cs : List Char} : bytes cs = 0 ↔ cs = [] := by
  cases cs with
  | nil => simp
  | cons c cs =>
    have := c.utf8Size_pos
    simp only [bytes_cons, reduceCtorEq, iff_false]
    omega

theorem bytes_dropWhile_le (kind : Char → Bool) (cs : List Char) :
    bytes (cs.dropWhile kind) ≤ bytes cs := by
  obtain ⟨before, hbefore⟩ := List.dropWhile_suffix kind (l := cs)
  have hbytes := congrArg bytes hbefore
  rw [bytes_append] at hbytes
  omega

theorem bytes_ofList (cs : List Char) : (String.ofList cs).utf8ByteSize = bytes cs := by
  induction cs with
  | nil => rfl
  | cons c cs ih =>
    rw [String.ofList_cons, String.utf8ByteSize_append, String.utf8ByteSize_singleton, ih,
      bytes_cons]

theorem bytes_toList (s : String) : bytes s.toList = s.utf8ByteSize := by
  rw [← bytes_ofList, String.ofList_toList]

end Text

open Text

/-- The bytes before a place are those of the text before it. -/
@[simp] theorem Position.offset_advanceBy (p : Position) (cs : List Char) :
    (p.advanceBy cs).offset = p.offset + bytes cs := by
  induction cs generalizing p with
  | nil => rfl
  | cons c cs ih =>
    have hoffset : (p.advance c).offset = p.offset + c.utf8Size := by
      rw [advance]
      split <;> rfl
    rw [advanceBy_cons, ih, hoffset, bytes_cons, Nat.add_assoc]

@[simp] theorem dropBytes_zero (cs : List Char) : dropBytes 0 cs = cs := by
  cases cs <;> rfl

theorem dropBytes_bytes_add (xs ys : List Char) (n : Nat) :
    dropBytes (bytes xs + n) (xs ++ ys) = dropBytes n ys := by
  induction xs with
  | nil => rw [bytes_nil, Nat.zero_add, List.nil_append]
  | cons c xs ih =>
    have hpos := c.utf8Size_pos
    rw [bytes_cons, List.cons_append, dropBytes, if_neg (by omega), ← ih]
    congr 1
    omega

@[simp] theorem dropBytes_bytes (xs ys : List Char) : dropBytes (bytes xs) (xs ++ ys) = ys := by
  have := dropBytes_bytes_add xs ys 0
  rwa [Nat.add_zero, dropBytes_zero] at this

/-- Behind `n` bytes there are no more than the others. -/
theorem bytes_dropBytes_le (n : Nat) (cs : List Char) : bytes (dropBytes n cs) ≤ bytes cs - n := by
  induction cs generalizing n with
  | nil => exact Nat.zero_le _
  | cons c cs ih =>
    rw [dropBytes]
    split
    · next hn =>
      subst hn
      exact Nat.le_refl _
    · have := ih (n - c.utf8Size)
      rw [bytes_cons]
      omega

/-- Only before the end of a text something is left. -/
theorem lt_bytes_of_dropBytes_ne_nil {n : Nat} {cs : List Char} (h : dropBytes n cs ≠ []) :
    n < bytes cs := by
  have hle := bytes_dropBytes_le n cs
  have hpos := Nat.pos_of_ne_zero (mt bytes_eq_zero_iff.1 h)
  omega

@[simp] theorem takeBytes_zero (cs : List Char) : takeBytes 0 cs = [] := by
  cases cs <;> rfl

@[simp] theorem takeBytes_bytes (xs ys : List Char) : takeBytes (bytes xs) (xs ++ ys) = xs := by
  induction xs with
  | nil => exact takeBytes_zero ys
  | cons c xs ih =>
    have hpos := c.utf8Size_pos
    rw [bytes_cons, List.cons_append, takeBytes, if_neg (by omega), Nat.add_sub_cancel_left, ih]

/-- So many bytes of a text end between two of its characters, or at an end
of it. -/
def Edge (source : List Char) (n : Nat) : Prop :=
  ∃ before, before <+: source ∧ n = bytes before

namespace Span

/-- What a span covers stays the same with more text behind. -/
theorem slice_append {source : List Char} {span : Span} (hstart : Edge source span.start)
    (hstop : Edge source span.stop) (more : List Char) :
    span.slice (source ++ more) = span.slice source := by
  obtain ⟨start, stop⟩ := span
  obtain ⟨u, hu, rfl⟩ := hstart
  obtain ⟨v, hv, rfl⟩ := hstop
  obtain ⟨rest, rfl⟩ := hu
  rw [slice, slice, List.append_assoc, dropBytes_bytes, dropBytes_bytes]
  rcases List.prefix_or_prefix_of_prefix hv (List.prefix_append u rest) with huv | huv
  · -- the span ends before it starts
    obtain ⟨w, rfl⟩ := huv
    rw [bytes_append, Nat.sub_eq_zero_of_le (Nat.le_add_right _ _), takeBytes_zero, takeBytes_zero]
  · obtain ⟨w, rfl⟩ := huv
    obtain ⟨rest, rfl⟩ := (List.prefix_append_right_inj u).1 hv
    rw [bytes_append, Nat.add_sub_cancel_left, List.append_assoc, takeBytes_bytes, takeBytes_bytes]

/-- And with text before it, which the span is moved past. -/
theorem slice_behind (front source : List Char) (start stop : Nat) :
    slice ⟨bytes front + start, bytes front + stop⟩ (front ++ source) =
      slice ⟨start, stop⟩ source := by
  rw [slice, slice, Nat.add_sub_add_left, dropBytes_bytes_add]

end Span

/-! ## Relocation -/

/-- What becomes of offsets, of positions and of the source text that nodes
keep, where a text is found in another place. -/
structure Relocation where
  offset : Nat → Nat
  position : Position → Position
  raw : String → String

/-- The text now begins at `q`. -/
def Relocation.behind (q : Position) : Relocation :=
  ⟨(q.offset + ·), Position.behind q, id⟩

/-- The source text that nodes keep stays what it is. -/
def Relocation.Faithful (r : Relocation) : Prop :=
  r.raw = id

theorem Relocation.faithful_behind (q : Position) : (Relocation.behind q).Faithful :=
  rfl

/-- The span in its new place. -/
def Span.relocate (r : Relocation) (span : Span) : Span :=
  ⟨r.offset span.start, r.offset span.stop⟩

end PromptMarkup
