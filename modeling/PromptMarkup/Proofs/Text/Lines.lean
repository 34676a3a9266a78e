import Mathlib.Data.List.Basic
import PromptMarkup.Text.Quoted
/-!
# Text — rows and lines

A text that is put together from rows, each with a line feed behind it, has
these rows for its lines if none of them has a line feed in it, and more lines
than rows if one has (`Shows.lines_iff`, `Shows.length_iff`). Neither the order
of the rows nor their indentation matters. A quotation and a number are always
on one line.
-/

namespace PromptMarkup

namespace Text

/-! ## Lines -/

/-- The lines of a text. Each ends with a line feed, which is no part of it. -/
def lines (s : String) : List (List Char) :=
  (s.toList.splitOn '\n').dropLast

/-- A line without its indentation. -/
def unindent (line : List Char) : List Char :=
  line.dropWhile (· = ' ')

theorem feed_mem_unindent {line : List Char} : '\n' ∈ unindent line ↔ '\n' ∈ line := by
  induction line with
  | nil => rfl
  | cons c line ih =>
    rw [unindent, List.dropWhile_cons]
    split
    · next hspace =>
      have hne : '\n' ≠ c := by
        rw [of_decide_eq_true hspace]
        decide
      rw [List.mem_cons, or_iff_right hne]
      exact ih
    · rfl

/-- The lines of rows that are put one below another are those of each of
them. -/
theorem lines_of_toList {s : String} {own : List (List Char)}
    (h : s.toList = own.flatMap (· ++ ['\n'])) : lines s = own.flatMap (List.splitOn '\n') := by
  have hsplit : ∀ own : List (List Char), (own.flatMap (· ++ ['\n'])).splitOn '\n' =
      own.flatMap (List.splitOn '\n') ++ [[]] := by
    intro own
    induction own with
    | nil => rfl
    | cons row own ih =>
      rw [List.flatMap_cons, List.flatMap_cons, List.append_assoc, List.singleton_append,
        List.splitOn_append_cons_self, ih, List.append_assoc]
  rw [lines, h, hsplit, List.dropLast_concat]

/-- A row has one line more than it has line feeds. -/
theorem length_splitOn (row : List Char) : (row.splitOn '\n').length = row.count '\n' + 1 := by
  induction row with
  | nil => rfl
  | cons c row ih =>
    rw [List.splitOn_cons_eq_if_modifyHead, List.count_cons]
    split
    · rw [List.length_cons, ih]
    · rw [List.length_modifyHead, ih]

/-! ## Rows -/

/-- The text is made of the rows in some order, each with some spaces before it
and a line feed behind it. -/
def Shows (s : String) (rows : List String) : Prop :=
  ∃ own : List (List Char), s.toList = own.flatMap (· ++ ['\n']) ∧
    (own.map unindent).Perm (rows.map String.toList)

theorem shows_nil : Shows "" [] :=
  ⟨[], rfl, .refl _⟩

/-- A row that does not itself begin with a space, at some depth. -/
theorem shows_row {row : String} (h : row.toList.head? ≠ some ' ') (n : Nat) :
    Shows (String.ofList (List.replicate n ' ') ++ row ++ "\n") [row] := by
  refine ⟨[List.replicate n ' ' ++ row.toList], ?_, .of_eq ?_⟩
  · simp
  · have hkept : row.toList.dropWhile (· = ' ') = row.toList := by
      cases hrow : row.toList with
      | nil => rfl
      | cons c rest =>
        rw [hrow, List.head?_cons, ne_eq, Option.some.injEq] at h
        simp [h]
    have hspaces : ∀ c ∈ List.replicate n ' ', decide (c = ' ') = true := by simp
    rw [List.map_singleton, List.map_singleton, unindent, List.dropWhile_append_of_pos hspaces,
      hkept]

theorem Shows.append {s s' : String} {rows rows' : List String} (h : Shows s rows)
    (h' : Shows s' rows') : Shows (s ++ s') (rows ++ rows') := by
  obtain ⟨own, hown, hperm⟩ := h
  obtain ⟨own', hown', hperm'⟩ := h'
  refine ⟨own ++ own', ?_, ?_⟩
  · rw [String.toList_append, hown, hown', List.flatMap_append]
  · rw [List.map_append, List.map_append]
    exact hperm.append hperm'

theorem Shows.perm {s : String} {rows rows' : List String} (h : Shows s rows)
    (hperm : rows.Perm rows') : Shows s rows' :=
  let ⟨own, hown, hsame⟩ := h
  ⟨own, hown, hsame.trans (hperm.map _)⟩

section Shows

variable {s : String} {rows : List String}

/-- No row is broken if no part of the text is that makes a row. -/
theorem unbroken_iff_of_perm {own : List (List Char)}
    (h : (own.map unindent).Perm (rows.map String.toList)) :
    (∀ row ∈ rows, '\n' ∉ row.toList) ↔ ∀ line ∈ own, '\n' ∉ line := by
  have hmem : (∀ line ∈ own.map unindent, '\n' ∉ line) ↔
      ∀ line ∈ rows.map String.toList, '\n' ∉ line := forall_congr' fun line => by rw [h.mem_iff]
  rw [List.forall_mem_map, List.forall_mem_map] at hmem
  rw [← hmem]
  simp only [feed_mem_unindent]

/-- **A text has as many lines as rows** if and only if no row has a line feed
in it. -/
theorem Shows.length_iff (h : Shows s rows) :
    (lines s).length = rows.length ↔ ∀ row ∈ rows, '\n' ∉ row.toList := by
  obtain ⟨own, hown, hperm⟩ := h
  have hlength : own.length = rows.length := by simpa using hperm.length_eq
  rw [unbroken_iff_of_perm hperm, lines_of_toList hown, ← hlength]
  clear hown hperm hlength
  have hcount :
      (own.flatMap (List.splitOn '\n')).length = own.length + own.flatten.count '\n' := by
    induction own with
    | nil => rfl
    | cons row own ih =>
      rw [List.flatMap_cons, List.length_append, length_splitOn, ih, List.length_cons,
        List.flatten_cons, List.count_append]
      omega
  rw [hcount, Nat.add_eq_left, List.count_eq_zero, List.mem_flatten]
  simp only [not_exists, not_and]

/-- **The lines of a text are its rows** if and only if no row has a line feed
in it. -/
theorem Shows.lines_iff (h : Shows s rows) :
    ((lines s).map unindent).Perm (rows.map String.toList) ↔ ∀ row ∈ rows, '\n' ∉ row.toList := by
  constructor
  · intro hperm
    exact h.length_iff.1 (by simpa using hperm.length_eq)
  · obtain ⟨own, hown, hperm⟩ := h
    intro hrows
    have hkept : own.flatMap (List.splitOn '\n') = own.flatMap fun line => [line] :=
      List.flatMap_congr fun line hline =>
        List.splitOn_eq_singleton ((unbroken_iff_of_perm hperm).1 hrows line hline)
    rw [lines_of_toList hown, hkept, List.flatMap_singleton']
    exact hperm

end Shows

/-! ## Texts on one line -/

@[simp] theorem feed_not_mem_toDigits {base : Nat} (h : 1 < base) (n : Nat) :
    '\n' ∉ Nat.toDigits base n := by
  have hdigit : ∀ d, '\n' ≠ Nat.digitChar d := fun d => (Nat.digitChar_ne '\n' rfl).symm
  induction n using Nat.strongRecOn with
  | ind n ih =>
    rw [Nat.toDigits_eq_if h]
    split
    · exact mt List.mem_singleton.1 (hdigit n)
    · have hless : n / base < n := Nat.div_lt_self (by omega) h
      rw [List.mem_append, not_or]
      exact ⟨ih _ hless, mt List.mem_singleton.1 (hdigit _)⟩

theorem feed_not_mem_quotedChar (c : Char) : '\n' ∉ quotedChar c := by
  unfold quotedChar
  split
  any_goals decide
  next hfeed _ _ _ =>
  split
  · exact mt List.mem_singleton.1 (Ne.symm hfeed)
  · simp

@[simp] theorem feed_not_mem_quoted (s : String) : '\n' ∉ (quoted s).toList := by
  rw [quoted, String.toList_ofList]
  simp [feed_not_mem_quotedChar]

end Text

end PromptMarkup
