import PromptMarkup.Proofs.Text.Cut
/-!
# Text — the pieces between separators

Splitting a text at a separator and joining the pieces with it gives the text
back, whatever the separator (`join_split`), and no piece has the separator in
it (`breakOn_of_mem_splitOn`). Joining first and splitting then gives the
pieces back if the separator is a single character that none of them has
(`split_join`). With a longer one it need not: its beginning may end a piece.
-/

namespace PromptMarkup

namespace Text

variable {sep t : List Char}

/-! ## Splitting -/

/-- The pieces are the whole text where the separator does not occur, and
else what stands before it and the pieces of what stands after it. -/
theorem splitOn_eq (hsep : sep ≠ []) (t : List Char) :
    splitOn sep t =
      match breakOn sep t with
      | none => [t]
      | some (before, after) => before :: splitOn sep after := by
  rw [splitOn, dif_neg hsep]
  split <;> next h => rw [h]

/-- There is always a first piece, and it is empty only if the text is or
begins with the separator. -/
theorem exists_splitOn_cons (hsep : sep ≠ []) (t : List Char) :
    ∃ first rest, splitOn sep t = first :: rest ∧
      (first = [] → t = [] ∨ ∃ after, t = sep ++ after) := by
  rw [splitOn_eq hsep]
  rcases hbreak : breakOn sep t with _ | ⟨before, after⟩
  · exact ⟨t, [], rfl, .inl⟩
  · refine ⟨before, _, rfl, fun hfirst => .inr ⟨after, ?_⟩⟩
    rw [eq_of_breakOn hbreak, hfirst, List.nil_append]

/-- **No piece has the separator in it.** -/
theorem breakOn_of_mem_splitOn (hsep : sep ≠ []) {piece : List Char}
    (h : piece ∈ splitOn sep t) : breakOn sep piece = none := by
  induction hlength : t.length using Nat.strongRecOn generalizing t with
  | ind n ih =>
    rw [splitOn_eq hsep] at h
    cases hbreak : breakOn sep t with
    | none =>
      rw [hbreak] at h
      rw [List.mem_singleton.1 h, hbreak]
    | some parts =>
      obtain ⟨before, after⟩ := parts
      rw [hbreak] at h
      have hshorter := length_of_breakOn hbreak
      have hpositive := List.length_pos_iff.2 hsep
      rcases List.mem_cons.1 h with rfl | h
      · exact breakOn_before hsep hbreak
      · exact ih after.length (by omega) h rfl

/-- The pieces between the separators, put together again, are the text. -/
theorem intercalate_splitOn (sep t : List Char) : sep.intercalate (splitOn sep t) = t := by
  by_cases hsep : sep = []
  · rw [splitOn, dif_pos hsep, List.intercalate_singleton]
  · induction hlength : t.length using Nat.strongRecOn generalizing t with
    | ind n ih =>
      rw [splitOn_eq hsep]
      cases hbreak : breakOn sep t with
      | none => exact List.intercalate_singleton
      | some parts =>
        obtain ⟨before, after⟩ := parts
        have hshorter := length_of_breakOn hbreak
        have hpositive := List.length_pos_iff.2 hsep
        have hafter := ih after.length (by omega) after rfl
        obtain ⟨first, rest, hcons, _⟩ := exists_splitOn_cons hsep after
        simp only [hcons] at hafter ⊢
        rw [List.intercalate_cons_cons, hafter, eq_of_breakOn hbreak, List.append_assoc]

/-! ## Joining -/

/-- Strings are joined as their characters are. -/
theorem toList_join (sep : String) (parts : List String) :
    (join sep parts).toList = sep.toList.intercalate (parts.map String.toList) :=
  String.toList_intercalate

/-- **Joining undoes splitting**, whatever the separator. -/
theorem join_split (sep s : String) : join sep (split sep s) = s := by
  rw [split, ← String.toList_inj, toList_join, List.map_map]
  have hid : String.toList ∘ String.ofList = id := funext fun _ => String.toList_ofList
  rw [hid, List.map_id, intercalate_splitOn]

variable {a : Char}

/-- A text is cut at the first character that is the separator. -/
theorem breakOn_singleton_append {u : List Char} (hu : a ∉ u) (v : List Char) :
    breakOn [a] (u ++ a :: v) = some (u, v) := by
  induction u with
  | nil => simp [breakOn, dropPrefix?]
  | cons c u ih =>
    rw [List.mem_cons, not_or] at hu
    rw [List.cons_append, breakOn, dropPrefix?, if_neg hu.1, ih hu.2]
    rfl

theorem breakOn_singleton_eq_none (ht : a ∉ t) : breakOn [a] t = none := by
  induction t with
  | nil => rfl
  | cons c t ih =>
    rw [List.mem_cons, not_or] at ht
    rw [breakOn, dropPrefix?, if_neg ht.1, ih ht.2]
    rfl

/-- **A separator of one character parts a text for good**: the pieces are
those of what stands before it and of what stands behind it. -/
theorem splitOn_append_cons (u v : List Char) :
    splitOn [a] (u ++ a :: v) = splitOn [a] u ++ splitOn [a] v := by
  have hsep : [a] ≠ [] := List.cons_ne_nil a []
  induction hlength : u.length using Nat.strongRecOn generalizing u with
  | ind n ih =>
    by_cases hmem : a ∈ u
    · obtain ⟨x, y, rfl, hx⟩ := List.eq_append_cons_of_mem hmem
      have hy : y.length < n := by
        rw [List.length_append, List.length_cons] at hlength
        omega
      rw [List.append_assoc, List.cons_append, splitOn_eq hsep (x ++ a :: (y ++ a :: v)),
        splitOn_eq hsep (x ++ a :: y), breakOn_singleton_append hx, breakOn_singleton_append hx]
      exact congrArg (x :: ·) (ih y.length hy y rfl)
    · rw [splitOn_eq hsep, splitOn_eq hsep u, breakOn_singleton_append hmem,
        breakOn_singleton_eq_none hmem]
      rfl

/-- **Splitting undoes joining** with a character that no piece has. -/
theorem splitOn_intercalate {pieces : List (List Char)} (hne : pieces ≠ [])
    (hpieces : ∀ piece ∈ pieces, a ∉ piece) : splitOn [a] ([a].intercalate pieces) = pieces := by
  induction pieces with
  | nil => exact absurd rfl hne
  | cons first rest ih =>
    rw [List.forall_mem_cons] at hpieces
    obtain ⟨hfirst, hrest⟩ := hpieces
    rw [splitOn_eq (List.cons_ne_nil a [])]
    cases rest with
    | nil =>
      rw [List.intercalate_singleton, breakOn_singleton_eq_none hfirst]
    | cons second rest =>
      rw [List.intercalate_cons_cons, List.append_assoc, List.singleton_append,
        breakOn_singleton_append hfirst]
      exact congrArg (first :: ·) (ih (List.cons_ne_nil second rest) hrest)

theorem split_join {sep : String} (hsep : sep.toList = [a]) {pieces : List String}
    (hne : pieces ≠ []) (hpieces : ∀ piece ∈ pieces, a ∉ piece.toList) :
    split sep (join sep pieces) = pieces := by
  have hchars : ∀ piece ∈ pieces.map String.toList, a ∉ piece := List.forall_mem_map.2 hpieces
  rw [split, toList_join, hsep, splitOn_intercalate (by simpa using hne) hchars, List.map_map]
  have hid : String.ofList ∘ String.toList = id := funext fun _ => String.ofList_toList
  rw [hid, List.map_id]

end Text

end PromptMarkup
