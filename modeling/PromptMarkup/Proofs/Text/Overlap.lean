import Mathlib.Data.List.TakeWhile
import PromptMarkup.Proofs.Text.Escaped
/-!
# Text — a search that does not step back

A search that goes on behind every occurrence it has seen takes the
occurrences of a separator from the left and without overlap. Behind a text
stands one more occurrence: the search comes to it (`Met`), or it has seen
one that begins in the text and ends in the separator behind
(`met_or_overlaps`). That takes a separator that overlaps itself
(`Overlaps`), and such a separator always has a text behind which it is not
met (`Overlaps.not_met`).
-/

namespace PromptMarkup

namespace Text

variable {sep t u v y : List Char}

/-- A search from the left, without overlap, comes to the separator that
stands behind the text. -/
inductive Met (sep : List Char) : List Char → Prop
  /-- None begins before it. -/
  | first {t : List Char} (hclear : Clear sep t sep) : Met sep t
  /-- It is met behind another one. -/
  | later {before t : List Char} (hclear : Clear sep before sep) (hmet : Met sep t) :
      Met sep (before ++ (sep ++ t))

/-- The separator begins at the beginning of the text and again behind it,
before its own end. -/
structure Overlaps (sep y : List Char) : Prop where
  ne_nil : y ≠ []
  short : y.length < sep.length
  again : sep <+: y ++ sep

/-- No occurrence stands before the first one. -/
theorem length_le_of_breakOn (hsep : sep ≠ []) {before after r : List Char}
    (h : breakOn sep (u ++ (sep ++ r)) = some (before, after)) : before.length ≤ u.length := by
  induction u generalizing before with
  | nil =>
    rw [List.nil_append, breakOn_sep_append hsep] at h
    cases h
    exact Nat.le_refl _
  | cons c u ih =>
    rw [List.cons_append, breakOn] at h
    split at h
    · cases h
      exact Nat.zero_le _
    · obtain ⟨⟨b, a⟩, hb, heq⟩ := Option.map_eq_some_iff.1 h
      cases heq
      exact Nat.succ_le_succ (ih hb)

/-- Where nothing begins, nothing does when the text goes on. -/
theorem Clear.append (h : Clear sep u v) (hlength : sep.length ≤ v.length) (more : List Char) :
    Clear sep u (v ++ more) := by
  intro x hx hne
  rw [← List.append_assoc]
  refine dropPrefix?_append_eq_none (h x hx hne) (hlength.trans ?_) more
  rw [List.length_append]
  exact Nat.le_add_left _ _

/-- **Behind a text in which none begins** an occurrence is the first. -/
theorem Clear.breakOn_eq (hsep : sep ≠ []) (h : Clear sep u sep) (more : List Char) :
    breakOn sep (u ++ (sep ++ more)) = some (u, more) := by
  rw [breakOn_append_of_clear (h.append (Nat.le_refl _) more), breakOn_sep_append hsep]
  simp only [Option.map_some, List.append_nil]

/-- Nothing begins before the first occurrence. -/
theorem clear_of_breakOn (hsep : sep ≠ []) {before after : List Char}
    (h : breakOn sep t = some (before, after)) : Clear sep before sep := by
  rintro x ⟨w, rfl⟩ hne
  rw [Option.eq_none_iff_forall_ne_some]
  intro r hr
  have heq := eq_of_breakOn h
  rw [List.append_assoc, List.append_assoc, ← List.append_assoc x, eq_of_dropPrefix? hr,
    List.append_assoc] at heq
  rw [heq] at h
  have hlength := length_le_of_breakOn hsep h
  have := List.length_pos_iff.2 hne
  rw [List.length_append] at hlength
  omega

/-- **The separator behind a text is met**, unless the text ends with the
beginning of one that overlaps it. -/
theorem met_or_overlaps (hsep : sep ≠ []) (t : List Char) :
    Met sep t ∨ ∃ before y, t = before ++ y ∧ Overlaps sep y := by
  fun_induction splitOn sep t with
  | case1 t hnil => exact absurd hnil hsep
  | case2 t _ hnone =>
    by_cases hclear : Clear sep t sep
    · exact .inl (.first hclear)
    · simp only [Clear, not_forall] at hclear
      obtain ⟨y, ⟨before, rfl⟩, hne, hsome⟩ := hclear
      obtain ⟨r, hr⟩ := Option.ne_none_iff_exists'.1 hsome
      refine .inr ⟨before, y, rfl, hne, ?_, r, (eq_of_dropPrefix? hr).symm⟩
      -- one that ends in the text would have been found there
      have hown := dropPrefix?_of_breakOn_eq_none hnone (List.suffix_append before y)
      by_contra hlong
      rw [dropPrefix?_append_eq_none hown (not_lt.1 hlong)] at hr
      cases hr
  | case3 t _ before after hbreak ih =>
    rw [eq_of_breakOn hbreak, List.append_assoc]
    obtain hmet | ⟨more, y, rfl, hy⟩ := ih
    · exact .inl (.later (clear_of_breakOn hsep hbreak) hmet)
    · exact .inr ⟨before ++ (sep ++ more), y, by simp only [List.append_assoc], hy⟩

/-- Behind the text that sets two overlapping occurrences apart the second one
is not met. -/
theorem Overlaps.not_met (h : Overlaps sep y) : ¬ Met sep y := by
  intro hmet
  obtain ⟨r, hr⟩ := h.again
  cases hmet with
  | first hclear =>
    have hnone := hclear y List.suffix_rfl h.ne_nil
    rw [← hr, dropPrefix?_append] at hnone
    cases hnone
  | @later before t _ _ =>
    have hshort := h.short
    simp only [List.length_append] at hshort
    omega

/-- It has only characters of the separator. -/
theorem Overlaps.subset (h : Overlaps sep y) : y ⊆ sep :=
  (List.prefix_of_prefix_length_le (List.prefix_append y sep) h.again h.short.le).subset

/-- Where the separator stands behind a text and before it, something is behind
both. -/
theorem exists_of_append_eq {after more : List Char} (h : y ++ (sep ++ after) = sep ++ more) :
    ∃ x, y ++ sep = sep ++ x ∧ more = x ++ after := by
  have hagain : sep <+: y ++ sep := by
    refine List.prefix_of_prefix_length_le (List.prefix_append sep more) ?_ ?_
    · rw [← h, ← List.append_assoc]
      exact List.prefix_append _ _
    · rw [List.length_append]
      exact Nat.le_add_left _ _
  obtain ⟨x, hx⟩ := hagain
  refine ⟨x, hx.symm, ?_⟩
  rw [← List.append_assoc, ← hx, List.append_assoc, List.append_cancel_left_eq] at h
  exact h.symm

/-- A text that can be moved on by another one has only characters of it. -/
theorem subset_of_append_eq {x : List Char} (h : y ++ sep = sep ++ x) (hx : x ≠ []) :
    sep ⊆ x := by
  induction hlength : sep.length using Nat.strong_induction_on generalizing sep with
  | _ length ih =>
    subst hlength
    have hsuffix : x <:+ y ++ sep := h ▸ List.suffix_append sep x
    by_cases hle : sep.length ≤ x.length
    · exact (List.suffix_of_suffix_length_le (List.suffix_append y sep) hsuffix hle).subset
    · -- the separator ends with the other text, and what is before it can be moved on too
      obtain ⟨s, rfl⟩ :=
        List.suffix_of_suffix_length_le hsuffix (List.suffix_append y sep) (not_le.1 hle).le
      have hpos := List.length_pos_iff.2 hx
      rw [← List.append_assoc, List.append_cancel_right_eq] at h
      have hs := ih s.length (by rw [List.length_append]; omega) h rfl
      exact List.append_subset.2 ⟨hs, List.Subset.refl x⟩

end Text

end PromptMarkup
