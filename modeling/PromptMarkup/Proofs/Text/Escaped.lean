import PromptMarkup.Proofs.Text.Cut
/-!
# Text — occurrences that are escaped

`escaped` puts a backslash before every occurrence of a text in another.
Where the text has no backslash of its own, the first occurrence that is found
afterwards is the first one that was there, behind its backslash
(`breakOn_escape`).
-/

namespace PromptMarkup

namespace Text

variable {sep t before after : List Char}

/-- The text with a backslash before every occurrence of `sep`, taken from the
left and without overlap. -/
def escaped (sep t : List Char) : List Char :=
  if _hs : sep = [] then t
  else
    match _hb : breakOn sep t with
    | none => t
    | some (before, after) => before ++ '\\' :: (sep ++ escaped sep after)
termination_by t.length
decreasing_by
  have h₁ := length_of_breakOn _hb
  have h₂ := List.length_pos_iff.2 _hs
  omega

theorem escaped_of_none (h : breakOn sep t = none) : escaped sep t = t := by
  rw [escaped]
  split
  · rfl
  · split
    · rfl
    · next hsome => rw [h] at hsome; cases hsome

theorem escaped_of_some (hsep : sep ≠ []) (h : breakOn sep t = some (before, after)) :
    escaped sep t = before ++ '\\' :: (sep ++ escaped sep after) := by
  rw [escaped, dif_neg hsep]
  split
  · next hnone => rw [h] at hnone; cases hnone
  · next hsome => rw [h] at hsome; cases hsome; rfl

/-- Nothing without a backslash runs across one. -/
theorem clear_escape (hslash : '\\' ∉ sep) (hnone : breakOn sep t = none) (v : List Char) :
    Clear sep (t ++ ['\\']) v := by
  intro x hx hne
  obtain rfl | ⟨y, rfl, hy⟩ := List.suffix_concat_iff.1 hx
  · exact absurd rfl hne
  rw [Option.eq_none_iff_forall_ne_some]
  intro r hr
  have hown := dropPrefix?_of_breakOn_eq_none hnone hy
  have heq := eq_of_dropPrefix? hr
  rw [List.append_assoc, List.singleton_append] at heq
  obtain ⟨z, hsep, hz⟩ | ⟨z, rfl, -⟩ := List.append_eq_append_iff.1 heq
  · cases z with
    | nil =>
      have hself := dropPrefix?_append sep []
      rw [hsep, List.append_nil, List.append_nil] at hself
      rw [hsep, List.append_nil, hself] at hown
      cases hown
    | cons a z =>
      obtain ⟨rfl, -⟩ := List.cons.inj hz
      exact hslash (by simp [hsep])
  · rw [dropPrefix?_append] at hown
    cases hown

/-- A text begins with its first part. -/
theorem breakOn_sep_append (hsep : sep ≠ []) (v : List Char) :
    breakOn sep (sep ++ v) = some ([], v) := by
  cases sep with
  | nil => exact absurd rfl hsep
  | cons a sep => rw [List.cons_append, breakOn, ← List.cons_append, dropPrefix?_append]

/-- **An occurrence that is escaped** is still found first. -/
theorem breakOn_escape (hsep : sep ≠ []) (hslash : '\\' ∉ sep)
    (h : breakOn sep t = some (before, after)) (v : List Char) :
    breakOn sep (before ++ '\\' :: (sep ++ v)) = some (before ++ ['\\'], v) := by
  have hclear := clear_escape hslash (breakOn_before hsep h) (sep ++ v)
  simpa [breakOn_sep_append hsep v] using breakOn_append_of_clear hclear

end Text

end PromptMarkup
