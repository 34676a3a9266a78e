import PromptMarkup.Text.Search
/-!
# Text — cutting a text that goes on

Where a text is cut at the first occurrence of another depends on nothing
behind that occurrence (`breakOn_append`). And a beginning in which none
begins, not even one that ends behind it, only moves the cut on
(`breakOn_append_of_clear`).
-/

namespace PromptMarkup

namespace Text

variable {sep t u v : List Char}

theorem dropPrefix?_eq_some_iff {p r : List Char} : dropPrefix? p t = some r ↔ t = p ++ r :=
  ⟨eq_of_dropPrefix?, fun h => h ▸ dropPrefix?_append p r⟩

/-- In the empty text only the empty text occurs. -/
theorem breakOn_nil (h : sep ≠ []) : breakOn sep [] = none := by
  cases sep with
  | nil => exact absurd rfl h
  | cons => rfl

/-- A text that is long enough to show that it does not begin with another
does not when it goes on. -/
theorem dropPrefix?_append_eq_none (h : dropPrefix? sep t = none) (hlength : sep.length ≤ t.length)
    (more : List Char) : dropPrefix? sep (t ++ more) = none := by
  induction sep generalizing t with
  | nil => cases h
  | cons a sep ih =>
    cases t with
    | nil => cases hlength
    | cons c t =>
      simp only [dropPrefix?, List.cons_append] at h ⊢
      split
      · next hc =>
        rw [if_pos hc] at h
        exact ih h (Nat.le_of_succ_le_succ hlength)
      · rfl

/-- **The first occurrence** stays the first when the text goes on. -/
theorem breakOn_append {before after : List Char} (h : breakOn sep t = some (before, after))
    (more : List Char) : breakOn sep (t ++ more) = some (before, after ++ more) := by
  induction t generalizing before with
  | nil =>
    -- only the empty text occurs in the empty one
    obtain ⟨rfl, rfl, rfl⟩ : [] = before ∧ sep = [] ∧ after = [] := by
      have := eq_of_breakOn h
      simp_all
    cases more <;> rfl
  | cons c t ih =>
    simp only [breakOn] at h
    split at h
    · next r hr =>
      cases h
      rw [List.cons_append, breakOn, ← List.cons_append, eq_of_dropPrefix? hr, List.append_assoc,
        dropPrefix?_append]
    · next hnone =>
      obtain ⟨⟨b, a⟩, hb, heq⟩ := Option.map_eq_some_iff.1 h
      cases heq
      have hlength : sep.length ≤ (c :: t).length := by
        have := length_of_breakOn hb
        rw [List.length_cons]
        omega
      have hlate := dropPrefix?_append_eq_none hnone hlength more
      rw [List.cons_append] at hlate ⊢
      rw [breakOn, hlate, ih hb]
      rfl

/-- Before the first occurrence there is none. -/
theorem breakOn_before (hsep : sep ≠ []) {before after : List Char}
    (h : breakOn sep t = some (before, after)) : breakOn sep before = none := by
  cases hfound : breakOn sep before with
  | none => rfl
  | some cut =>
    obtain ⟨u, v⟩ := cut
    have hlater := breakOn_append hfound (sep ++ after)
    rw [← List.append_assoc, ← eq_of_breakOn h, h] at hlater
    obtain rfl : before = u := congrArg Prod.fst (Option.some.inj hlater)
    have hlength := length_of_breakOn hfound
    have hpos := List.length_pos_iff.2 hsep
    omega

/-- What does not occur in a text begins no end of it. -/
theorem dropPrefix?_of_breakOn_eq_none (h : breakOn sep t = none) (hsuffix : u <:+ t) :
    dropPrefix? sep u = none := by
  induction t with
  | nil =>
    rw [List.suffix_nil.1 hsuffix]
    simpa [breakOn] using h
  | cons c t ih =>
    simp only [breakOn] at h
    split at h
    · cases h
    · next hnone =>
      rcases List.suffix_cons_iff.1 hsuffix with rfl | hsuffix
      · exact hnone
      · exact ih (by simpa using h) hsuffix

/-- No occurrence of `sep` begins in `u` where `v` follows. -/
def Clear (sep u v : List Char) : Prop :=
  ∀ x, x <:+ u → x ≠ [] → dropPrefix? sep (x ++ v) = none

/-- **Behind a text in which nothing begins** the cut is that of the rest. -/
theorem breakOn_append_of_clear (h : Clear sep u v) :
    breakOn sep (u ++ v) = (breakOn sep v).map fun (before, after) => (u ++ before, after) := by
  induction u with
  | nil => simp
  | cons c u ih =>
    have hrest := ih fun x hx => h x (hx.trans (List.suffix_cons c u))
    have hfirst := h (c :: u) List.suffix_rfl (List.cons_ne_nil c u)
    rw [List.cons_append] at hfirst ⊢
    rw [breakOn, hfirst, hrest]
    cases breakOn sep v <;> rfl

/-- A separator of two characters begins in a text only if it occurs there, or
is cut in two by the end. -/
theorem clear_pair {a b : Char} (hnone : breakOn [a, b] u = none)
    (hseam : u.getLast? = some a → v.head? ≠ some b) : Clear [a, b] u v := by
  intro x hx hne
  have hown := dropPrefix?_of_breakOn_eq_none hnone hx
  cases x with
  | nil => cases hne rfl
  | cons c x =>
    cases x with
    | cons c' x => exact dropPrefix?_append_eq_none hown (by simp) v
    | nil =>
      obtain ⟨w, rfl⟩ := hx
      rw [List.getLast?_concat] at hseam
      cases v with
      | nil => exact hown
      | cons c' v =>
        simp only [List.cons_append, List.nil_append, dropPrefix?]
        by_cases hc : a = c
        · have := hseam (congrArg some hc.symm)
          simp only [List.head?_cons, ne_eq, Option.some.injEq] at this
          rw [if_pos hc, if_neg (Ne.symm this)]
        · rw [if_neg hc]

end Text

end PromptMarkup
