import PromptMarkup.Proofs.Value.Leaf
/-!
# DryRun — overlapping paths

A report compares paths as texts: one begins the other if it is all of it or a
point stands behind it (`beginsPath_append`). That is a comparison of segments
(`beginsPath_iff`), also where segments are empty, because a point parts the
segments before it from those behind it (`Path.segments_append`). So two paths
overlap if the segments of one begin those of the other, in whichever order they
are given (`overlap_segmentwise`).
-/

namespace PromptMarkup

namespace DryRun

variable {a b : String}

/-! ## A path at the beginning of another -/

/-- What stands behind a path decides whether the path begins the whole. -/
theorem beginsPath_append (a rest : String) :
    beginsPath a (a ++ rest) = true ↔ ∀ c ∈ rest.toList.head?, c = '.' := by
  have hdrop : Text.dropPrefix? a.toList (a ++ rest).toList = some rest.toList := by
    rw [String.toList_append, Text.dropPrefix?_append]
  rw [beginsPath, hdrop]
  cases rest.toList <;> simp

/-- A path that begins another begins its text. -/
theorem exists_append_of_beginsPath (h : beginsPath a b = true) : ∃ rest, b = a ++ rest := by
  rw [beginsPath] at h
  cases hdrop : Text.dropPrefix? a.toList b.toList with
  | none => simp [hdrop] at h
  | some rest =>
    refine ⟨String.ofList rest, ?_⟩
    rw [← String.toList_inj, Text.eq_of_dropPrefix? hdrop, String.toList_append,
      String.toList_ofList]

/-- So no path begins a shorter one. -/
theorem beginsPath_eq_false (a : String) (c : Char) (rest : List Char) :
    beginsPath (a ++ String.ofList (c :: rest)) a = false := by
  rw [← Bool.not_eq_true]
  intro h
  obtain ⟨more, hmore⟩ := exists_append_of_beginsPath h
  have hlength := congrArg String.length hmore
  simp only [String.length_append, String.length_ofList, List.length_cons] at hlength
  omega

/-- **One path begins another if its segments do.** -/
theorem beginsPath_iff : beginsPath a b = true ↔ Path.segments a <+: Path.segments b := by
  constructor
  · intro h
    obtain ⟨rest, rfl⟩ := exists_append_of_beginsPath h
    have hpoint := (beginsPath_append a rest).1 h
    cases hrest : rest.toList with
    | nil =>
      have hwhole : a ++ rest = a := by rw [String.toList_eq_nil_iff.1 hrest, String.append_empty]
      exact hwhole.symm ▸ List.prefix_rfl
    | cons c more =>
      obtain rfl : c = '.' := hpoint c (by rw [hrest]; rfl)
      have hmore : rest = "." ++ String.ofList more := by
        rw [← String.toList_inj, hrest]
        simp
      rw [hmore, ← String.append_assoc, Path.segments_append]
      exact List.prefix_append _ _
  · rintro ⟨more, hmore⟩
    obtain ⟨head, rest, hsegments, _⟩ := Path.exists_segments_cons a
    have hbegins := beginsPath_join (hsegments ▸ List.cons_ne_nil head rest) more
    rwa [hmore, Path.segments, Path.segments, Text.join_split, Text.join_split] at hbegins

/-! ## Two paths -/

/-- **Paths overlap segment by segment.** Two paths overlap if and only if the
segments of one begin those of the other. It does not matter which of them is
the reference, and a path overlaps one that goes on behind it only where a point
comes next, so never inside a segment. -/
theorem overlap_segmentwise (a b : String) :
    (overlap a b = true ↔
      Path.segments a <+: Path.segments b ∨ Path.segments b <+: Path.segments a) ∧
    overlap a b = overlap b a ∧
    ∀ (c : Char) (rest : List Char),
      overlap a (a ++ String.ofList (c :: rest)) = true ↔ c = '.' := by
  refine ⟨?_, Bool.or_comm _ _, fun c rest => ?_⟩
  · rw [overlap, Bool.or_eq_true, beginsPath_iff, beginsPath_iff]
  · rw [overlap, beginsPath_eq_false, Bool.or_false, beginsPath_append]
    simp

/-- A point at the beginning or at the end has an empty segment beside it. -/
example : overlap "" ".a" = true ∧ overlap "a" "a." = true ∧ overlap "a." "a.b" = false :=
  by decide +kernel

end DryRun

end PromptMarkup
