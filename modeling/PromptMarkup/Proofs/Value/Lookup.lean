import PromptMarkup.Context
import PromptMarkup.Proofs.Text.Pieces
/-!
# Value — looking up a path in data alone

A context without scopes looks a path up in the data, by the first segment
and then by the others; a value follows all segments alike. The two differ
in one respect: the first segment of a path that begins with a point is
empty, which no context looks up (`Context.lookup?_root`).
-/

namespace PromptMarkup

/-- The first segment of a path is empty only if the path is or begins with
a point. -/
theorem Path.exists_segments_cons (path : String) :
    ∃ head rest, Path.segments path = head :: rest ∧
      (head.isEmpty = true → path = "" ∨ path.toList.head? = some '.') := by
  obtain ⟨first, rest, hsplit, hfirst⟩ :=
    Text.exists_splitOn_cons (by decide : ".".toList ≠ []) path.toList
  refine ⟨String.ofList first, rest.map String.ofList, ?_, fun hempty => ?_⟩
  · rw [Path.segments, Text.split, hsplit, List.map_cons]
  · have hnil : first = [] := by simpa using hempty
    obtain hpath | ⟨after, hpath⟩ := hfirst hnil
    · exact .inl (by simpa using hpath)
    · exact .inr (by rw [hpath]; rfl)

/-- The segments on both sides of a point are those of the whole. -/
theorem Path.segments_append (front back : String) :
    Path.segments (front ++ "." ++ back) = Path.segments front ++ Path.segments back := by
  have hchars : (front ++ "." ++ back).toList = front.toList ++ '.' :: back.toList := by simp
  rw [segments, segments, segments, Text.split, Text.split, Text.split, hchars, ← List.map_append]
  exact congrArg _ (Text.splitOn_append_cons _ _)

/-- The empty path has one segment, the empty one. -/
theorem Path.segments_empty : Path.segments "" = [""] := by
  rw [Path.segments, Text.split, Text.splitOn_eq (by decide)]
  rfl

/-- **A path that does not begin with a point leads to the same** in the data
and in a context that has nothing but the data. -/
theorem Context.lookup?_root {data : Value} {path : String}
    (h : path.toList.head? ≠ some '.') :
    ({ root := data } : Context).lookup? path = data.lookup? path := by
  obtain ⟨head, rest, hsegments, hhead⟩ := Path.exists_segments_cons path
  by_cases hpath : path = ""
  · subst hpath
    rw [Context.lookup?, Path.segments_empty]
    rfl
  · have hempty : path.isEmpty = false := by simpa using hpath
    have hfirst : head.isEmpty = false := by
      rw [Bool.eq_false_iff]
      exact fun hnil => (hhead hnil).elim hpath h
    rw [Context.lookup?, Value.lookup?, hsegments, hempty]
    simp only [hfirst, Bool.false_eq_true, if_false, Context.head?, List.findSome?_nil,
      Option.none_or, Value.follow?]

end PromptMarkup
