import PromptMarkup.Source
/-!
# Source — quoted literals

Attribute values and the strings of conditions are written between quotes,
with a backslash before characters that have a special meaning. What an
escape stands for is left to the format.
-/

namespace PromptMarkup

/-- Reads a literal from behind its opening quote, up to and including the
closing one. `unescape` says what a backslash and the character after it
stand for. -/
def readLiteral? (unescape : Char → List Char) (quote : Char) (p : Position) :
    List Char → Option (List Char × Cursor)
  | [] => none
  | c :: rest =>
    if c = quote then some ([], ⟨p.advance c, rest⟩)
    else if c = '\\' then
      match rest with
      | [] => none
      | d :: more =>
        (readLiteral? unescape quote ((p.advance c).advance d) more).map fun (value, next) =>
          (unescape d ++ value, next)
    else
      (readLiteral? unescape quote (p.advance c) rest).map fun (value, next) =>
        (c :: value, next)

/-- A literal takes at least its closing quote away. -/
theorem readLiteral?_length {unescape : Char → List Char} {quote : Char} {p : Position}
    {cs value : List Char} {next : Cursor}
    (h : readLiteral? unescape quote p cs = some (value, next)) :
    next.rest.length < cs.length := by
  fun_induction readLiteral? unescape quote p cs generalizing value with
  | case1 => cases h
  | case2 => cases h; simp
  | case3 => cases h
  | case4 p _ d more ih =>
    simp only [Option.map_eq_some_iff, Prod.exists, Prod.mk.injEq] at h
    obtain ⟨v, n, hn, -, rfl⟩ := h
    have := ih hn
    simp only [List.length_cons]
    omega
  | case5 p c rest _ _ ih =>
    simp only [Option.map_eq_some_iff, Prod.exists, Prod.mk.injEq] at h
    obtain ⟨v, n, hn, -, rfl⟩ := h
    have := ih hn
    simp only [List.length_cons]
    omega

end PromptMarkup
