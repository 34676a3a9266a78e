/-!
# Text — edit distance

The Levenshtein distance of two texts: the least number of insertions, deletions
and substitutions of one character that turn one of them into the other. It is
computed row by row, as is usual: the row of a prefix holds its distance to every
nonempty prefix of the other text.
-/

namespace PromptMarkup

namespace Text

/-- The next row of the table, for the character `c`. Each entry is one
more than its cheapest neighbour, or equal to the one on the diagonal where
the characters agree. -/
def nextRow (c : Char) : List Char → Nat → Nat → List Nat → List Nat
  | d :: ds, corner, left, above :: row =>
    let here := min (min (above + 1) (left + 1)) (if c = d then corner else corner + 1)
    here :: nextRow c ds above here row
  | _, _, _, _ => []

/-- The row reached after the characters of a text, `n` of which have been
read before. -/
def lastRow (other : List Char) : Nat → List Nat → List Char → List Nat
  | _, row, [] => row
  | n, row, c :: cs => lastRow other (n + 1) (nextRow c other n (n + 1) row) cs

/-- The edit distance of two texts. -/
def distance (s t : List Char) : Nat :=
  (lastRow t 0 (List.range' 1 t.length) s).getLastD s.length

end Text

end PromptMarkup
