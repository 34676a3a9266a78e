import PromptMarkup.Text.Case
import PromptMarkup.Text.Table.Letter
/-!
# Text — title case

A text is cut into words, each word is capitalised and the words are joined
by single spaces. The words are those that converters between the cases of
identifiers document: a word ends at every character that is neither a letter
nor a number, where a lowercase letter meets an uppercase one
(`camelCase`), and before the last letter of a run of capitals that a
lowercase letter follows (`XMLHttp`).
-/

namespace PromptMarkup

namespace Text

/-- A letter or a number. -/
def isAlphanumeric (c : Char) : Bool :=
  c.isAlphanum || (127 < c.toNat && (inTable alphabetic c || inTable numeric c))

/-- What the letters of the current word have been so far. -/
inductive Casing where
  | unknown
  | lowercase
  | uppercase
  deriving DecidableEq, Repr

/-- The casing of a word once `c` belongs to it; a caseless character
leaves it as it was. -/
def Casing.after (mode : Casing) (c : Char) : Casing :=
  if isLower c then .lowercase else if isUpper c then .uppercase else mode

/-- Cuts a run of letters and numbers at its inner word boundaries. The
current word is kept in reverse. -/
def humps (mode : Casing) (word : List Char) : List Char → List (List Char)
  | [] => []
  | [c] => [(c :: word).reverse]
  | c :: next :: rest =>
    if mode.after c = .lowercase && isUpper next then
      (c :: word).reverse :: humps .unknown [] (next :: rest)
    else if mode = .uppercase && isUpper c && isLower next then
      -- the last capital of a run begins the next word
      word.reverse :: humps .unknown [c] (next :: rest)
    else
      humps (mode.after c) (c :: word) (next :: rest)

/-- The maximal runs of letters and numbers in a text. -/
def runs (cs : List Char) : List (List Char) :=
  match _h : cs.dropWhile (!isAlphanumeric ·) with
  | [] => []
  | c :: rest =>
    (c :: rest.takeWhile isAlphanumeric) :: runs (rest.dropWhile isAlphanumeric)
termination_by cs.length
decreasing_by
  have h₁ := (List.dropWhile_suffix (l := cs) (fun c => !isAlphanumeric c)).length_le
  have h₂ := (List.dropWhile_suffix (l := rest) isAlphanumeric).length_le
  rw [_h] at h₁
  simp only [List.length_cons] at h₁
  omega

/-- Lowercases the rest of a word; a sigma is final when it ends it. -/
def lowerTail : List Char → List Char
  | [] => []
  | ['Σ'] => ['ς']
  | c :: rest => lowerChar c ++ lowerTail rest

/-- A word with its first letter in upper and the others in lower case. -/
def capitalized : List Char → List Char
  | [] => []
  | c :: rest => upperChar c ++ lowerTail rest

/-- A string in title case. -/
def title (s : String) : String :=
  let words := (runs s.toList).flatMap (humps .unknown [])
  String.ofList (List.intercalate [' '] (words.map capitalized))

end Text

end PromptMarkup
