import PromptMarkup.Text.Stretch
import PromptMarkup.Text.Table.Cased
import PromptMarkup.Text.Table.Mapping
/-!
# Text — upper and lower case

The full case mappings of Unicode: a character may become several, and
`lower` writes a capital sigma as `ς` where it ends a word. ASCII letters
are mapped by arithmetic and need no table.
-/

namespace PromptMarkup

namespace Text

/-- A lowercase letter. -/
def isLower (c : Char) : Bool :=
  c.isLower || (127 < c.toNat && inTable lowercase c)

/-- An uppercase letter. -/
def isUpper (c : Char) : Bool :=
  c.isUpper || (127 < c.toNat && inTable uppercase c)

/-- The image of a character under a table of shifts and a table of
expansions; a character in neither stays as it is. -/
def mapped (shifts : List Shift) (expansions : List (Nat × List Nat)) (c : Char) : List Char :=
  match shifted? shifts c with
  | some d => [d]
  | none =>
    match expansions.lookup c.toNat with
    | some ns => ns.map Char.ofNat
    | none => [c]

/-- The lowercase form of a character, whatever stands around it. -/
def lowerChar (c : Char) : List Char :=
  if c.toNat ≤ 127 then [c.toLower] else mapped lowerShifts lowerExpansions c

/-- The uppercase form of a character. -/
def upperChar (c : Char) : List Char :=
  if c.toNat ≤ 127 then [c.toUpper] else mapped upperShifts upperExpansions c

/-- The first character that is not ignored for casing is a cased one. -/
def meetsCased (cs : List Char) : Bool :=
  match cs.dropWhile (inTable caseIgnorable) with
  | c :: _ => inTable cased c
  | [] => false

/-- Lowercases a text whose characters before it are given in reverse. A
sigma is final when a letter stands before it and none after it. -/
def lowerFrom (before : List Char) : List Char → List Char
  | [] => []
  | c :: after =>
    -- no other character looks at its neighbours
    let image :=
      if c = 'Σ' then [if meetsCased before && !meetsCased after then 'ς' else 'σ']
      else lowerChar c
    image ++ lowerFrom (c :: before) after

/-- A string in lower case. -/
def lower (s : String) : String :=
  String.ofList (lowerFrom [] s.toList)

/-- A string in upper case. -/
def upper (s : String) : String :=
  String.ofList (s.toList.flatMap upperChar)

end Text

end PromptMarkup
