/-!
# Text — white space and trimming

White space is the Unicode property `White_Space`, twenty-five characters
in all, and `trim` removes it from both ends of a text. The lists of
characters carry the definitions; the forms on `String` wrap them.
-/

namespace PromptMarkup

namespace Text

/-- White space: the characters with the property `White_Space`. -/
def isBlank (c : Char) : Bool :=
  let n := c.toNat
  (0x9 ≤ n && n ≤ 0xd) || n == 0x20 || n == 0x85 || n == 0xa0 || n == 0x1680 ||
    (0x2000 ≤ n && n ≤ 0x200a) || n == 0x2028 || n == 0x2029 || n == 0x202f ||
    n == 0x205f || n == 0x3000

/-- The text without its leading white space. -/
def trimStart (cs : List Char) : List Char :=
  cs.dropWhile isBlank

/-- The text without its trailing white space. -/
def trimEnd (cs : List Char) : List Char :=
  (cs.reverse.dropWhile isBlank).reverse

/-- The text without white space at either end. -/
def trim (cs : List Char) : List Char :=
  trimEnd (trimStart cs)

/-- A string without white space at either end. -/
def trimmed (s : String) : String :=
  String.ofList (trim s.toList)

/-- A string that holds nothing but white space. -/
def isBlankText (s : String) : Bool :=
  s.toList.all isBlank

end Text

end PromptMarkup
