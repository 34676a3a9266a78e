import PromptMarkup.Text.Stretch
import PromptMarkup.Text.Table.Display
/-!
# Text — quoted strings

A string is shown between double quotes with everything escaped that would
not be seen or would end the quotation: quote and backslash, the control
characters with a short name, and by code point every other character that
leaves no mark of its own.
-/

namespace PromptMarkup

namespace Text

/-- A character that is shown as itself. -/
def isShown (c : Char) : Bool :=
  if c.toNat ≤ 127 then 32 ≤ c.toNat && c.toNat < 127
  else !inTable combining c && !inTable unprintable c

/-- A character as it stands inside a quotation. -/
def quotedChar (c : Char) : List Char :=
  match c with
  | '"' => ['\\', '"']
  | '\\' => ['\\', '\\']
  | '\n' => ['\\', 'n']
  | '\r' => ['\\', 'r']
  | '\t' => ['\\', 't']
  | '\x00' => ['\\', '0']
  | c => if isShown c then [c] else ['\\', 'u', '\x7b'] ++ Nat.toDigits 16 c.toNat ++ ['\x7d']

/-- A string between double quotes. -/
def quoted (s : String) : String :=
  String.ofList ('"' :: s.toList.flatMap quotedChar ++ ['"'])

end Text

end PromptMarkup
