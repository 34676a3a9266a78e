import PromptMarkup.Text.Search
import PromptMarkup.Value
/-!
# Value — written forms

`json` writes a value in the data format, JSON, in the compact form that
serialisers document: no blanks, the fields of a record in their order, and in
strings only quote, backslash and the controls below the blank escaped, by a
letter if there is one and else by four digits in lower case. `shown` is the
form a value takes in output, where a text stands for itself and null for
nothing.
-/

namespace PromptMarkup

namespace Value

/-- A character as it stands inside a string of the data format. -/
def jsonChar (c : Char) : List Char :=
  match c with
  | '"' => ['\\', '"']
  | '\\' => ['\\', '\\']
  | '\x08' => ['\\', 'b']
  | '\x0c' => ['\\', 'f']
  | '\n' => ['\\', 'n']
  | '\r' => ['\\', 'r']
  | '\t' => ['\\', 't']
  | c =>
    if c.toNat < 0x20 then
      ['\\', 'u', '0', '0', Nat.digitChar (c.toNat / 16), Nat.digitChar (c.toNat % 16)]
    else [c]

/-- A string of the data format. -/
def jsonString (s : String) : String :=
  String.ofList ('"' :: s.toList.flatMap jsonChar ++ ['"'])

mutual

/-- A value in the data format. -/
def json : Value → String
  | .null => "null"
  | .boolean b => toString b
  | .number n => n.text
  | .text s => jsonString s
  | .list items => "[" ++ Text.join "," (jsonItems items) ++ "]"
  | .record fields => "\x7b" ++ Text.join "," (jsonFields fields) ++ "\x7d"

/-- The written elements of a list. -/
def jsonItems : List Value → List String
  | [] => []
  | v :: rest => json v :: jsonItems rest

/-- The written fields of a record. -/
def jsonFields : List (String × Value) → List String
  | [] => []
  | (k, v) :: rest => (jsonString k ++ ":" ++ json v) :: jsonFields rest

end

/-- A value as it appears in output. -/
def shown : Value → String
  | .null => ""
  | .boolean b => toString b
  | .number n => n.shown
  | .text s => s
  | v => v.json

end Value

end PromptMarkup
