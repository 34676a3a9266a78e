import PromptMarkup.Function
import PromptMarkup.Text.Quoted
import PromptMarkup.Text.Title
/-!
# Function — the standard functions

Eighteen functions on texts, lists and records. Where a function expects a
text it takes any value in the form it has in output, so `upper(4.0)` is
`"4"`; the others refuse what they are not made for.
-/

namespace PromptMarkup

namespace Function

/-- A failure of evaluation, not yet placed. -/
def refuse (fault : EvalFault) : Except Failure Value :=
  .error (.eval fault none)

/-- A function of one value. -/
def unary (name : String) (f : Value → Except Failure Value) : Function where
  name := name
  least := 1
  most := some 1
  body
    | [a] => f a
    | args => refuse (.argumentCount name 1 (some 1) args.length)

/-- A function of two values. -/
def binary (name : String) (f : Value → Value → Except Failure Value) : Function where
  name := name
  least := 2
  most := some 2
  body
    | [a, b] => f a b
    | args => refuse (.argumentCount name 2 (some 2) args.length)

/-- A function that maps the text of a value to a text. -/
def onText (name : String) (f : String → String) : Function :=
  unary name fun a => .ok (.text (f a.shown))

/-- A function that tests a value. -/
def test (name : String) (f : Value → Bool) : Function :=
  unary name fun a => .ok (.boolean (f a))

/-- The number of characters, elements or fields. -/
def len : Function :=
  unary "len" fun
    | .null => .ok (.ofNat 0)
    | .text s => .ok (.ofNat s.length)
    | .list items => .ok (.ofNat items.length)
    | .record fields => .ok (.ofNat fields.length)
    | v => refuse (.noLength v.kindText)

/-- Whether a list has an element, a record a field, or a text a part. -/
def contains : Function :=
  binary "contains" fun a b =>
    .ok <| .boolean <|
      match a with
      | .list items => items.any (·.same b)
      | .record fields => Keyed.has fields b.shown
      | .null => false
      | v => Text.contains v.shown b.shown

/-- The texts of a list one after another, with a separator between. -/
def joined (items : Value) (separator : String) : Except Failure Value :=
  match items with
  | .list items => .ok (.text (Text.join separator (items.map Value.shown)))
  | .null => .ok (.text "")
  | v => refuse (.notJoinable v.kindText)

/-- Joins a list, without a separator unless one is given. -/
def join : Function where
  name := "join"
  least := 1
  most := some 2
  body
    | [items] => joined items ""
    | [items, separator] => joined items separator.shown
    | args => refuse (.argumentCount "join" 1 (some 2) args.length)

/-- The parts of a text between the occurrences of a separator. The empty
text has no parts, and the empty separator parts every character. -/
def parts (source separator : String) : List String :=
  if source.isEmpty then []
  else if separator.isEmpty then source.toList.map String.singleton
  else Text.split separator source

/-- Splits a text at a separator. -/
def split : Function :=
  binary "split" fun a b => .ok (.list ((parts a.shown b.shown).map .text))

/-- The first value, or the second if the first is empty. -/
def default : Function :=
  binary "default" fun a b => .ok (if a.isEmpty then b else a)

/-- The names of a record's fields. -/
def keys : Function :=
  unary "keys" fun
    | .record fields => .ok (.list ((Keyed.names fields).map .text))
    | .null => .ok (.list [])
    | v => refuse (.notAMap v.kindText)

/-- A function that picks one of the elements of a list or of the characters
of a text, or null where there is none. -/
def pick (name : String) (choose : {α : Type} → List α → Option α) : Function :=
  unary name fun
    | .list items => .ok ((choose items).getD .null)
    | .text s => .ok (((choose s.toList).map fun c => .text (String.singleton c)).getD .null)
    | .null => .ok .null
    | v => refuse (.noEnds v.kindText)

/-- The number a value denotes. -/
def toNumber : Function :=
  unary "toNumber" fun
    | .number n => .ok (.number n)
    | .boolean b => .ok (.ofNat b.toNat)
    | .text s =>
      match Number.read? s with
      | some n => .ok (.number n)
      | none => refuse (.notANumeral s)
    | v => refuse (.notConvertible v.kindText)

end Function

/-- The standard functions. -/
def Functions.standardList : List Function :=
  [Function.len,
   .onText "upper" Text.upper,
   .onText "lower" Text.lower,
   .onText "title" Text.title,
   .onText "trim" Text.trimmed,
   Function.contains,
   .binary "hasPrefix" fun a b => .ok (.boolean (Text.hasPrefix a.shown b.shown)),
   .binary "hasSuffix" fun a b => .ok (.boolean (Text.hasSuffix a.shown b.shown)),
   Function.join,
   Function.split,
   Function.default,
   .test "not" Value.isEmpty,
   .test "empty" Value.isEmpty,
   Function.keys,
   .pick "first" List.head?,
   .pick "last" List.getLast?,
   .onText "toString" id,
   Function.toNumber]

/-- Adds the standard functions to a table, in place of those of the same
names. -/
def Functions.withStandard (fs : Functions) : Functions :=
  Functions.standardList.foldl Functions.put fs

/-- The table of the standard functions. -/
def Functions.standard : Functions :=
  Functions.withStandard []

end PromptMarkup
