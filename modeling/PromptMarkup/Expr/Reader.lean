import PromptMarkup.Failure.Syntactic
import PromptMarkup.Source.Literal
/-!
# Expr — reading symbols

A condition is cut into symbols with white space between them. The signs
are taken longest first, a word with points in it is one path, and a minus
belongs to a numeral when a digit follows it directly.
-/

namespace PromptMarkup

namespace Expr

/-- A symbol and the bytes of the condition that it covers. -/
structure Located where
  symbol : Symbol
  span : Span
  deriving DecidableEq, Repr

/-- The signs, each before its own beginnings. -/
def signs : List (String × Symbol) :=
  [("==", .operator .equal), ("!=", .operator .notEqual), ("<=", .operator .lessOrEqual),
   (">=", .operator .greaterOrEqual), ("&&", .and), ("||", .or), ("<", .operator .less),
   (">", .operator .greater), ("!", .not), ("(", .leftParen), (")", .rightParen),
   (",", .comma)]

/-- The sign a cursor stands before, and the cursor after it. -/
def readSign? (c : Cursor) : Option (Symbol × Cursor) :=
  signs.findSome? fun (sign, symbol) => (c.eat? sign.toList).map fun next => (symbol, next)

/-- A character that a word may begin with. -/
def isWordStart (c : Char) : Bool :=
  c.isAlpha || c = '_'

/-- A character of a word or of a path. -/
def isWordChar (c : Char) : Bool :=
  c.isAlphanum || c = '_' || c = '.'

/-- A character of a numeral after its first one. -/
def isNumeralChar (c : Char) : Bool :=
  c.isDigit || c = '.'

/-- What a backslash and the character after it stand for in a string. -/
def unescape (c : Char) : List Char :=
  match c with
  | 'n' => ['\n']
  | 'r' => ['\r']
  | 't' => ['\t']
  | other => [other]

/-- The symbol of a word: a keyword or a path. -/
def wordSymbol (word : String) : Symbol :=
  if word = "true" then .keyword .true
  else if word = "false" then .keyword .false
  else if word = "nil" ∨ word = "null" then .keyword .nil
  else .path word

/-- A numeral begins here: with a digit, or with a minus before one. -/
def startsNumeral : List Char → Bool
  | '-' :: d :: _ => d.isDigit
  | c :: _ => c.isDigit
  | [] => false

/-- Reads the symbol that begins with `ch`; `after` is the cursor behind
this character. Called where no sign stands. -/
def readWord (c : Cursor) (ch : Char) (after : Cursor) : Except ExprFault (Symbol × Cursor) :=
  if ch = '=' then .error (.assignment c.offset)
  else if ch = '&' then .error (.singleAmpersand c.offset)
  else if ch = '|' then .error (.singleBar c.offset)
  else if ch = '"' ∨ ch = '\'' then
    match readLiteral? unescape ch after.position after.rest with
    | some (value, next) => .ok (.string (String.ofList value), next)
    | none => .error (.unterminatedString c.offset)
  else if startsNumeral c.rest then
    let more := after.run isNumeralChar
    .ok (.numeral (String.ofList (ch :: more.1)), more.2)
  else if isWordStart ch then
    let more := after.run isWordChar
    let word := ch :: more.1
    if (Text.splitOn ['.'] word).any List.isEmpty then
      .error (.malformedPath (String.ofList word) c.offset)
    else .ok (wordSymbol (String.ofList word), more.2)
  else .error (.unexpectedCharacter ch c.offset)

/-- Reads the symbol a cursor stands before. -/
def readSymbol (c : Cursor) (ch : Char) (after : Cursor) : Except ExprFault (Symbol × Cursor) :=
  match readSign? c with
  | some found => .ok found
  | none => readWord c ch after

theorem readSign?_length {c next : Cursor} {symbol : Symbol}
    (h : readSign? c = some (symbol, next)) : next.rest.length < c.rest.length := by
  obtain ⟨⟨sign, s⟩, hs, hn⟩ := List.exists_of_findSome?_eq_some h
  simp only [Option.map_eq_some_iff, Prod.mk.injEq] at hn
  obtain ⟨n, hn, -, rfl⟩ := hn
  have hlen := Cursor.eat?_length hn
  have hpos : 0 < sign.toList.length := by
    simp only [signs, List.mem_cons, Prod.mk.injEq, List.not_mem_nil, or_false] at hs
    rcases hs with ⟨rfl, -⟩ | ⟨rfl, -⟩ | ⟨rfl, -⟩ | ⟨rfl, -⟩ | ⟨rfl, -⟩ | ⟨rfl, -⟩ | ⟨rfl, -⟩ |
      ⟨rfl, -⟩ | ⟨rfl, -⟩ | ⟨rfl, -⟩ | ⟨rfl, -⟩ | ⟨rfl, -⟩ <;> decide
  omega

theorem readWord_length {c after next : Cursor} {ch : Char} {symbol : Symbol}
    (h : readWord c ch after = .ok (symbol, next)) : next.rest.length ≤ after.rest.length := by
  simp only [readWord] at h
  repeat' split at h
  · cases h
  · cases h
  · cases h
  · next value n hv =>
    cases h
    exact Nat.le_of_lt (readLiteral?_length hv)
  · cases h
  · cases h
    exact after.run_length_le _
  · cases h
  · cases h
    exact after.run_length_le _
  · cases h

/-- **A symbol takes at least a character away.** -/
theorem readSymbol_length {c after next : Cursor} {ch : Char} {symbol : Symbol}
    (hafter : after.rest.length < c.rest.length)
    (h : readSymbol c ch after = .ok (symbol, next)) : next.rest.length < c.rest.length := by
  unfold readSymbol at h
  split at h
  · next found hf =>
    cases h
    exact readSign?_length hf
  · have := readWord_length h
    omega

/-- The symbols from a cursor on. -/
def symbolsFrom (c : Cursor) : Except ExprFault (List Located) :=
  let here := c.skipBlanks
  match _hn : here.next? with
  | none => .ok []
  | some (ch, after) =>
    match _hs : readSymbol here ch after with
    | .error fault => .error fault
    | .ok (symbol, next) =>
      match symbolsFrom next with
      | .error fault => .error fault
      | .ok more => .ok (⟨symbol, ⟨here.offset, next.offset⟩⟩ :: more)
termination_by c.rest.length
decreasing_by
  have h₁ : here.rest.length ≤ _ := c.skipBlanks_length_le
  have h₂ := Cursor.next?_length _hn
  have h₃ := readSymbol_length (by omega) _hs
  omega

/-- The symbols of a condition. -/
def symbols (source : String) : Except ExprFault (List Located) :=
  symbolsFrom (.ofSource source)

end Expr

end PromptMarkup
