import PromptMarkup.Options
import PromptMarkup.Source.Literal
import PromptMarkup.Token
/-!
# Token — reading a source

`Token.read` cuts a template source into its tokens. Text runs up to the
next opening delimiter; a backslash before the delimiter makes it text. A
tag is a name with quoted attributes, and the bodies of raw and comment
tags are taken as they stand, up to their closing tag. The first fault ends
the reading.

Each step leaves less to read than it found (`readTag_length`), which is
why the reading ends.
-/

namespace PromptMarkup

namespace Token

/-! ## The characters of names -/

/-- A character that a tag name may begin with. -/
def isNameStart (c : Char) : Bool :=
  c.isAlpha || c = '_'

/-- A character of a tag name. -/
def isNameChar (c : Char) : Bool :=
  c.isAlphanum || c = '_' || c = '.' || c = '-'

/-- A character of an attribute name. -/
def isAttributeChar (c : Char) : Bool :=
  isNameChar c || c = ':'

theorem isNameChar_of_isNameStart {c : Char} (h : isNameStart c = true) :
    isNameChar c = true := by
  simp only [isNameStart, Bool.or_eq_true, decide_eq_true_eq] at h
  simp only [isNameChar, Char.isAlphanum, Bool.or_eq_true, decide_eq_true_eq]
  rcases h with h | h <;> simp [h]

/-- The tag whose body is literal text. -/
def rawTag : String := "prompty.raw"

/-- The tag whose body is a comment. -/
def commentTag : String := "prompty.comment"

/-! ## Parts of a tag -/

/-- The failure of a tag that begins at `start` and cannot go on at the
cursor. -/
def stuck (start : Position) (after : TagSite) (c : Cursor) : Failure :=
  match c.rest with
  | [] => .parse .unterminatedTag (some start)
  | ch :: _ => .parse (.unexpectedCharacter ch after) (some c.position)

/-- Reads the name of a tag. -/
def readName (start : Position) (c : Cursor) : Except Failure (String × Cursor) :=
  match c.rest with
  | [] => .error (stuck start .tagStart c)
  | ch :: _ =>
    if isNameStart ch then
      let (name, next) := c.run isNameChar
      .ok (String.ofList name, next)
    else .error (stuck start .tagStart c)

/-- What a backslash and the character after it stand for in a quoted
value. An unknown escape stands for itself. -/
def unescape (c : Char) : List Char :=
  match c with
  | 'n' => ['\n']
  | 't' => ['\t']
  | 'r' => ['\r']
  | '"' => ['"']
  | '\'' => ['\'']
  | '\\' => ['\\']
  | other => ['\\', other]

/-- Reads the quoted value of an attribute. -/
def readQuoted (start : Position) (c : Cursor) : Except Failure (String × Cursor) :=
  match c.rest with
  | [] => .error (.parse .unterminatedTag (some start))
  | quote :: rest =>
    if quote = '"' ∨ quote = '\'' then
      match readLiteral? unescape quote (c.position.advance quote) rest with
      | some (value, next) => .ok (String.ofList value, next)
      | none => .error (.parse .unterminatedString (some c.position))
    else .error (.parse .unquotedValue (some c.position))

/-- Reads a name, an equals sign and a quoted value. -/
def readAttribute (start : Position) (c : Cursor) :
    Except Failure (String × String × Cursor) :=
  let (name, next) := c.run isAttributeChar
  if name.isEmpty then .error (stuck start .attributeList c)
  else
    let name := String.ofList name
    match next.skipBlanks.eat? ['='] with
    | none => .error (stuck start (.attributeName name) next.skipBlanks)
    | some next =>
      match readQuoted start next.skipBlanks with
      | .error failure => .error failure
      | .ok (value, next) => .ok (name, value, next)

/-! ## Each part takes something away -/

theorem readName_length {start : Position} {c next : Cursor} {name : String}
    (h : readName start c = .ok (name, next)) : next.rest.length < c.rest.length := by
  unfold readName at h
  split at h
  · cases h
  · next ch rest heq =>
    split at h
    · next hch =>
      simp only [Except.ok.injEq, Prod.mk.injEq] at h
      rw [← h.2]
      simp only [Cursor.run, Cursor.past, heq, List.dropWhile_cons,
        isNameChar_of_isNameStart hch, if_true, List.length_cons]
      exact Nat.lt_succ_of_le (List.dropWhile_suffix isNameChar).length_le
    · cases h

theorem readQuoted_length {start : Position} {c next : Cursor} {value : String}
    (h : readQuoted start c = .ok (value, next)) : next.rest.length < c.rest.length := by
  unfold readQuoted at h
  split at h
  · cases h
  · next quote rest heq =>
    split at h
    · split at h
      · next v n hv =>
        cases h
        rw [heq]
        exact Nat.lt_succ_of_lt (readLiteral?_length hv)
      · cases h
    · cases h

theorem readAttribute_length {start : Position} {c next : Cursor} {name value : String}
    (h : readAttribute start c = .ok (name, value, next)) :
    next.rest.length < c.rest.length := by
  simp only [readAttribute] at h
  split at h
  · cases h
  · split at h
    · cases h
    · next d hd =>
      split at h
      · cases h
      · next v n hv =>
        cases h
        have h₁ := readQuoted_length hv
        have h₂ := d.skipBlanks_length_le
        have h₃ := Cursor.eat?_length hd
        have h₄ := (c.run isAttributeChar).2.skipBlanks_length_le
        have h₅ := c.run_length_le isAttributeChar
        omega

/-! ## Tags -/

/-- Reads the attributes of a tag and its end. -/
def readAttributes (closing : List Char) (start : Position) (attrs : Attributes) (c : Cursor) :
    Except Failure (TagShape × Attributes × Cursor) :=
  let here := c.skipBlanks
  if here.rest.isEmpty then .error (.parse .unterminatedTag (some start))
  else
    match here.eat? closing with
    | some next => .ok (.block, attrs, next)
    | none =>
      match here.eat? ['/'] with
      | some slash =>
        match slash.skipBlanks.eat? closing with
        | some next => .ok (.selfClosing, attrs, next)
        | none => .error (stuck start .slash slash.skipBlanks)
      | none =>
        match _h : readAttribute start here with
        | .error failure => .error failure
        | .ok (name, value, next) => readAttributes closing start (attrs.set name value) next
termination_by c.rest.length
decreasing_by
  have h₁ := readAttribute_length _h
  have h₂ := c.skipBlanks_length_le
  simp only [here] at h₁
  omega

/-- Reads what follows the opening delimiter in a closing tag of the given
name. -/
def readClosing? (closing : List Char) (name : String) (c : Cursor) : Option Cursor :=
  (c.skipBlanks.eat? ['/']).bind fun c =>
    (c.skipBlanks.eat? name.toList).bind fun c => c.skipBlanks.eat? closing

/-- Reads a verbatim body up to the first closing tag of its name. Gives the
body, the offset of its end and the cursor after the closing tag. -/
def readVerbatim? (d : Delimiters) (name : String) (c : Cursor) :
    Option (List Char × Nat × Cursor) :=
  match _hb : Text.breakOn d.opening.toList c.rest with
  | none => none
  | some (before, after) =>
    let inner := c.past (before ++ d.opening.toList) after
    match readClosing? d.closing.toList name inner with
    | some next => some (before, (c.position.advanceBy before).offset, next)
    | none =>
      -- an empty delimiter would be found here again and again
      if _ho : d.opening.toList = [] then none
      else
        (readVerbatim? d name inner).map fun (body, stop, next) =>
          (before ++ d.opening.toList ++ body, stop, next)
termination_by c.rest.length
decreasing_by
  have h₁ := Text.length_of_breakOn _hb
  have h₂ := List.length_pos_iff.2 _ho
  simp only [Cursor.past]
  omega

/-- The token of a verbatim body. Raw text that is empty leaves no token. -/
def verbatimToken? (name : String) (body : List Char) (start : Position) (stop : Nat) :
    Option Token :=
  let text := String.ofList body
  if name = commentTag then some ⟨.comment text, ⟨start.offset, stop⟩, start⟩
  else if body.isEmpty then none
  else some ⟨.text text, ⟨start.offset, stop⟩, start⟩

/-- Reads what follows a closing tag's slash. -/
def readClosingTag (d : Delimiters) (start : Position) (c : Cursor) :
    Except Failure (Option Token × Cursor) :=
  match readName start c.skipBlanks with
  | .error failure => .error failure
  | .ok (name, next) =>
    match next.skipBlanks.eat? d.closing.toList with
    | none => .error (stuck start .closingTag next.skipBlanks)
    | some next => .ok (some ⟨.closing name, ⟨start.offset, next.offset⟩, start⟩, next)

/-- Reads an opening or self-closing tag from its name on, and the whole
body of a verbatim tag. -/
def readOpeningTag (d : Delimiters) (start : Position) (c : Cursor) :
    Except Failure (Option Token × Cursor) :=
  match readName start c with
  | .error failure => .error failure
  | .ok (name, next) =>
    match readAttributes d.closing.toList start .empty next with
    | .error failure => .error failure
    | .ok (shape, attrs, next) =>
      if name = rawTag ∨ name = commentTag then
        match shape with
        | .selfClosing => .ok (none, next)
        | .block =>
          match readVerbatim? d name next with
          | none => .error (.parse (.unclosedVerbatim name) (some start))
          | some (body, stop, after) =>
            .ok (verbatimToken? name body next.position stop, after)
      else .ok (some ⟨.opening shape name attrs, ⟨start.offset, next.offset⟩, start⟩, next)

/-- Reads a tag that begins at `start`, from behind its opening delimiter. -/
def readTag (d : Delimiters) (start : Position) (c : Cursor) :
    Except Failure (Option Token × Cursor) :=
  match c.skipBlanks.eat? ['/'] with
  | some slash => readClosingTag d start slash
  | none => readOpeningTag d start c.skipBlanks

theorem readAttributes_length {closing : List Char} {start : Position} {attrs attrs' : Attributes}
    {c next : Cursor} {shape : TagShape}
    (h : readAttributes closing start attrs c = .ok (shape, attrs', next)) :
    next.rest.length ≤ c.rest.length := by
  fun_induction readAttributes closing start attrs c with
  | case1 => cases h
  | case2 _ c here _ n hn =>
    cases h
    have := Cursor.eat?_length hn
    have : here.rest.length ≤ _ := c.skipBlanks_length_le
    omega
  | case3 _ c here _ _ slash hs n hn =>
    cases h
    have := Cursor.eat?_length hn
    have := Cursor.eat?_length hs
    have := slash.skipBlanks_length_le
    have : here.rest.length ≤ _ := c.skipBlanks_length_le
    omega
  | case4 => cases h
  | case5 => cases h
  | case6 _ c here _ _ _ name value n hn ih =>
    have := ih h
    have := readAttribute_length hn
    have : here.rest.length ≤ _ := c.skipBlanks_length_le
    omega

theorem readClosing?_length {closing : List Char} {name : String} {c next : Cursor}
    (h : readClosing? closing name c = some next) : next.rest.length < c.rest.length := by
  simp only [readClosing?, Option.bind_eq_some_iff] at h
  obtain ⟨c₁, h₁, c₂, h₂, h₃⟩ := h
  have := Cursor.eat?_length h₁
  have := Cursor.eat?_length h₂
  have := Cursor.eat?_length h₃
  have := c.skipBlanks_length_le
  have := c₁.skipBlanks_length_le
  have := c₂.skipBlanks_length_le
  simp only [List.length_cons, List.length_nil] at *
  omega

theorem readVerbatim?_length {d : Delimiters} {name : String} {body : List Char}
    {c next : Cursor} {stop : Nat} (h : readVerbatim? d name c = some (body, stop, next)) :
    next.rest.length < c.rest.length := by
  fun_induction readVerbatim? d name c generalizing body
  case case1 => cases h
  case case2 _ before after hb inner n hn =>
    cases h
    have := readClosing?_length hn
    have := Text.length_of_breakOn hb
    simp only [inner, Cursor.past] at *
    omega
  case case3 => cases h
  case case4 _ before after hb inner _ ho ih =>
    simp only [Option.map_eq_some_iff, Prod.exists, Prod.mk.injEq] at h
    obtain ⟨b, s, n, h, -, rfl, rfl⟩ := h
    have := ih h
    have := Text.length_of_breakOn hb
    simp only [inner, Cursor.past] at *
    omega

/-- **A tag takes at least its name away.** -/
theorem readTag_length {d : Delimiters} {start : Position} {c next : Cursor}
    {token : Option Token} (h : readTag d start c = .ok (token, next)) :
    next.rest.length < c.rest.length := by
  have hc := c.skipBlanks_length_le
  unfold readTag at h
  split at h
  · next slash hs =>
    have := Cursor.eat?_length hs
    have := slash.skipBlanks_length_le
    unfold readClosingTag at h
    split at h
    · cases h
    · next name n hn =>
      have := readName_length hn
      split at h
      · cases h
      · next m hm =>
        cases h
        have := Cursor.eat?_length hm
        have := n.skipBlanks_length_le
        omega
  · unfold readOpeningTag at h
    split at h
    · cases h
    · next name n hn =>
      have := readName_length hn
      split at h
      · cases h
      · next shape attrs m hm =>
        have := readAttributes_length hm
        split at h
        · split at h
          · cases h
            omega
          · split at h
            · cases h
            · next body stop after hb =>
              cases h
              have := readVerbatim?_length hb
              omega
        · cases h
          omega

/-! ## The whole source -/

/-- The token of a run of text, unless it is empty. -/
def textToken? (body : List Char) (start : Position) (stop : Nat) : List Token :=
  if body.isEmpty then [] else [⟨.text (String.ofList body), ⟨start.offset, stop⟩, start⟩]

/-- Reads on from a cursor, with the text `pending` since `start` not yet
made a token. -/
def readFrom (d : Delimiters) (pending : List Char) (start : Position) (c : Cursor) :
    Except Failure (List Token) :=
  if c.rest.isEmpty then .ok (textToken? pending start c.offset)
  else
    match _hb : Text.breakOn d.opening.toList c.rest with
    | none =>
      .ok (textToken? (pending ++ c.rest) start (c.position.advanceBy c.rest).offset)
    | some (before, after) =>
      let inner := c.past (before ++ d.opening.toList) after
      if _he : before.getLast? = some '\\' then
        -- the backslash goes, the delimiter stays as text
        readFrom d (pending ++ before.dropLast ++ d.opening.toList) start inner
      else
        let here := c.position.advanceBy before
        match _ht : readTag d here inner with
        | .error failure => .error failure
        | .ok (token, next) =>
          match readFrom d [] next.position next with
          | .error failure => .error failure
          | .ok more =>
            .ok (textToken? (pending ++ before) start here.offset ++ token.toList ++ more)
termination_by c.rest.length
decreasing_by
  · have h₁ := Text.length_of_breakOn _hb
    have h₂ : before ≠ [] := by
      rintro rfl
      simp at _he
    have h₃ := List.length_pos_iff.2 h₂
    simp only [Cursor.past]
    omega
  · have h₁ := Text.length_of_breakOn _hb
    have h₂ := readTag_length _ht
    simp only [inner, Cursor.past] at h₂
    omega

/-- The tokens of a source. -/
def read (d : Delimiters) (source : String) : Except Failure (List Token) :=
  readFrom d [] .origin (.ofSource source)

end Token

end PromptMarkup
