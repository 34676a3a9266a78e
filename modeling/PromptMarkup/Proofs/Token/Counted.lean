import PromptMarkup.Proofs.Source.Counter
import PromptMarkup.Proofs.Text.Cut
import PromptMarkup.Token.Reader
/-!
# Token — reading with a counter

The readers of tokens take cursors, which have the position of the text read so
far. Here the same is read with a `Counter`, which is moved past characters and
over whole texts, and is asked for its position only where a token or a failure
needs one (`Counted.read`). Texts are cut out of the source by their bytes, and
the end of a verbatim body is looked for before the counter is moved there.

No reader moves a counter back, and a tag moves it on (`Counted.offset_readTag`),
which is why the reading ends.
-/

namespace PromptMarkup

open Text

variable {source : List Char}

namespace Counter

variable {k next : Counter}

/-! ## Moving along a source -/

theorem offset_next? {c : Char} (h : k.next? source = some (c, next)) :
    k.offset < next.offset ∧ k.offset < bytes source := by
  rw [next?] at h
  split at h
  · cases h
  · next hrest =>
    cases h
    have hpos := c.utf8Size_pos
    rw [offset_pass]
    exact ⟨by omega, lt_bytes_of_dropBytes_ne_nil (by rw [← Counter.rest, hrest]; simp)⟩

/-- Moves past the characters of a kind, one after another. -/
def skip (source : List Char) (kind : Char → Bool) (k : Counter) : Counter :=
  match _h : k.next? source with
  | none => k
  | some (c, next) => if kind c then skip source kind next else k
termination_by bytes source - k.offset
decreasing_by
  have := offset_next? _h
  omega

/-- Moves past this character. -/
def eatChar? (source : List Char) (c : Char) (k : Counter) : Option Counter :=
  match k.next? source with
  | none => none
  | some (d, next) => if d = c then some next else none

/-- Moves over this text. -/
def eat? (source text : List Char) (k : Counter) : Option Counter :=
  if startsWith text (k.rest source) then some (k.advanceTo source (k.offset + bytes text))
  else none

/-! Nothing goes back. -/

theorem offset_le_skip (source : List Char) (kind : Char → Bool) (k : Counter) :
    k.offset ≤ (k.skip source kind).offset := by
  fun_induction skip source kind k with
  | case1 => exact Nat.le_refl _
  | case2 k c next hnext _ ih => exact (offset_next? hnext).1.le.trans ih
  | case3 => exact Nat.le_refl _

/-- Something is skipped if the first character is of the kind. -/
theorem offset_lt_skip {kind : Char → Bool} {c : Char} {rest : List Char}
    (hrest : k.rest source = c :: rest) (hc : kind c = true) :
    k.offset < (k.skip source kind).offset := by
  have hnext : k.next? source = some (c, k.pass c) := by rw [next?, hrest]
  rw [skip, hnext]
  simp only [hc, if_true]
  exact (offset_next? hnext).1.trans_le (offset_le_skip source kind _)

theorem offset_eatChar? {c : Char} (h : k.eatChar? source c = some next) :
    k.offset < next.offset := by
  rw [eatChar?] at h
  split at h
  · cases h
  · next hnext =>
    split at h
    · cases h
      exact (offset_next? hnext).1
    · cases h

theorem offset_eat? {text : List Char} (h : k.eat? source text = some next) :
    k.offset ≤ next.offset := by
  rw [eat?] at h
  split at h
  · cases h
    exact Nat.le_add_right _ _
  · cases h

end Counter

namespace Token

namespace Counted

variable {k next : Counter} {start : Position}

/-! ## Parts of a tag -/

/-- The failure of a tag that begins at `start` and cannot go on where the
counter stands. -/
def stuck (source : List Char) (start : Position) (after : TagSite) (k : Counter) : Failure :=
  match k.rest source with
  | [] => .parse .unterminatedTag (some start)
  | c :: _ => .parse (.unexpectedCharacter c after) (some (k.position source).1)

/-- Reads the name of a tag. -/
def readName (source : List Char) (start : Position) (k : Counter) :
    Except Failure (String × Counter) :=
  match k.rest source with
  | [] => .error (.parse .unterminatedTag (some start))
  | c :: _ =>
    if isNameStart c then
      let next := k.skip source isNameChar
      .ok (Span.slice ⟨k.offset, next.offset⟩ source, next)
    else .error (stuck source start .tagStart k)

/-- Reads a literal from behind its opening quote. -/
def readLiteral? (source : List Char) (quote : Char) (k : Counter) :
    Option (List Char × Counter) :=
  match _h : k.next? source with
  | none => none
  | some (c, next) =>
    if c = quote then some ([], next)
    else if c = '\\' then
      match _h' : next.next? source with
      | none => none
      | some (d, next) =>
        (readLiteral? source quote next).map fun (value, last) => (unescape d ++ value, last)
    else (readLiteral? source quote next).map fun (value, last) => (c :: value, last)
termination_by bytes source - k.offset
decreasing_by
  all_goals have := Counter.offset_next? _h
  · have := Counter.offset_next? _h'
    omega
  · omega

/-- Reads the quoted value of an attribute. -/
def readQuoted (source : List Char) (start : Position) (k : Counter) :
    Except Failure (String × Counter) :=
  let (here, k) := k.position source
  match k.next? source with
  | none => .error (.parse .unterminatedTag (some start))
  | some (quote, next) =>
    if quote = '"' ∨ quote = '\'' then
      match readLiteral? source quote next with
      | some (value, next) => .ok (String.ofList value, next)
      | none => .error (.parse .unterminatedString (some here))
    else .error (.parse .unquotedValue (some (k.position source).1))

/-- Reads a name, an equals sign and a quoted value. -/
def readAttribute (source : List Char) (start : Position) (k : Counter) :
    Except Failure (String × String × Counter) :=
  let named := k.skip source isAttributeChar
  if named.offset = k.offset then .error (stuck source start .attributeList named)
  else
    let name := Span.slice ⟨k.offset, named.offset⟩ source
    let here := named.skip source isBlank
    match here.eatChar? source '=' with
    | none => .error (stuck source start (.attributeName name) here)
    | some sign =>
      match readQuoted source start (sign.skip source isBlank) with
      | .error failure => .error failure
      | .ok (value, next) => .ok (name, value, next)

/-! Each part takes something away. -/

theorem offset_readName {name : String} (h : readName source start k = .ok (name, next)) :
    k.offset < next.offset := by
  rw [readName] at h
  split at h
  · cases h
  · next hrest =>
    split at h
    · next hc =>
      cases h
      exact Counter.offset_lt_skip hrest (isNameChar_of_isNameStart hc)
    · cases h

theorem offset_readLiteral? {quote : Char} {value : List Char}
    (h : readLiteral? source quote k = some (value, next)) : k.offset < next.offset := by
  fun_induction readLiteral? source quote k generalizing value with
  | case1 => cases h
  | case2 k last hlast =>
    cases h
    exact (Counter.offset_next? hlast).1
  | case3 => cases h
  | case4 k last d more hmore hlast _ ih =>
    obtain ⟨⟨v, n⟩, hv, heq⟩ := Option.map_eq_some_iff.1 h
    cases heq
    exact ((Counter.offset_next? hlast).1.trans (Counter.offset_next? hmore).1).trans (ih hv)
  | case5 k c last hlast _ _ ih =>
    obtain ⟨⟨v, n⟩, hv, heq⟩ := Option.map_eq_some_iff.1 h
    cases heq
    exact (Counter.offset_next? hlast).1.trans (ih hv)

theorem offset_readQuoted {value : String} (h : readQuoted source start k = .ok (value, next)) :
    k.offset < next.offset := by
  simp only [readQuoted] at h
  split at h
  · cases h
  · next hnext =>
    have hquote : k.offset < _ := (Counter.offset_next? hnext).1
    split at h
    · split at h
      · next hvalue =>
        cases h
        exact hquote.trans (offset_readLiteral? hvalue)
      · cases h
    · cases h

theorem offset_readAttribute {name value : String}
    (h : readAttribute source start k = .ok (name, value, next)) : k.offset < next.offset := by
  simp only [readAttribute] at h
  split at h
  · cases h
  · split at h
    · cases h
    · next sign hsign =>
      split at h
      · cases h
      · next hvalue =>
        cases h
        have h₁ := k.offset_le_skip source isAttributeChar
        have h₂ := (k.skip source isAttributeChar).offset_le_skip source isBlank
        have h₃ := Counter.offset_eatChar? hsign
        have h₄ := sign.offset_le_skip source isBlank
        have h₅ := offset_readQuoted hvalue
        omega

/-! ## Tags -/

/-- Reads the attributes of a tag and its end. -/
def readAttributes (source closing : List Char) (start : Position) (attrs : Attributes)
    (k : Counter) : Except Failure (TagShape × Attributes × Counter) :=
  let here := k.skip source isBlank
  if _hend : bytes source ≤ here.offset then .error (.parse .unterminatedTag (some start))
  else
    match here.eat? source closing with
    | some next => .ok (.block, attrs, next)
    | none =>
      match here.eatChar? source '/' with
      | some slash =>
        let behind := slash.skip source isBlank
        match behind.eat? source closing with
        | some next => .ok (.selfClosing, attrs, next)
        | none => .error (stuck source start .slash behind)
      | none =>
        match _h : readAttribute source start here with
        | .error failure => .error failure
        | .ok (name, value, next) =>
          readAttributes source closing start (attrs.set name value) next
termination_by bytes source - k.offset
decreasing_by
  have h₁ := offset_readAttribute _h
  have h₂ : k.offset ≤ here.offset := k.offset_le_skip source isBlank
  omega

/-- Reads what follows the opening delimiter at the byte `stop` in a closing tag
of the given name, and gives the byte behind that tag. -/
def closingEnd? (source : List Char) (d : Delimiters) (name : String) (stop : Nat) : Option Nat :=
  let rest := dropBytes (stop + bytes d.opening.toList) source
  (dropPrefix? ['/'] (rest.dropWhile isBlank)).bind fun rest =>
    (dropPrefix? name.toList (rest.dropWhile isBlank)).bind fun rest =>
      (dropPrefix? d.closing.toList (rest.dropWhile isBlank)).map fun rest =>
        bytes source - bytes rest

/-- Looks for the first closing tag of a verbatim body from a byte on. Gives the
byte that the closing tag starts at and the one behind it. -/
def findClosing? (source : List Char) (d : Delimiters) (name : String) (search : Nat) :
    Option (Nat × Nat) :=
  match _hb : breakOn d.opening.toList (dropBytes search source) with
  | none => none
  | some (before, _) =>
    let stop := search + bytes before
    match closingEnd? source d name stop with
    | some behind => some (stop, behind)
    | none =>
      -- an empty delimiter would be found here again and again
      if _ho : d.opening.toList = [] then none
      else findClosing? source d name (stop + bytes d.opening.toList)
termination_by bytes source - search
decreasing_by
  have hne : dropBytes search source ≠ [] := by
    rw [eq_of_breakOn _hb]
    simp [_ho]
  have h₁ := lt_bytes_of_dropBytes_ne_nil hne
  have h₂ := Nat.pos_of_ne_zero (mt bytes_eq_zero_iff.1 _ho)
  omega

/-- Reads a verbatim body and its closing tag. -/
def readVerbatim (source : List Char) (d : Delimiters) (name : String) (start : Position)
    (k : Counter) : Except Failure (Option Token × Counter) :=
  let (first, k) := k.position source
  match findClosing? source d name k.offset with
  | none => .error (.parse (.unclosedVerbatim name) (some start))
  | some (stop, behind) =>
    let body := takeBytes (stop - k.offset) (k.rest source)
    .ok (verbatimToken? name body first stop, (k.advanceTo source stop).advanceTo source behind)

/-- Reads what follows a closing tag's slash. -/
def readClosingTag (source : List Char) (d : Delimiters) (start : Position) (k : Counter) :
    Except Failure (Option Token × Counter) :=
  match readName source start (k.skip source isBlank) with
  | .error failure => .error failure
  | .ok (name, next) =>
    let here := next.skip source isBlank
    match here.eat? source d.closing.toList with
    | none => .error (stuck source start .closingTag here)
    | some next => .ok (some ⟨.closing name, ⟨start.offset, next.offset⟩, start⟩, next)

/-- Reads an opening or self-closing tag from its name on, and the whole body of
a verbatim tag. -/
def readOpeningTag (source : List Char) (d : Delimiters) (start : Position) (k : Counter) :
    Except Failure (Option Token × Counter) :=
  match readName source start k with
  | .error failure => .error failure
  | .ok (name, next) =>
    match readAttributes source d.closing.toList start .empty next with
    | .error failure => .error failure
    | .ok (shape, attrs, next) =>
      if name = rawTag ∨ name = commentTag then
        match shape with
        | .selfClosing => .ok (none, next)
        | .block => readVerbatim source d name start next
      else .ok (some ⟨.opening shape name attrs, ⟨start.offset, next.offset⟩, start⟩, next)

/-- Reads a tag from its opening delimiter on. -/
def readTag (source : List Char) (d : Delimiters) (k : Counter) :
    Except Failure (Option Token × Counter) :=
  let (start, k) := k.position source
  let here := (k.advanceTo source (k.offset + bytes d.opening.toList)).skip source isBlank
  match here.eatChar? source '/' with
  | some slash => readClosingTag source d start slash
  | none => readOpeningTag source d start here

theorem offset_readAttributes {closing : List Char} {attrs attrs' : Attributes} {shape : TagShape}
    (h : readAttributes source closing start attrs k = .ok (shape, attrs', next)) :
    k.offset ≤ next.offset := by
  fun_induction readAttributes source closing start attrs k with
  | case1 => cases h
  | case2 _ k here _ n hn =>
    cases h
    exact (k.offset_le_skip source isBlank).trans (Counter.offset_eat? hn)
  | case3 _ k here _ _ slash hslash behind n hn =>
    cases h
    have h₁ : k.offset ≤ here.offset := k.offset_le_skip source isBlank
    have h₂ := Counter.offset_eatChar? hslash
    have h₃ : slash.offset ≤ behind.offset := slash.offset_le_skip source isBlank
    have h₄ := Counter.offset_eat? hn
    omega
  | case4 => cases h
  | case5 => cases h
  | case6 _ k here _ _ _ name value n hn ih =>
    have h₁ : k.offset ≤ here.offset := k.offset_le_skip source isBlank
    have h₂ := offset_readAttribute hn
    exact h₁.trans (h₂.le.trans (ih h))

/-- A closing tag ends behind its opening delimiter. -/
theorem le_closingEnd? {d : Delimiters} {name : String} {stop behind : Nat}
    (h : closingEnd? source d name stop = some behind) : stop ≤ behind := by
  simp only [closingEnd?, Option.bind_eq_some_iff, Option.map_eq_some_iff,
    dropPrefix?_eq_some_iff] at h
  obtain ⟨slash, hslash, named, hnamed, rest, hrest, rfl⟩ := h
  have h₀ := bytes_dropBytes_le (stop + bytes d.opening.toList) source
  have h₁ := bytes_dropWhile_le isBlank (dropBytes (stop + bytes d.opening.toList) source)
  have h₂ := bytes_dropWhile_le isBlank slash
  have h₃ := bytes_dropWhile_le isBlank named
  have hpos := '/'.utf8Size_pos
  rw [hslash, List.singleton_append, bytes_cons] at h₁
  rw [hnamed, bytes_append] at h₂
  rw [hrest, bytes_append] at h₃
  omega

theorem le_findClosing? {d : Delimiters} {name : String} {search stop behind : Nat}
    (h : findClosing? source d name search = some (stop, behind)) : search ≤ behind := by
  fun_induction findClosing? source d name search with
  | case1 => cases h
  | case2 search before after hbreak place last hlast =>
    obtain ⟨-, rfl⟩ := Prod.mk.inj (Option.some.inj h)
    exact (Nat.le_add_right _ _).trans (le_closingEnd? hlast)
  | case3 => cases h
  | case4 search before after hbreak place hnone hopening ih =>
    have := ih h
    omega

theorem offset_readVerbatim {d : Delimiters} {name : String} {token : Option Token}
    (h : readVerbatim source d name start k = .ok (token, next)) : k.offset ≤ next.offset := by
  simp only [readVerbatim] at h
  split at h
  · cases h
  · next hclosing =>
    cases h
    exact le_findClosing? hclosing

theorem offset_readClosingTag {d : Delimiters} {token : Option Token}
    (h : readClosingTag source d start k = .ok (token, next)) : k.offset < next.offset := by
  simp only [readClosingTag] at h
  split at h
  · cases h
  · next name named hname =>
    split at h
    · cases h
    · next last hlast =>
      cases h
      have h₁ := k.offset_le_skip source isBlank
      have h₂ := offset_readName hname
      have h₃ := named.offset_le_skip source isBlank
      have h₄ := Counter.offset_eat? hlast
      omega

theorem offset_readOpeningTag {d : Delimiters} {token : Option Token}
    (h : readOpeningTag source d start k = .ok (token, next)) : k.offset < next.offset := by
  rw [readOpeningTag] at h
  split at h
  · cases h
  · next name named hname =>
    split at h
    · cases h
    · next shape attrs last hattrs =>
      have hread := (offset_readName hname).trans_le (offset_readAttributes hattrs)
      split at h
      · split at h
        · cases h
          exact hread
        · exact hread.trans_le (offset_readVerbatim h)
      · cases h
        exact hread

/-- **A tag takes at least its name away.** -/
theorem offset_readTag {d : Delimiters} {token : Option Token}
    (h : readTag source d k = .ok (token, next)) : k.offset < next.offset := by
  have hopened : k.offset ≤ k.offset + bytes d.opening.toList := Nat.le_add_right _ _
  have hinner := hopened.trans (((k.position source).2.advanceTo source
    (k.offset + bytes d.opening.toList)).offset_le_skip source isBlank)
  simp only [readTag] at h
  split at h
  · next slash hslash =>
    have hslashed := hinner.trans_lt (Counter.offset_eatChar? hslash)
    exact hslashed.trans (offset_readClosingTag h)
  · exact hinner.trans_lt (offset_readOpeningTag h)

/-! ## The whole source -/

/-- Reads on, with the text `pending` since `start` not yet made a token. -/
def readFrom (source : List Char) (d : Delimiters) (pending : List Char) (start : Position)
    (k : Counter) : Except Failure (List Token) :=
  if _hend : bytes source ≤ k.offset then .ok (textToken? pending start k.offset)
  else
    match _hb : breakOn d.opening.toList (k.rest source) with
    | none =>
      .ok (textToken? (pending ++ k.rest source) start (k.advanceTo source (bytes source)).offset)
    | some (before, _) =>
      let stop := k.offset + bytes before
      if _he : before.getLast? = some '\\' then
        -- the backslash goes, the delimiter stays as text
        readFrom source d (pending ++ before.dropLast ++ d.opening.toList) start
          (k.advanceTo source (stop + bytes d.opening.toList))
      else
        let here := k.advanceTo source stop
        match _ht : readTag source d here with
        | .error failure => .error failure
        | .ok (token, next) =>
          let asked := next.position source
          match readFrom source d [] asked.1 asked.2 with
          | .error failure => .error failure
          | .ok more =>
            .ok (textToken? (pending ++ before) start here.offset ++ token.toList ++ more)
termination_by bytes source - k.offset
decreasing_by
  · have hbefore : before ≠ [] := by
      rintro rfl
      cases _he
    have := Nat.pos_of_ne_zero (mt bytes_eq_zero_iff.1 hbefore)
    rw [Counter.offset_advanceTo]
    omega
  · have : here.offset < next.offset := offset_readTag _ht
    have : k.offset ≤ here.offset := Nat.le_add_right _ _
    have : (next.position source).2.offset = next.offset := Counter.offset_position source next
    omega

/-- What is left is cut at the first opening delimiter. -/
theorem readFrom_of_breakOn {d : Delimiters} {before after : List Char}
    (hend : ¬ bytes source ≤ k.offset)
    (hbreak : breakOn d.opening.toList (k.rest source) = some (before, after))
    (pending : List Char) (start : Position) :
    readFrom source d pending start k =
      if before.getLast? = some '\\' then
        readFrom source d (pending ++ before.dropLast ++ d.opening.toList) start
          (k.advanceTo source (k.offset + bytes before + bytes d.opening.toList))
      else
        let here := k.advanceTo source (k.offset + bytes before)
        match readTag source d here with
        | .error failure => .error failure
        | .ok (token, next) =>
          match readFrom source d [] (next.position source).1 (next.position source).2 with
          | .error failure => .error failure
          | .ok more =>
            .ok (textToken? (pending ++ before) start here.offset ++ token.toList ++ more) := by
  rw [readFrom, dif_neg hend, hbreak]
  by_cases hescape : before.getLast? = some '\\'
  · rw [if_pos hescape]
    exact dif_pos hescape
  · simp only [if_neg hescape, dif_neg hescape]
    cases readTag source d (k.advanceTo source (k.offset + bytes before)) <;> rfl

/-- The tokens of a source. -/
def read (d : Delimiters) (source : String) : Except Failure (List Token) :=
  let (first, k) := Counter.start.position source.toList
  readFrom source.toList d [] first k

end Counted

end Token

end PromptMarkup
