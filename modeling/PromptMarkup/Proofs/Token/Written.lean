import Mathlib.Data.List.Chain
import PromptMarkup.Proofs.Text.Escaped
import PromptMarkup.Proofs.Text.Numeral
import PromptMarkup.Proofs.Token.Joined
import PromptMarkup.Proofs.Token.Onward
/-!
# Token — pieces are read as they were written

A piece is written in one way (`Piece.written`): a delimiter in a text is
escaped, the values of a tag stand in double quotes, and a comment between
its two tags. Where each piece can be written (`Piece.Writable`) and no text
runs into what follows it (`Piece.Apart`), the source of a sequence of pieces
is read as these pieces again, each in the place where it was written
(`read_writtenAll`).

The reading goes piece by piece, and the text that was read last waits to be
made a token (`readFrom_written`).
-/

namespace PromptMarkup

open Text

/-! ## How pieces are written -/

/-- A tag with this content. -/
def Delimiters.around (d : Delimiters) (content : List Char) : List Char :=
  d.opening.toList ++ (content ++ d.closing.toList)

/-- What tells the shape of a tag at its end. -/
def TagShape.ending : TagShape → List Char
  | .selfClosing => [' ', '/']
  | .block => []

/-- The slash of a tag that is complete in itself. -/
def TagShape.slash : TagShape → List Char
  | .selfClosing => ['/']
  | .block => []

/-- A character between double quotes. -/
def Attributes.valueChar (c : Char) : List Char :=
  if c = '"' ∨ c = '\\' then ['\\', c] else [c]

/-- An attribute, behind a blank. -/
def Attributes.writtenEntry (entry : String × String) : List Char :=
  ' ' :: (entry.1.toList ++ '=' :: '"' :: (entry.2.toList.flatMap valueChar ++ ['"']))

/-- The attributes of a tag. -/
def Attributes.written (attrs : Attributes) : List Char :=
  attrs.entries.flatMap writtenEntry

namespace Piece

/-- The source of a piece. -/
def written (d : Delimiters) : Piece → List Char
  | .text body => escaped d.opening.toList body.toList
  | .comment body =>
    d.around Token.commentTag.toList ++
      (body.toList ++ d.around ('/' :: Token.commentTag.toList))
  | .opening shape name attrs => d.around (name.toList ++ attrs.written ++ shape.ending)
  | .closing name => d.around ('/' :: name.toList)

/-- The source of pieces one after another. -/
def writtenAll (d : Delimiters) (pieces : List Piece) : List Char :=
  pieces.flatMap (written d)

/-- The token of a piece that is written at a position. A comment has the place
of its body. -/
def token (d : Delimiters) (p : Position) : Piece → Token
  | .comment body =>
    let inner := p.advanceBy (d.around Token.commentTag.toList)
    ⟨.comment body, ⟨inner.offset, (inner.advanceBy body.toList).offset⟩, inner⟩
  | piece => ⟨piece, ⟨p.offset, (p.advanceBy (piece.written d)).offset⟩, p⟩

/-- The tokens of pieces that are written one after another from a position
on. -/
def tokens (d : Delimiters) (p : Position) : List Piece → List Token
  | [] => []
  | piece :: rest => piece.token d p :: tokens d (p.advanceBy (piece.written d)) rest

@[simp] theorem piece_token (d : Delimiters) (p : Position) (piece : Piece) :
    (piece.token d p).piece = piece := by
  cases piece <;> rfl

theorem map_piece_tokens (d : Delimiters) (p : Position) (pieces : List Piece) :
    (tokens d p pieces).map Token.piece = pieces := by
  induction pieces generalizing p with
  | nil => rfl
  | cons piece rest ih => rw [tokens, List.map_cons, piece_token, ih]

end Piece

/-! ## What can be written -/

namespace Token

/-- The name of a tag: a letter or an underscore, and characters of names. -/
def isTagName (name : String) : Bool :=
  match name.toList with
  | [] => false
  | first :: rest => isNameStart first && rest.all isNameChar

/-- The name of an attribute. -/
def isAttributeName (name : String) : Bool :=
  !name.toList.isEmpty && name.toList.all isAttributeChar

/-- A closing tag of this name stands in the text. -/
def Closes (d : Delimiters) (name : String) (t : List Char) : Prop :=
  ∃ u z v, t = u ++ (d.opening.toList ++ (z ++ v)) ∧ IsClosing d.closing.toList name.toList z

/-- There is a slash in every closing tag. -/
theorem not_closes_of_notMem {d : Delimiters} {name : String} {t : List Char} (h : '/' ∉ t) :
    ¬ Closes d name t := by
  rintro ⟨u, _, v, rfl, before, within, after, -, rfl⟩
  exact h (by simp)

end Token

/-- The attributes have names that can be read, and each of them once. -/
structure Attributes.Writable (attrs : Attributes) : Prop where
  names : ∀ entry ∈ attrs.entries, Token.isAttributeName entry.1 = true
  distinct : (attrs.entries.map Prod.fst).Nodup

namespace Piece

/-- The source of the piece is read as this piece. -/
def Writable (d : Delimiters) : Piece → Prop
  | .text body => body ≠ ""
  | .comment body => ¬ Token.Closes d Token.commentTag body.toList
  | .opening _ name attrs =>
    Token.isTagName name = true ∧ name ≠ Token.rawTag ∧ name ≠ Token.commentTag ∧ attrs.Writable
  | .closing name => Token.isTagName name = true

/-- The first piece does not run into the second: two texts would be one, and
a backslash at the end of a text would escape the delimiter of a tag. -/
def Apart : Piece → Piece → Prop
  | .text _, .text _ => False
  | .text body, _ => body.toList.getLast? ≠ some '\\'
  | _, _ => True

end Piece

/-! ## Names and values -/

namespace Attributes

/-- A new name goes to the end. -/
theorem put_of_notMem {name value : String} {entries : List (String × String)}
    (h : name ∉ entries.map Prod.fst) : put name value entries = entries ++ [(name, value)] := by
  induction entries with
  | nil => rfl
  | cons entry rest ih =>
    obtain ⟨k, v⟩ := entry
    rw [List.map_cons, List.mem_cons, not_or] at h
    rw [put, if_neg (Ne.symm h.1), ih h.2, List.cons_append]

/-- Attributes of different names are the list they are set from. -/
theorem foldl_set {pairs : List (String × String)} {attrs : Attributes}
    (h : ((attrs.entries ++ pairs).map Prod.fst).Nodup) :
    pairs.foldl (fun a pair => a.set pair.1 pair.2) attrs = ⟨attrs.entries ++ pairs⟩ := by
  induction pairs generalizing attrs with
  | nil => simp
  | cons pair rest ih =>
    rw [List.map_append, List.map_cons] at h
    have hnew : pair.1 ∉ attrs.entries.map Prod.fst := fun hmem =>
      (List.nodup_append.1 h).2.2 _ hmem _ List.mem_cons_self rfl
    have hset : attrs.set pair.1 pair.2 = ⟨attrs.entries ++ [pair]⟩ := by
      rw [set, put_of_notMem hnew]
    rw [List.foldl_cons, hset, ih (by simpa using h)]
    simp

theorem Writable.ofPairs_entries {attrs : Attributes} (h : attrs.Writable) :
    ofPairs attrs.entries = attrs :=
  @foldl_set attrs.entries .empty h.distinct

end Attributes

namespace Cursor

variable {c : Cursor}

/-- There is nothing to skip before another character. -/
theorem skipBlanks_eq {a : Char} {rest : List Char} (hrest : c.rest = a :: rest)
    (ha : isBlank a = false) : c.skipBlanks = c := by
  have hhead : ∀ x ∈ c.rest.head?, isBlank x = false := by
    rw [hrest]
    rintro _ ⟨⟩
    exact ha
  rw [skipBlanks, run_eq (List.nil_append c.rest).symm (List.forall_mem_nil _) hhead]
  rfl

/-- A single blank is skipped. -/
theorem skipBlanks_blank {a : Char} {rest : List Char} (hrest : c.rest = ' ' :: a :: rest)
    (ha : isBlank a = false) : c.skipBlanks = c.past [' '] (a :: rest) := by
  have hhead : ∀ x ∈ (a :: rest).head?, isBlank x = false := by
    rintro _ ⟨⟩
    exact ha
  have hblank : ∀ x ∈ [' '], isBlank x = true := List.forall_mem_singleton.2 (by decide)
  rw [skipBlanks, @run_eq c _ [' '] (a :: rest) hrest hblank hhead]

theorem eat?_of_rest {text rest : List Char} (h : c.rest = text ++ rest) :
    c.eat? text = some (c.past text rest) :=
  eat?_eq_some_iff.2 ⟨h, rfl⟩

theorem eat?_of_ne {a b : Char} {rest : List Char} (hrest : c.rest = b :: rest) (hne : a ≠ b)
    (text : List Char) : c.eat? (a :: text) = none := by
  rw [eat?, hrest, dropPrefix?, if_neg hne]
  rfl

end Cursor

namespace Token

variable {c : Cursor} {name : String} {w : List Char}

theorem isAttributeChar_of_isNameChar {a : Char} (h : isNameChar a = true) :
    isAttributeChar a = true := by
  simp [isAttributeChar, h]

/-- No character of a name is white space. -/
theorem isBlank_of_isAttributeChar {a : Char} (h : isAttributeChar a = true) :
    isBlank a = false := by
  simp only [isAttributeChar, isNameChar, Bool.or_eq_true, decide_eq_true_eq] at h
  rcases h with (((h | rfl) | rfl) | rfl) | rfl
  · exact isBlank_of_isAlphanum h
  all_goals decide

theorem of_isTagName (h : isTagName name = true) :
    ∃ first rest, name.toList = first :: rest ∧ isNameStart first = true ∧
      ∀ a ∈ name.toList, isNameChar a = true := by
  rw [isTagName] at h
  split at h
  · cases h
  · next first rest heq =>
    simp only [Bool.and_eq_true, List.all_eq_true] at h
    refine ⟨first, rest, heq, h.1, ?_⟩
    rw [heq]
    exact List.forall_mem_cons.2 ⟨isNameChar_of_isNameStart h.1, h.2⟩

theorem of_isAttributeName (h : isAttributeName name = true) :
    ∃ first rest, name.toList = first :: rest ∧ ∀ a ∈ name.toList, isAttributeChar a = true := by
  rw [isAttributeName, Bool.and_eq_true, List.all_eq_true] at h
  obtain ⟨hne, hchars⟩ := h
  cases heq : name.toList with
  | nil => simp [heq] at hne
  | cons first rest => exact ⟨first, rest, rfl, heq ▸ hchars⟩

/-- **A name is read** up to the first character of another kind. -/
theorem readName_written (hname : isTagName name = true) (hrest : c.rest = name.toList ++ w)
    (hend : ∀ a ∈ w.head?, isNameChar a = false) (start : Position) :
    readName start c = .ok (name, c.past name.toList w) := by
  obtain ⟨first, rest, heq, hfirst, hchars⟩ := of_isTagName hname
  have hrun := Cursor.run_eq hrest hchars hend
  rw [heq, List.cons_append] at hrest
  simp only [readName, hrest, hfirst, if_true, hrun, String.ofList_toList]

/-- **A quoted value is read** as what was written, if a backslash before a quote
or a backslash stands for these. -/
theorem readLiteral?_written {unescape : Char → List Char} (hquote : unescape '"' = ['"'])
    (hslash : unescape '\\' = ['\\']) (value : List Char) (p : Position) (w : List Char) :
    ∃ next, next.rest = w ∧
      readLiteral? unescape '"' p (value.flatMap Attributes.valueChar ++ '"' :: w) =
        some (value, next) := by
  induction value generalizing p with
  | nil => exact ⟨_, rfl, readLiteral?_quote _ _ _ _⟩
  | cons a value ih =>
    rw [List.flatMap_cons, Attributes.valueChar]
    split
    · next hescape =>
      obtain ⟨next, hrest, hread⟩ := ih ((p.advance '\\').advance a)
      refine ⟨next, hrest, ?_⟩
      simp only [List.cons_append, List.nil_append]
      rw [readLiteral?_escape (by decide), hread]
      obtain rfl | rfl := hescape
      · rw [hquote]
        rfl
      · rw [hslash]
        rfl
    · next hplain =>
      obtain ⟨next, hrest, hread⟩ := ih (p.advance a)
      refine ⟨next, hrest, ?_⟩
      simp only [List.cons_append, List.nil_append]
      rw [readLiteral?_plain (fun h => hplain (.inl h)) (fun h => hplain (.inr h)), hread]
      rfl

theorem readQuoted_written {value : String}
    (hrest : c.rest = '"' :: (value.toList.flatMap Attributes.valueChar ++ '"' :: w))
    (start : Position) :
    ∃ next, next.rest = w ∧ readQuoted start c = .ok (value, next) := by
  obtain ⟨next, hnext, hread⟩ :=
    @readLiteral?_written unescape rfl rfl value.toList (c.position.advance '"') w
  refine ⟨next, hnext, ?_⟩
  simp only [readQuoted, hrest, true_or, if_true, hread, String.ofList_toList]

/-- **An attribute is read** from behind its blank. -/
theorem readAttribute_written {entry : String × String} (hname : isAttributeName entry.1 = true)
    (hrest : ' ' :: c.rest = Attributes.writtenEntry entry ++ w) (start : Position) :
    ∃ next, next.rest = w ∧ readAttribute start c = .ok (entry.1, entry.2, next) := by
  obtain ⟨name, value⟩ := entry
  obtain ⟨first, rest, hfirst, hchars⟩ := of_isAttributeName hname
  simp only [Attributes.writtenEntry, List.cons_append, List.append_assoc, List.nil_append,
    List.cons.injEq, true_and] at hrest
  generalize hquoted : '"' :: (value.toList.flatMap Attributes.valueChar ++ '"' :: w) = quoted
    at hrest
  have hsign : ∀ a ∈ ('=' :: quoted).head?, isAttributeChar a = false := by
    rintro _ ⟨⟩
    decide
  obtain ⟨next, hnext, hread⟩ :=
    @readQuoted_written ((c.past name.toList ('=' :: quoted)).past ['='] quoted) w value
      hquoted.symm start
  refine ⟨next, hnext, ?_⟩
  simp only [readAttribute, Cursor.run_eq hrest hchars hsign]
  rw [Cursor.skipBlanks_eq rfl (by decide), Cursor.eat?_of_rest rfl]
  dsimp only
  rw [Cursor.skipBlanks_eq hquoted.symm (by decide), hread]
  have hne : name.toList.isEmpty = false := by rw [hfirst]; rfl
  simp only [hne, Bool.false_eq_true, if_false, String.ofList_toList]

theorem closing_standard : Delimiters.standard.closing.toList = ['~', '\x7d'] := rfl

theorem opening_standard : Delimiters.standard.opening.toList = ['\x7b', '~'] := rfl

/-- An attribute that is read is set, and the reading goes on. -/
theorem readAttributes_of_attribute {closing : List Char} {start : Position} {next : Cursor}
    {value : String} (hclosing : c.skipBlanks.eat? closing = none)
    (hslash : c.skipBlanks.eat? ['/'] = none)
    (hread : readAttribute start c.skipBlanks = .ok (name, value, next)) (attrs : Attributes) :
    readAttributes closing start attrs c =
      readAttributes closing start (attrs.set name value) next := by
  have hne : c.skipBlanks.rest.isEmpty = false := by
    rw [List.isEmpty_eq_false_iff, ← List.length_pos_iff]
    exact Nat.zero_lt_of_lt (readAttribute_length hread)
  rw [readAttributes]
  simp only [hne, hclosing, hslash, Bool.false_eq_true, if_false]
  split
  · next heq => rw [hread] at heq; cases heq
  · next heq => rw [hread] at heq; cases heq; rfl

/-- **The end of a tag tells its shape**, behind white space or not, if the closing
delimiter begins with neither white space nor a slash. -/
theorem readAttributes_ending {a : Char} {blanks closing : List Char} {shape : TagShape}
    (ha : isBlank a = false) (hslash : a ≠ '/') (hblanks : ∀ x ∈ blanks, isBlank x = true)
    (hrest : c.rest = blanks ++ (shape.slash ++ (a :: closing ++ w))) (start : Position)
    (attrs : Attributes) :
    readAttributes (a :: closing) start attrs c =
      .ok (shape, attrs, c.past (blanks ++ (shape.slash ++ a :: closing)) w) := by
  have hhead : ∀ x ∈ (shape.slash ++ (a :: closing ++ w)).head?, isBlank x = false := by
    cases shape <;> rintro _ ⟨⟩
    · decide
    · exact ha
  have hskip : c.skipBlanks = c.past blanks (shape.slash ++ (a :: closing ++ w)) := by
    rw [Cursor.skipBlanks, Cursor.run_eq hrest hblanks hhead]
  cases shape with
  | block =>
    have hend : c.skipBlanks.eat? (a :: closing) = some (c.past (blanks ++ a :: closing) w) := by
      rw [hskip, Cursor.eat?_of_rest rfl, Cursor.past_past]
    rw [readAttributes, hend, hskip]
    rfl
  | selfClosing =>
    let slash := c.past (blanks ++ ['/']) (a :: closing ++ w)
    have hopen : c.skipBlanks.eat? (a :: closing) = none := by
      rw [hskip]
      exact Cursor.eat?_of_ne rfl hslash _
    have heat : c.skipBlanks.eat? ['/'] = some slash := by
      rw [hskip, Cursor.eat?_of_rest rfl, Cursor.past_past]
    have hend : slash.skipBlanks.eat? (a :: closing) = some (slash.past (a :: closing) w) := by
      rw [Cursor.skipBlanks_eq rfl ha, Cursor.eat?_of_rest rfl]
    rw [readAttributes, hopen, heat]
    simp only [hend, slash, Cursor.past_past, List.append_assoc]
    rw [hskip]
    rfl

/-- **The attributes of a tag are read** one after another, and then its shape. -/
theorem readAttributes_written {entries : List (String × String)} {shape : TagShape}
    (hnames : ∀ entry ∈ entries, isAttributeName entry.1 = true)
    (hrest : c.rest = entries.flatMap Attributes.writtenEntry ++
      (shape.ending ++ (Delimiters.standard.closing.toList ++ w)))
    (start : Position) (attrs : Attributes) :
    ∃ next, next.rest = w ∧
      readAttributes Delimiters.standard.closing.toList start attrs c =
        .ok (shape, entries.foldl (fun a entry => a.set entry.1 entry.2) attrs, next) := by
  induction entries generalizing c attrs with
  | nil =>
    rw [closing_standard] at hrest ⊢
    cases shape with
    | block =>
      exact ⟨_, rfl, readAttributes_ending (by decide) (by decide) (List.forall_mem_nil _) hrest
        start attrs⟩
    | selfClosing =>
      have hblank : ∀ x ∈ [' '], isBlank x = true := List.forall_mem_singleton.2 (by decide)
      exact ⟨_, rfl, readAttributes_ending (by decide) (by decide) hblank hrest start attrs⟩
  | cons entry rest ih =>
    obtain ⟨hname, hnames⟩ := List.forall_mem_cons.1 hnames
    obtain ⟨first, more, hfirst, hchars⟩ := of_isAttributeName hname
    have hchar := hchars first (by simp [hfirst])
    generalize hw : rest.flatMap Attributes.writtenEntry ++
      (shape.ending ++ (Delimiters.standard.closing.toList ++ w)) = behind
    rw [List.flatMap_cons, List.append_assoc, hw] at hrest
    obtain ⟨tail, htail⟩ : ∃ tail, Attributes.writtenEntry entry ++ behind = ' ' :: first :: tail :=
      ⟨_, by rw [Attributes.writtenEntry, hfirst]; rfl⟩
    rw [htail] at hrest
    -- the blank ends the name or the value before it
    have hskip := Cursor.skipBlanks_blank hrest (isBlank_of_isAttributeChar hchar)
    have hapart : ∀ a, isAttributeChar a = false → a ≠ first := by
      rintro a ha rfl
      rw [hchar] at ha
      cases ha
    obtain ⟨next, hnext, hread⟩ := @readAttribute_written (c.past [' '] (first :: tail)) behind
      entry hname htail.symm start
    obtain ⟨last, hlast, hmore⟩ := ih hnames (hnext.trans hw.symm) (attrs.set entry.1 entry.2)
    refine ⟨last, hlast, ?_⟩
    rw [← hskip] at hread
    rw [readAttributes_of_attribute _ _ hread, hmore, List.foldl_cons]
    · rw [hskip, closing_standard]
      exact Cursor.eat?_of_ne rfl (hapart _ (by decide)) _
    · rw [hskip]
      exact Cursor.eat?_of_ne rfl (hapart _ (by decide)) _

/-! ## Tags -/

/-- The first character of a tag's name is neither white space nor a slash. -/
theorem first_of_isTagName {first : Char} {rest : List Char} (h : isTagName name = true)
    (hfirst : name.toList = first :: rest) : isBlank first = false ∧ '/' ≠ first := by
  obtain ⟨_, _, _, _, hchars⟩ := of_isTagName h
  have hchar := hchars first (by simp [hfirst])
  refine ⟨isBlank_of_isAttributeChar (isAttributeChar_of_isNameChar hchar), ?_⟩
  rintro rfl
  revert hchar
  decide

/-- **A closing tag is read.** -/
theorem readTag_closing (hname : isTagName name = true)
    (hrest : c.rest = '/' :: (name.toList ++ (Delimiters.standard.closing.toList ++ w)))
    (start : Position) :
    ∃ next, next.rest = w ∧ readTag .standard start c =
      .ok (some ⟨.closing name, ⟨start.offset, next.offset⟩, start⟩, next) := by
  obtain ⟨first, rest, hfirst, -, -⟩ := of_isTagName hname
  let slash := c.past ['/'] (name.toList ++ (Delimiters.standard.closing.toList ++ w))
  let named := slash.past name.toList (Delimiters.standard.closing.toList ++ w)
  have hslash : c.skipBlanks.eat? ['/'] = some slash := by
    rw [Cursor.skipBlanks_eq hrest (by decide)]
    exact Cursor.eat?_of_rest hrest
  have hbegin : slash.rest = first :: (rest ++ (Delimiters.standard.closing.toList ++ w)) := by
    rw [← List.cons_append, ← hfirst]
    rfl
  have hskip : slash.skipBlanks = slash :=
    Cursor.skipBlanks_eq hbegin (first_of_isTagName hname hfirst).1
  have hnamed : readName start slash = .ok (name, named) :=
    readName_written hname rfl (by rintro _ ⟨⟩; decide) start
  have hend : named.skipBlanks.eat? Delimiters.standard.closing.toList =
      some (named.past Delimiters.standard.closing.toList w) := by
    rw [Cursor.skipBlanks_eq (a := '~') rfl (by decide), Cursor.eat?_of_rest rfl]
  refine ⟨named.past Delimiters.standard.closing.toList w, rfl, ?_⟩
  simp only [readTag, hslash, readClosingTag, hskip, hnamed, hend]

/-- What stands behind the name of a tag ends it. -/
theorem behind_name (attrs : Attributes) (shape : TagShape) (w : List Char) :
    ∀ a ∈ (attrs.written ++ (shape.ending ++ (Delimiters.standard.closing.toList ++ w))).head?,
      isNameChar a = false := by
  obtain ⟨entries⟩ := attrs
  cases entries with
  | nil =>
    cases shape <;> rintro _ ⟨⟩ <;> decide
  | cons entry rest =>
    rintro _ ⟨⟩
    decide

/-- **An opening tag is read**, up to what its name asks for. -/
theorem readTag_opening {attrs : Attributes} {shape : TagShape} (hname : isTagName name = true)
    (hattrs : attrs.Writable)
    (hrest : c.rest = name.toList ++ (attrs.written ++
      (shape.ending ++ (Delimiters.standard.closing.toList ++ w))))
    (start : Position) :
    ∃ named next, next.rest = w ∧ readName start c = .ok (name, named) ∧
      readAttributes Delimiters.standard.closing.toList start .empty named =
        .ok (shape, attrs, next) ∧
      readTag .standard start c = readOpeningTag .standard start c := by
  obtain ⟨first, rest, hfirst, -, -⟩ := of_isTagName hname
  obtain ⟨hblank, hslash⟩ := first_of_isTagName hname hfirst
  have hnamed := readName_written hname hrest (behind_name attrs shape w) start
  obtain ⟨next, hnext, hread⟩ := readAttributes_written
    (c := c.past name.toList (attrs.written ++
      (shape.ending ++ (Delimiters.standard.closing.toList ++ w)))) hattrs.names rfl start .empty
  have hall := hattrs.ofPairs_entries
  rw [Attributes.ofPairs] at hall
  rw [hall] at hread
  refine ⟨_, next, hnext, hnamed, hread, ?_⟩
  rw [hfirst, List.cons_append] at hrest
  rw [readTag, Cursor.skipBlanks_eq hrest hblank, Cursor.eat?_of_ne hrest hslash]

/-- Where its body is not taken verbatim the tag is a token. -/
theorem readTag_tag {attrs : Attributes} {shape : TagShape}
    (h : (Piece.opening shape name attrs).Writable .standard)
    (hrest : c.rest = name.toList ++ (attrs.written ++
      (shape.ending ++ (Delimiters.standard.closing.toList ++ w))))
    (start : Position) :
    ∃ next, next.rest = w ∧ readTag .standard start c =
      .ok (some ⟨.opening shape name attrs, ⟨start.offset, next.offset⟩, start⟩, next) := by
  obtain ⟨hname, hraw, hcomment, hattrs⟩ := h
  obtain ⟨named, next, hnext, hnamed, hread, htag⟩ := readTag_opening hname hattrs hrest start
  refine ⟨next, hnext, ?_⟩
  simp only [htag, readOpeningTag, hnamed, hread, hraw, hcomment, or_self, if_false]

/-! ## Comments -/

/-- No closing tag begins in a text without one and ends behind it, where a
delimiter follows. -/
theorem readClosing?_eq_none (hname : name = rawTag ∨ name = commentTag) {t : List Char}
    (ht : ∀ z v, IsClosing Delimiters.standard.closing.toList name.toList z → t ≠ z ++ v)
    (hrest : c.rest = t ++ (Delimiters.standard.opening.toList ++ w)) :
    readClosing? Delimiters.standard.closing.toList name c = none := by
  obtain ⟨⟨rest, hp⟩, hchars⟩ := verbatim_name hname
  rw [Option.eq_none_iff_forall_ne_some]
  intro next hread
  rw [closing_standard, readClosing?_eq_some_iff hp (by decide) (by decide), ← closing_standard]
    at hread
  obtain ⟨z, hz, hsplit, -⟩ := hread
  rw [hrest] at hsplit
  have hbrace : '\x7b' ∉ z := by
    refine hz.notMem (by decide) (fun hmem => ?_) (by decide) (by decide)
    have := hchars _ hmem
    revert this
    decide
  obtain ⟨beyond, rfl, hbeyond⟩ | ⟨v, rfl, -⟩ := List.append_eq_append_iff.1 hsplit
  · rw [opening_standard] at hbeyond
    cases beyond with
    | nil => exact ht _ [] hz (by rw [List.append_nil, List.append_nil])
    | cons a beyond =>
      obtain ⟨rfl, -⟩ := List.cons.inj hbeyond
      exact hbrace (List.mem_append_right _ List.mem_cons_self)
  · exact ht z v hz rfl

/-- Behind a delimiter in a text without closing tags there is none either. -/
theorem not_closes_of_breakOn {d : Delimiters} {body before after : List Char}
    (hbody : ¬ Closes d name body)
    (hbreak : breakOn d.opening.toList body = some (before, after)) :
    (∀ z v, IsClosing d.closing.toList name.toList z → after ≠ z ++ v) ∧
      ¬ Closes d name after := by
  have heq := eq_of_breakOn hbreak
  constructor
  · rintro z v hz rfl
    exact hbody ⟨before, z, v, by rw [heq, List.append_assoc], hz⟩
  · rintro ⟨u, z, v, rfl, hz⟩
    exact hbody ⟨before ++ d.opening.toList ++ u, z, v, by rw [heq, List.append_assoc _ u], hz⟩

/-- **A verbatim body is read** up to the closing tag that was written behind
it. -/
theorem readVerbatim?_written (hname : name = rawTag ∨ name = commentTag) {body : List Char}
    (hbody : ¬ Closes .standard name body)
    (hrest : c.rest = body ++ (Delimiters.standard.opening.toList ++
      ('/' :: (name.toList ++ (Delimiters.standard.closing.toList ++ w))))) :
    ∃ stop next, next.rest = w ∧ readVerbatim? .standard name c = some (body, stop, next) := by
  obtain ⟨⟨rest, hp⟩, -⟩ := verbatim_name hname
  have hopening : Delimiters.standard.opening.toList ≠ [] := by decide
  generalize hbehind : '/' :: (name.toList ++ (Delimiters.standard.closing.toList ++ w)) = behind
    at hrest
  induction hlength : body.length using Nat.strong_induction_on generalizing body c with
  | _ length ih =>
    cases hbreak : breakOn Delimiters.standard.opening.toList body with
    | none =>
      have hclear : Clear Delimiters.standard.opening.toList body
          (Delimiters.standard.opening.toList ++ behind) := by
        refine clear_pair hbreak fun _ hhead => ?_
        rw [opening_standard] at hhead
        cases hhead
      have hbreak' := breakOn_append_of_clear hclear
      rw [breakOn_sep_append hopening, ← hrest, Option.map_some] at hbreak'
      dsimp only at hbreak'
      rw [List.append_nil] at hbreak'
      have hclosing : readClosing? Delimiters.standard.closing.toList name
          (c.past (body ++ Delimiters.standard.opening.toList) behind) =
            some ((c.past (body ++ Delimiters.standard.opening.toList) behind).past
              ('/' :: (name.toList ++ Delimiters.standard.closing.toList)) w) := by
        rw [closing_standard, readClosing?_eq_some_iff hp (by decide) (by decide)]
        refine ⟨_, ⟨[], [], [], List.forall_mem_nil _, rfl⟩, ?_, rfl⟩
        simp [Cursor.past, ← hbehind, closing_standard]
      exact ⟨_, _, rfl, readVerbatim?_of_closing hbreak' hclosing⟩
    | some cut =>
      obtain ⟨before, after⟩ := cut
      obtain ⟨hnone, hafter⟩ := not_closes_of_breakOn hbody hbreak
      have hbreak' := breakOn_append hbreak (Delimiters.standard.opening.toList ++ behind)
      have hless := length_of_breakOn hbreak
      have hpos := List.length_pos_iff.2 hopening
      rw [← hrest] at hbreak'
      obtain ⟨stop, next, hnext, hread⟩ := ih after.length (by omega)
        (c := c.past (before ++ Delimiters.standard.opening.toList)
          (after ++ (Delimiters.standard.opening.toList ++ behind))) hafter rfl rfl
      refine ⟨stop, next, hnext, ?_⟩
      rw [readVerbatim?_of_none hopening hbreak' (readClosing?_eq_none hname hnone rfl) hread,
        ← eq_of_breakOn hbreak]

/-- **A comment is read**, and its body stands behind its opening tag. -/
theorem readTag_comment {body : String} (h : (Piece.comment body).Writable .standard)
    (hrest : c.rest = commentTag.toList ++ (Delimiters.standard.closing.toList ++
      (body.toList ++ (Delimiters.standard.opening.toList ++
        ('/' :: (commentTag.toList ++ (Delimiters.standard.closing.toList ++ w)))))))
    (start : Position) :
    ∃ inner next, inner = c.position.advanceBy
        (commentTag.toList ++ Delimiters.standard.closing.toList) ∧ next.rest = w ∧
      readTag .standard start c = .ok (some ⟨.comment body,
        ⟨inner.offset, (inner.advanceBy body.toList).offset⟩, inner⟩, next) := by
  obtain ⟨named, opened, hopened, hnamed, hread, htag⟩ :=
    @readTag_opening c commentTag _ ⟨[]⟩ .block (by decide)
      ⟨List.forall_mem_nil _, List.nodup_nil⟩ hrest start
  have honward := (onward_readName hnamed).trans (onward_readAttributes hread)
  have htext : c.rest =
      (commentTag.toList ++ Delimiters.standard.closing.toList) ++ opened.rest := by
    rw [hrest, hopened, List.append_assoc]
  have hposition := congrArg Cursor.position (honward.eq_past htext)
  obtain ⟨stop, next, hnext, hbody⟩ := readVerbatim?_written (.inr rfl) h hopened
  obtain ⟨-, -, rfl, -⟩ := readVerbatim?_stop hbody
  refine ⟨opened.position, next, hposition, hnext, ?_⟩
  simp only [htag, readOpeningTag, hnamed, hread, hbody, or_true, if_true, verbatimToken?,
    String.ofList_toList]

/-! ## Sources -/

/-- **An escaped text waits** as what it was before. -/
theorem readFrom_escaped {d : Delimiters} (hopening : d.opening.toList ≠ [])
    (hslash : '\\' ∉ d.opening.toList) {t : List Char}
    (hrest : c.rest = escaped d.opening.toList t ++ w) (hseam : d.Unjoined t w)
    (pending : List Char) (start : Position) :
    readFrom d pending start c =
      readFrom d (pending ++ t) start (c.past (escaped d.opening.toList t) w) := by
  induction hlength : t.length using Nat.strong_induction_on generalizing t c pending with
  | _ length ih =>
    cases hbreak : breakOn d.opening.toList t with
    | none =>
      rw [escaped_of_none hbreak] at hrest ⊢
      exact readFrom_text hopening hrest (hseam.clear t List.suffix_rfl hbreak) hseam.plain _ _
    | some cut =>
      obtain ⟨before, after⟩ := cut
      have heq := eq_of_breakOn hbreak
      have hless := length_of_breakOn hbreak
      have hpos := List.length_pos_iff.2 hopening
      rw [escaped_of_some hopening hbreak] at hrest ⊢
      simp only [List.append_assoc, List.cons_append] at hrest
      have hbreak' := breakOn_escape hopening hslash hbreak (escaped d.opening.toList after ++ w)
      rw [← hrest] at hbreak'
      rw [readFrom_escape hopening hbreak' (List.getLast?_concat),
        ih after.length (by omega) (by rfl) (hseam.suffix (heq ▸ List.suffix_append _ _)) _ rfl,
        List.dropLast_concat, Cursor.past_past, heq]
      simp

/-- **A piece that is no text is read** from behind its first delimiter. -/
theorem readTag_written {p : Piece} (h : p.Writable .standard)
    (htext : ∀ body, p ≠ .text body) :
    ∃ content, p.written .standard = Delimiters.standard.opening.toList ++ content ∧
      ∀ (c : Cursor) (w : List Char) (start : Position),
        c.position = start.advanceBy Delimiters.standard.opening.toList → c.rest = content ++ w →
        readTag .standard start c = .ok (some (p.token .standard start), c.past content w) := by
  have hspan : ∀ {c : Cursor} {content w : List Char} {start : Position},
      c.position = start.advanceBy Delimiters.standard.opening.toList →
      (c.past content w).offset =
        (start.advanceBy (Delimiters.standard.opening.toList ++ content)).offset := by
    intro c content w start hposition
    rw [Position.advanceBy_append, ← hposition]
    rfl
  cases p with
  | text body => exact absurd rfl (htext body)
  | comment body =>
    refine ⟨_, List.append_assoc _ _ _, fun c w start hposition hrest => ?_⟩
    obtain ⟨inner, next, hinner, hnext, hread⟩ :=
      readTag_comment (w := w) h (by simpa [Delimiters.around] using hrest) start
    have heq := eq_past_of_readTag hread hnext hrest
    rw [hposition, ← Position.advanceBy_append] at hinner
    subst heq hinner
    exact hread
  | opening shape name attrs =>
    refine ⟨_, rfl, fun c w start hposition hrest => ?_⟩
    obtain ⟨next, hnext, hread⟩ := readTag_tag (w := w) h (by simpa using hrest) start
    have heq := eq_past_of_readTag hread hnext hrest
    subst heq
    rw [hread, hspan hposition]
    rfl
  | closing name =>
    refine ⟨_, rfl, fun c w start hposition hrest => ?_⟩
    obtain ⟨next, hnext, hread⟩ := readTag_closing (w := w) h (by simpa using hrest) start
    have heq := eq_past_of_readTag hread hnext hrest
    subst heq
    rw [hread, hspan hposition]
    rfl

/-- A text does not run into what is written behind it. -/
theorem unjoined_writtenAll {body : String} {rest : List Piece}
    (h : (Piece.text body :: rest).IsChain Piece.Apart) :
    Delimiters.standard.Unjoined body.toList (Piece.writtenAll .standard rest) ∧
      ∀ more, rest.head? ≠ some (.text more) := by
  cases rest with
  | nil => exact ⟨Delimiters.unjoined_nil (by decide) _, by rintro _ ⟨⟩⟩
  | cons q rest =>
    have happart := (List.isChain_cons_cons.1 h).1
    obtain ⟨content, hwritten⟩ : (∃ content, q.written .standard =
        Delimiters.standard.opening.toList ++ content) := by
      cases q with
      | text more => exact happart.elim
      | comment more => exact ⟨_, List.append_assoc _ _ _⟩
      | _ => exact ⟨_, rfl⟩
    constructor
    · rw [Piece.writtenAll, List.flatMap_cons, hwritten, opening_standard]
      refine Delimiters.unjoined_standard (fun hlast => ?_) (by rintro ⟨-, ⟨⟩⟩)
      cases q with
      | text more => exact happart.elim
      | _ => exact happart hlast.1
    · rintro more ⟨⟩
      exact happart.elim

/-- **Pieces are read one after another**, behind the text that waits. -/
theorem readFrom_written {pieces : List Piece} (hpieces : ∀ p ∈ pieces, p.Writable .standard)
    (happart : pieces.IsChain Piece.Apart) {pending : List Char} {start : Position}
    (hpending : pending = [] ∨ ∀ body, pieces.head? ≠ some (.text body))
    (hstart : pending = [] → start = c.position)
    (hrest : c.rest = Piece.writtenAll .standard pieces) :
    readFrom .standard pending start c =
      .ok (textToken? pending start c.offset ++ Piece.tokens .standard c.position pieces) := by
  have hopening : Delimiters.standard.opening.toList ≠ [] := by decide
  induction pieces generalizing pending start c with
  | nil =>
    have hnil : c.rest = [] := hrest
    rw [readFrom_end hopening (by rw [hnil, breakOn_nil hopening]), hnil, List.append_nil,
      Piece.tokens, List.append_nil]
    rfl
  | cons p rest ih =>
    obtain ⟨hp, hmore⟩ := List.forall_mem_cons.1 hpieces
    have hchain : rest.IsChain Piece.Apart := happart.tail
    rw [Piece.writtenAll, List.flatMap_cons, ← Piece.writtenAll] at hrest
    by_cases htext : ∃ body, p = .text body
    · -- nothing waits before a text, which now waits itself
      obtain ⟨body, rfl⟩ := htext
      obtain rfl : pending = [] := hpending.resolve_right fun h => h body rfl
      obtain rfl := hstart rfl
      obtain ⟨hseam, hnext⟩ := unjoined_writtenAll happart
      have hne : body.toList ≠ [] := fun hnil => hp (String.toList_eq_nil_iff.1 hnil)
      rw [readFrom_escaped hopening (by decide) hrest hseam, List.nil_append,
        ih hmore hchain (.inr hnext) (fun hnil => absurd hnil hne) rfl, textToken?_of_ne_nil hne,
        String.ofList_toList]
      rfl
    · rw [not_exists] at htext
      obtain ⟨content, hwritten, htag⟩ := readTag_written hp htext
      rw [hwritten, List.append_assoc] at hrest
      have hbreak := breakOn_sep_append hopening (content ++ Piece.writtenAll .standard rest)
      rw [← hrest] at hbreak
      have hread := htag (c.past ([] ++ Delimiters.standard.opening.toList)
        (content ++ Piece.writtenAll .standard rest)) _ c.position rfl rfl
      rw [readFrom_tag hopening hbreak (by decide) hread,
        ih hmore hchain (.inl rfl) (fun _ => rfl) rfl, Cursor.past_past, Piece.tokens, hwritten,
        List.append_nil]
      simp [Except.map, textToken?, Cursor.past, Cursor.offset]

/-- The source of pieces is read as their tokens. -/
theorem read_tokens {pieces : List Piece} (hpieces : ∀ p ∈ pieces, p.Writable .standard)
    (happart : pieces.IsChain Piece.Apart) :
    read .standard (String.ofList (Piece.writtenAll .standard pieces)) =
      .ok (Piece.tokens .standard .origin pieces) := by
  have hrest : (Cursor.ofSource (String.ofList (Piece.writtenAll .standard pieces))).rest =
      Piece.writtenAll .standard pieces := String.toList_ofList
  exact readFrom_written hpieces happart (.inl rfl) (fun _ => rfl) hrest

/-- **What is written is read again.** -/
theorem read_written {pieces : List Piece} (hpieces : ∀ p ∈ pieces, p.Writable .standard)
    (happart : pieces.IsChain Piece.Apart) :
    ∃ tokens, read .standard (String.ofList (Piece.writtenAll .standard pieces)) = .ok tokens ∧
      tokens.map Token.piece = pieces :=
  ⟨_, read_tokens hpieces happart, Piece.map_piece_tokens _ _ _⟩

/-- **Reading undoes writing.** Let every piece be one that can be written, and
let no text stand before another or end with a backslash before a tag or a
comment. Then the source of the pieces is read as these pieces, each with the
place it was written in. -/
theorem read_writtenAll {pieces : List Piece} (hpieces : ∀ p ∈ pieces, p.Writable .standard)
    (happart : pieces.IsChain Piece.Apart) :
    read .standard (String.ofList (Piece.writtenAll .standard pieces)) =
        .ok (Piece.tokens .standard .origin pieces) ∧
      (Piece.tokens .standard .origin pieces).map Token.piece = pieces :=
  ⟨read_tokens hpieces happart, Piece.map_piece_tokens _ _ _⟩

end Token

namespace Sample

/-- Pieces whose texts and values have in them what ends or escapes
something. -/
def notice : List Piece :=
  [.text "é \x7b~ \\\x7b~\x7b",
   .opening .block "note-1" ⟨[("to:", "\"all\" \\ ~\x7d"), ("b.c", "\n'")]⟩,
   .comment "\x7b~ prompty.comment ~\x7d", .opening .selfClosing "_" .empty, .text "~\x7d",
   .closing "prompty.raw", .text "\\"]

/-- They are written like this, and read again. -/
theorem read_writtenAll_notice :
    String.ofList (Piece.writtenAll .standard notice) =
        "é \\\x7b~ \\\\\x7b~\x7b\x7b~note-1 to:=\"\\\"all\\\" \\\\ ~\x7d\" b.c=\"\n'\"~\x7d" ++
        "\x7b~prompty.comment~\x7d\x7b~ prompty.comment ~\x7d\x7b~/prompty.comment~\x7d" ++
        "\x7b~_ /~\x7d~\x7d\x7b~/prompty.raw~\x7d\\" ∧
      Token.read .standard (String.ofList (Piece.writtenAll .standard notice)) =
        .ok (Piece.tokens .standard .origin notice) ∧
      (Piece.tokens .standard .origin notice).map Token.piece = notice := by
  refine ⟨by decide +kernel, Token.read_writtenAll ?_ ?_⟩
  · have hcomment : (Piece.comment "\x7b~ prompty.comment ~\x7d").Writable .standard :=
      Token.not_closes_of_notMem (by decide)
    have hnote : Attributes.Writable ⟨[("to:", "\"all\" \\ ~\x7d"), ("b.c", "\n'")]⟩ :=
      ⟨List.forall_iff_forall_mem.1 (by decide), by decide⟩
    have hempty : Attributes.Writable .empty := ⟨List.forall_mem_nil _, List.nodup_nil⟩
    simp only [notice, List.forall_mem_cons, List.not_mem_nil, false_imp_iff, implies_true,
      hcomment]
    simp only [Piece.Writable, hnote, hempty]
    decide
  · simp only [notice, List.isChain_cons_cons, List.isChain_singleton, Piece.Apart, and_true,
      true_and]
    decide

end Sample

end PromptMarkup
