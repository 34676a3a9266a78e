import PromptMarkup.Proofs.Token.Verbatim
/-!
# Token — delimiters that can close a tag

The reader skips white space before it looks for the closing delimiter. So a
delimiter that begins with white space is never found, and with such a one no
source has a tag (`isText_of_read`). Any other delimiter that is accepted closes
the tags of all names, in both shapes: it has no slash, and where it is looked
for the name has ended (`closesTags_iff`).
-/

namespace PromptMarkup

open Text

/-- The source of a tag without attributes, with a blank behind its name. -/
def Delimiters.emptyTag (d : Delimiters) (name : String) : TagShape → String
  | .block => d.opening ++ name ++ " " ++ d.closing
  | .selfClosing => d.opening ++ name ++ " /" ++ d.closing

theorem Delimiters.emptyTag_eq (d : Delimiters) (name : String) (shape : TagShape) :
    d.emptyTag name shape = String.ofList
      (d.opening.toList ++ (name.toList ++ ' ' :: (shape.slash ++ d.closing.toList))) := by
  rw [← String.toList_inj]
  cases shape <;> simp [emptyTag, TagShape.slash, String.toList_append]

namespace Token

variable {d : Delimiters} {a : Char} {closing : List Char} {c next : Cursor}
  {start : Position} {name source : String} {shape : TagShape} {tokens : List Token}

/-! ## Closing delimiters that begin with white space -/

/-- Behind white space that has been skipped there is no more of it. -/
theorem eat?_skipBlanks_eq_none (ha : isBlank a = true) (c : Cursor) (text : List Char) :
    c.skipBlanks.eat? (a :: text) = none := by
  rw [Option.eq_none_iff_forall_ne_some]
  intro next heat
  obtain ⟨_, behind, _, _, hend, hrun⟩ := c.run_spec isBlank
  obtain ⟨hrest, -⟩ := Cursor.eat?_eq_some_iff.1 heat
  rw [Cursor.skipBlanks, hrun] at hrest
  have hbehind : behind = a :: (text ++ next.rest) := hrest
  have hnot := hend a (by rw [hbehind]; rfl)
  rw [ha] at hnot
  cases hnot

/-- No end of a tag is found, -/
theorem readAttributes_ne_ok (ha : isBlank a = true) {attrs attrs' : Attributes} :
    readAttributes (a :: closing) start attrs c ≠ .ok (shape, attrs', next) := by
  intro h
  generalize hclosing : a :: closing = delimiter at h
  fun_induction readAttributes delimiter start attrs c with
  | case1 => cases h
  | case2 _ c here _ n heat =>
    subst hclosing
    rw [eat?_skipBlanks_eq_none ha] at heat
    cases heat
  | case3 _ c here _ _ slash _ n heat =>
    subst hclosing
    rw [eat?_skipBlanks_eq_none ha] at heat
    cases heat
  | case4 => cases h
  | case5 => cases h
  | case6 _ _ _ _ _ _ _ _ _ _ ih => exact ih h

/-- and so no tag is read. -/
theorem readTag_ne_ok (hclosing : d.closing.toList = a :: closing) (ha : isBlank a = true)
    {token : Option Token} : readTag d start c ≠ .ok (token, next) := by
  intro h
  rw [readTag] at h
  split at h
  · rw [readClosingTag, hclosing] at h
    split at h
    · cases h
    · rw [eat?_skipBlanks_eq_none ha] at h
      cases h
  · rw [readOpeningTag, hclosing] at h
    split at h
    · cases h
    · split at h
      · cases h
      · next hattributes => exact readAttributes_ne_ok ha hattributes

theorem isText_textToken? (body : List Char) (start : Position) (stop : Nat) :
    ∀ token ∈ textToken? body start stop, ∃ text, token.piece = .text text := by
  rw [textToken?]
  split
  · exact List.forall_mem_nil _
  · exact List.forall_mem_singleton.2 ⟨_, rfl⟩

/-- What is read on from a cursor is text. -/
theorem isText_readFrom (hclosing : d.closing.toList = a :: closing) (ha : isBlank a = true)
    {pending : List Char} :
    ∀ tokens, readFrom d pending start c = .ok tokens →
      ∀ token ∈ tokens, ∃ text, token.piece = .text text := by
  fun_induction readFrom d pending start c with
  | case1 =>
    rintro _ ⟨⟩
    exact isText_textToken? _ _ _
  | case2 =>
    rintro _ ⟨⟩
    exact isText_textToken? _ _ _
  | case3 _ _ _ _ _ _ _ _ _ ih => exact ih
  | case4 => rintro _ ⟨⟩
  | case5 => rintro _ ⟨⟩
  | case6 pending start c _ before after _ inner _ here token next htag =>
    exact absurd htag (readTag_ne_ok hclosing ha)

/-- **A source that is read has nothing but text** if the closing delimiter
begins with white space. -/
theorem isText_of_read (hclosing : d.closing.toList = a :: closing) (ha : isBlank a = true)
    (h : read d source = .ok tokens) : ∀ token ∈ tokens, ∃ text, token.piece = .text text :=
  isText_readFrom hclosing ha tokens h

/-! ## All others -/

/-- The tag is read as one token, that of the whole source. -/
def ReadsEmptyTag (d : Delimiters) (name : String) (shape : TagShape) : Prop :=
  read d (d.emptyTag name shape) =
    .ok [⟨.opening shape name .empty, ⟨0, bytes (d.emptyTag name shape).toList⟩, .origin⟩]

/-- **A tag is read** with any other closing delimiter that has no slash. -/
theorem readsEmptyTag (hopening : d.opening.toList ≠ [])
    (hclosing : d.closing.toList = a :: closing) (ha : isBlank a = false) (hslash : a ≠ '/')
    (hname : isTagName name = true) (hraw : name ≠ rawTag) (hcomment : name ≠ commentTag)
    (shape : TagShape) : ReadsEmptyTag d name shape := by
  generalize hc : (⟨Position.origin.advanceBy d.opening.toList,
    name.toList ++ ' ' :: (shape.slash ++ d.closing.toList)⟩ : Cursor) = c
  have hrest : c.rest = name.toList ++ ' ' :: (shape.slash ++ d.closing.toList) := by rw [← hc]
  obtain ⟨first, rest, hfirst, -, -⟩ := of_isTagName hname
  have hskip : c.skipBlanks = c :=
    Cursor.skipBlanks_eq (hrest.trans (by rw [hfirst]; rfl)) (first_of_isTagName hname hfirst).1
  -- the blank ends the name, and the delimiter is looked for behind it
  have hnamed : readName .origin c.skipBlanks =
      .ok (name, c.past name.toList (' ' :: (shape.slash ++ d.closing.toList))) := by
    rw [hskip]
    exact readName_written hname hrest (by rintro _ ⟨⟩; decide) .origin
  have hblank : ∀ x ∈ [' '], isBlank x = true := List.forall_mem_singleton.2 (by decide)
  have hattributes := @readAttributes_ending
    (c.past name.toList (' ' :: (shape.slash ++ d.closing.toList))) [] a [' '] closing shape ha
    hslash hblank (by rw [hclosing, List.append_nil]; rfl) .origin .empty
  rw [← hclosing, Cursor.past_past] at hattributes
  have hposition : (c.position.advanceBy
      (name.toList ++ ([' '] ++ (shape.slash ++ d.closing.toList)))).offset =
      bytes (d.emptyTag name shape).toList := by
    rw [d.emptyTag_eq, String.toList_ofList, ← hc, ← Position.advanceBy_append,
      Position.offset_advanceBy]
    exact Nat.zero_add _
  rw [ReadsEmptyTag, d.emptyTag_eq, read_eq_bind hopening, hc, readTag_of_readName hnamed,
    readOpeningTag, hnamed]
  simp only [hattributes, hraw, hcomment, or_self, if_false, Except.bind]
  rw [readFrom_end hopening (breakOn_nil hopening), ← d.emptyTag_eq, ← hposition]
  rfl

/-- **Which delimiters close a tag.** Of the pairs that are accepted these are
the ones whose closing delimiter does not begin with white space: with them the
tag of every name that is not verbatim is read, as a block and complete in
itself. With any other pair no source that is read has a tag at all. -/
theorem closesTags_iff (hd : d.check = .ok d) :
    ((∀ name shape, isTagName name = true → name ≠ rawTag → name ≠ commentTag →
        ReadsEmptyTag d name shape) ↔
      ∀ a ∈ d.closing.toList.head?, isBlank a = false) ∧
    ((∃ a ∈ d.closing.toList.head?, isBlank a = true) →
      ∀ source tokens, read d source = .ok tokens →
        ∀ token ∈ tokens, ∃ text, token.piece = .text text) := by
  obtain ⟨hopening, -, hslash, a, closing, hclosing⟩ := Delimiters.of_check hd
  have hhead : d.closing.toList.head? = some a := by rw [hclosing]; rfl
  simp only [hhead, Option.mem_def, Option.some.injEq, forall_eq', exists_eq_left']
  refine ⟨⟨fun hall => ?_, fun ha name shape hname hraw hcomment => ?_⟩, fun ha source tokens h =>
    isText_of_read hclosing ha h⟩
  · rw [← Bool.not_eq_true]
    intro ha
    have hread := hall "x" .block (by decide) (by decide) (by decide)
    obtain ⟨text, htext⟩ := isText_of_read hclosing ha hread _ (List.mem_singleton_self _)
    cases htext
  · refine readsEmptyTag hopening hclosing ha (fun heq => hslash ?_) hname hraw hcomment shape
    rw [hclosing, heq]
    exact List.mem_cons_self

end Token

namespace Sample

open Token

/-- Delimiters of letters, quotes and blanks, each with a beginning of the
other. -/
def wordy : Delimiters := ⟨"end\" ", "end\"\\ tag "⟩

/-- Its closing delimiter is found behind the name, though a name, a quoted
value or white space might go on with it. -/
theorem closesTags_iff_wordy :
    wordy.check = .ok wordy ∧
      ReadsEmptyTag wordy "end" .block ∧ ReadsEmptyTag wordy "end" .selfClosing := by
  have hclosing : ∀ a ∈ wordy.closing.toList.head?, isBlank a = false := by
    rintro a ⟨⟩
    decide
  have hreads := ((closesTags_iff (d := wordy) rfl).1.2 hclosing)
  exact ⟨rfl, hreads "end" .block (by decide) (by decide) (by decide),
    hreads "end" .selfClosing (by decide) (by decide) (by decide)⟩

/-- The closing delimiter begins with a blank. -/
def spaced : Delimiters := ⟨"<", " >"⟩

/-- They are accepted, and the blank is skipped with the one before it: the tag
is refused at what is left of its delimiter. -/
theorem blank_hides_closing :
    spaced.check = .ok spaced ∧ isTagName "x" = true ∧ "x" ≠ rawTag ∧ "x" ≠ commentTag ∧
      spaced.emptyTag "x" .block = "<x  >" ∧
      read spaced "<x  >" =
        .error (.parse (.unexpectedCharacter '>' .attributeList) (some ⟨1, 5, 4⟩)) ∧
      ¬ ReadsEmptyTag spaced "x" .block := by
  have hread : read spaced "<x  >" =
      .error (.parse (.unexpectedCharacter '>' .attributeList) (some ⟨1, 5, 4⟩)) := by
    decide +kernel
  have hsource : spaced.emptyTag "x" .block = "<x  >" := rfl
  refine ⟨rfl, by decide, by decide, by decide, hsource, hread, fun hreads => ?_⟩
  rw [ReadsEmptyTag, hsource, hread] at hreads
  cases hreads

end Sample

end PromptMarkup
