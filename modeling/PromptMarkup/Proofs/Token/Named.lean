import PromptMarkup.Proofs.Token.Written
/-!
# Token — the names in tags

The name of a tag and those of its attributes are runs of the characters that
names are made of, and an attribute that is given twice is kept once. So every
tag that is read is one that can be written (`writable_of_read`).
-/

namespace PromptMarkup

/-- One more attribute brings a name that can be read, or changes the value of
one that there is. -/
theorem Attributes.Writable.set {attrs : Attributes} (h : attrs.Writable) {name : String}
    (hname : Token.isAttributeName name = true) (value : String) :
    (attrs.set name value).Writable := by
  have hnames : (attrs.set name value).entries.map Prod.fst =
      if name ∈ attrs.entries.map Prod.fst then attrs.entries.map Prod.fst
      else attrs.entries.map Prod.fst ++ [name] := names_put name value attrs.entries
  have hall : ∀ own ∈ attrs.entries.map Prod.fst, Token.isAttributeName own = true :=
    List.forall_mem_map.2 h.names
  have hkept : ∀ own ∈ (attrs.set name value).entries.map Prod.fst,
      Token.isAttributeName own = true := by
    rw [hnames]
    split
    · exact hall
    · exact List.forall_mem_append.2 ⟨hall, List.forall_mem_singleton.2 hname⟩
  exact ⟨List.forall_mem_map.1 hkept, nodup_put h.distinct⟩

namespace Token

variable {d : Delimiters} {start : Position} {c next : Cursor} {token : Token}

/-! ## Parts of a tag -/

/-- The name of a tag is the run of name characters that it begins. -/
theorem isTagName_of_readName {name : String} (h : readName start c = .ok (name, next)) :
    isTagName name = true := by
  rw [readName] at h
  split at h
  · cases h
  · next first rest hrest =>
    split at h
    · next hfirst =>
      have hkept : c.rest.takeWhile isNameChar = first :: rest.takeWhile isNameChar := by
        rw [hrest, List.takeWhile_cons, if_pos (isNameChar_of_isNameStart hfirst)]
      cases h
      rw [isTagName, String.toList_ofList]
      simp only [hkept, hfirst, Bool.true_and, List.all_eq_true]
      exact fun a ha => List.mem_takeWhile_imp ha
    · cases h

/-- A name is what is read of it. -/
theorem eat?_of_readName {name : String} (h : readName start c = .ok (name, next)) :
    c.eat? name.toList = some next := by
  rw [readName] at h
  split at h
  · cases h
  · split at h
    · cases h
      rw [String.toList_ofList]
      exact Cursor.eat?_of_rest List.takeWhile_append_dropWhile.symm
    · cases h

theorem isAttributeName_of_readAttribute {name value : String}
    (h : readAttribute start c = .ok (name, value, next)) : isAttributeName name = true := by
  simp only [readAttribute] at h
  split at h
  · cases h
  · next hne =>
    split at h
    · cases h
    · split at h
      · cases h
      · cases h
        rw [isAttributeName, String.toList_ofList, Bool.and_eq_true, List.all_eq_true]
        exact ⟨by simpa using hne, fun a ha => List.mem_takeWhile_imp ha⟩

theorem writable_readAttributes {closing : List Char} {attrs attrs' : Attributes} {shape : TagShape}
    (h : readAttributes closing start attrs c = .ok (shape, attrs', next))
    (hattrs : attrs.Writable) : attrs'.Writable := by
  fun_induction readAttributes closing start attrs c with
  | case1 => cases h
  | case2 =>
    cases h
    exact hattrs
  | case3 =>
    cases h
    exact hattrs
  | case4 => cases h
  | case5 => cases h
  | case6 _ c here _ _ _ name value n hn ih =>
    exact ih h (hattrs.set (isAttributeName_of_readAttribute hn) value)

/-! ## Tokens -/

/-- The token of a verbatim body is no tag. -/
theorem tag?_verbatimToken? {name : String} {body : List Char} {stop : Nat} :
    ∀ token ∈ verbatimToken? name body start stop, token.piece.tag? = none := by
  intro token htoken
  rw [verbatimToken?] at htoken
  split at htoken
  · cases htoken
    rfl
  · split at htoken <;> cases htoken
    rfl

/-- What is read as a closing tag is a name, up to the closing delimiter. -/
theorem of_readClosingTag (h : readClosingTag d start c = .ok (some token, next)) :
    ∃ name named, readName start c.skipBlanks = .ok (name, named) ∧
      named.skipBlanks.eat? d.closing.toList = some next ∧
      token = ⟨.closing name, ⟨start.offset, next.offset⟩, start⟩ := by
  rw [readClosingTag] at h
  split at h
  · cases h
  · next name named hname =>
    split at h
    · cases h
    · next hclosing =>
      cases h
      exact ⟨name, named, hname, hclosing, rfl⟩

/-- What is read as any other tag is a name that has no verbatim body, and
attributes. -/
theorem of_readOpeningTag (h : readOpeningTag d start c = .ok (some token, next))
    (htag : token.piece.tag?.isSome) :
    ∃ shape name attrs named, readName start c = .ok (name, named) ∧
      readAttributes d.closing.toList start .empty named = .ok (shape, attrs, next) ∧
      ¬(name = rawTag ∨ name = commentTag) ∧
      token = ⟨.opening shape name attrs, ⟨start.offset, next.offset⟩, start⟩ := by
  rw [readOpeningTag] at h
  split at h
  · cases h
  · next name named hname =>
    split at h
    · cases h
    · next shape attrs after hattrs =>
      split at h
      · split at h
        · cases h
        · split at h
          · cases h
          · obtain ⟨htoken, -⟩ := Prod.ext_iff.1 (Except.ok.inj h)
            rw [tag?_verbatimToken? token htoken] at htag
            cases htag
      · next hother =>
        cases h
        exact ⟨shape, name, attrs, named, hname, hattrs, hother, rfl⟩

/-- **A tag that is read can be written.** -/
theorem writable_of_readTag (h : readTag d start c = .ok (some token, next))
    (htag : token.piece.tag?.isSome) : token.piece.Writable d := by
  rw [readTag] at h
  split at h
  · obtain ⟨name, named, hname, -, rfl⟩ := of_readClosingTag h
    exact isTagName_of_readName hname
  · obtain ⟨shape, name, attrs, named, hname, hattrs, hother, rfl⟩ := of_readOpeningTag h htag
    obtain ⟨hraw, hcomment⟩ := not_or.1 hother
    exact ⟨isTagName_of_readName hname, hraw, hcomment,
      writable_readAttributes hattrs ⟨List.forall_mem_nil _, List.nodup_nil⟩⟩

/-- What holds of texts and of all that is read behind the opening delimiters of
a source holds of its tokens. -/
theorem forall_of_read {P : Token → Prop} {source : String} {tokens : List Token}
    (text : ∀ body start stop, ∀ token ∈ textToken? body start stop, P token)
    (tag : ∀ (here : Cursor) after token next, (Cursor.ofSource source).Onward here →
      here.rest = d.opening.toList ++ after →
      readTag d here.position (here.past d.opening.toList after) = .ok (some token, next) →
      P token)
    (h : read d source = .ok tokens) : ∀ token ∈ tokens, P token := by
  suffices go : ∀ pending start c tokens, (Cursor.ofSource source).Onward c →
      readFrom d pending start c = .ok tokens → ∀ token ∈ tokens, P token from
    go _ _ _ _ (Cursor.onward_refl _) h
  clear h tokens
  intro pending start c tokens honward h
  fun_induction readFrom d pending start c generalizing tokens with
  | case1 =>
    cases h
    exact text _ _ _
  | case2 =>
    cases h
    exact text _ _ _
  | case3 _ _ _ _ _ _ hbreak _ _ ih =>
    exact ih _ (honward.trans (Cursor.onward_past (Text.eq_of_breakOn hbreak))) h
  | case4 => cases h
  | case5 => cases h
  | case6 pending start c _ before after hbreak inner _ here token next htag more hmore ih =>
    cases h
    have hrest : c.rest = before ++ (d.opening.toList ++ after) := by
      rw [Text.eq_of_breakOn hbreak, List.append_assoc]
    have hhere := honward.trans (Cursor.onward_past hrest)
    have hinner : inner = (c.past before (d.opening.toList ++ after)).past d.opening.toList after :=
      (Cursor.past_past _ _ _ _ _).symm
    simp only [List.mem_append, Option.mem_toList]
    rintro t ((ht | ht) | ht)
    · exact text _ _ _ t ht
    · rw [hinner, ht] at htag
      exact tag _ after t next hhere rfl htag
    · refine ih _ ?_ hmore t ht
      have hopened := honward.trans (Cursor.onward_past (Text.eq_of_breakOn hbreak))
      exact hopened.trans (covers_readTag htag).onward

/-- **All tags of a source can be written.** -/
theorem writable_of_read {source : String} {tokens : List Token} (h : read d source = .ok tokens) :
    ∀ token ∈ tokens, token.piece.tag?.isSome → token.piece.Writable d := by
  refine forall_of_read (fun body start stop => ?_) (fun _ _ _ _ _ _ => writable_of_readTag) h
  rw [textToken?]
  split
  · exact List.forall_mem_nil _
  · exact List.forall_mem_singleton.2 fun htag => absurd htag Bool.false_ne_true

end Token

end PromptMarkup
