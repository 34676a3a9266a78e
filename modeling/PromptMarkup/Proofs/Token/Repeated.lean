import Mathlib.Data.List.Induction
import PromptMarkup.Proofs.Token.Named
import PromptMarkup.Proofs.Token.Spans
/-!
# Token — repeated attributes

A name may be given to a tag more than once. The attributes are then a table in
which the last value of a name counts, in the order in which the names come first
(`Attributes.Settled`). What carries this through a list of any length is that
names stay distinct while one value overwrites another (`nodup_ofPairs`).

The reader takes the attributes of a tag as they are written, repetitions and
all, and sets one after another (`assigns_of_readAttributes`). So every tag that is
read has what its attributes come to (`attributes_settled`).
-/

namespace PromptMarkup

open Text

namespace Attributes

/-- The pair is the last of its name. -/
def LastOf (pairs : List (String × String)) (pair : String × String) : Prop :=
  ∃ before after, pairs = before ++ pair :: after ∧ pair.1 ∉ after.map Prod.fst

/-- The attributes are what names and values come to that are set one after
another. -/
structure Settled (a : Attributes) (pairs : List (String × String)) : Prop where
  /-- The names stand in the order in which they come first, -/
  names : a.entries.map Prod.fst = (pairs.map Prod.fst).eraseDups
  /-- none of them twice, -/
  distinct : (a.entries.map Prod.fst).Nodup
  /-- and each with the value that it is given last. -/
  last : ∀ entry ∈ a.entries, LastOf pairs entry
  /-- Look-ups find these entries and no others, -/
  get : ∀ name value, a.get? name = some value ↔ (name, value) ∈ a.entries
  has : ∀ name, a.has name = true ↔ name ∈ a.entries.map Prod.fst
  /-- and there are as many as there are different names. -/
  size : a.size = (pairs.map Prod.fst).eraseDups.length
  /-- An entry that is set again changes nothing. -/
  again : ∀ entry ∈ a.entries, a.set entry.1 entry.2 = a

variable {pairs : List (String × String)} {a : Attributes} {name value : String}

/-! ## One pair more -/

theorem ofPairs_concat (pairs : List (String × String)) (pair : String × String) :
    ofPairs (pairs ++ [pair]) = (ofPairs pairs).set pair.1 pair.2 := by
  rw [ofPairs, List.foldl_append]
  rfl

/-- A name is new only once. -/
theorem eraseDups_concat (names : List String) (name : String) :
    (names ++ [name]).eraseDups =
      if name ∈ names then names.eraseDups else names.eraseDups ++ [name] := by
  rw [List.eraseDups_append, List.cons_removeAll]
  by_cases hmem : name ∈ names
  · simp [hmem]
  · simp [hmem, List.eraseDups_cons]

theorem names_ofPairs (pairs : List (String × String)) :
    (ofPairs pairs).entries.map Prod.fst = (pairs.map Prod.fst).eraseDups := by
  induction pairs using List.reverseRecOn with
  | nil => rfl
  | append_singleton pairs pair ih =>
    have hnames : ((ofPairs pairs).set pair.1 pair.2).entries.map Prod.fst = _ :=
      names_put pair.1 pair.2 (ofPairs pairs).entries
    rw [ofPairs_concat, hnames, ih, List.map_append, List.map_singleton, eraseDups_concat]
    simp only [List.mem_eraseDups]

theorem nodup_ofPairs (pairs : List (String × String)) :
    ((ofPairs pairs).entries.map Prod.fst).Nodup := by
  induction pairs using List.reverseRecOn with
  | nil => exact List.nodup_nil
  | append_singleton pairs pair ih =>
    rw [ofPairs_concat]
    exact nodup_put ih

theorem get?_ofPairs (pairs : List (String × String)) (name : String) :
    (ofPairs pairs).get? name = pairs.reverse.lookup name := by
  induction pairs using List.reverseRecOn with
  | nil => rfl
  | append_singleton pairs pair ih =>
    rw [ofPairs_concat, get?_set, List.reverse_append, List.reverse_singleton,
      List.singleton_append, List.lookup_cons, ih]
    by_cases h : name = pair.1
    · simp [h]
    · simp [h, beq_eq_false_iff_ne.2 h]

theorem lastOf_of_get? (h : (ofPairs pairs).get? name = some value) :
    LastOf pairs (name, value) := by
  rw [get?_ofPairs, List.lookup_eq_some_iff] at h
  obtain ⟨after, before, hreverse, hafter⟩ := h
  refine ⟨before.reverse, after.reverse, ?_, ?_⟩
  · rw [← List.reverse_reverse pairs, hreverse]
    simp
  · simp only [List.map_reverse, List.mem_reverse, List.mem_map, not_exists, not_and]
    intro pair hpair hname
    simpa [hname] using hafter pair hpair

/-! ## Names that stand once -/

/-- Where names are distinct, the entries are what look-ups find. -/
theorem get?_eq_some_iff (h : (a.entries.map Prod.fst).Nodup) :
    a.get? name = some value ↔ (name, value) ∈ a.entries := by
  rw [get?, List.lookup_eq_some_iff]
  constructor
  · rintro ⟨before, after, hentries, -⟩
    rw [hentries]
    exact List.mem_append_right before List.mem_cons_self
  · intro hmem
    obtain ⟨before, after, hentries⟩ := List.append_of_mem hmem
    refine ⟨before, after, hentries, fun entry hentry => ?_⟩
    rw [hentries, List.map_append, List.map_cons, List.nodup_append] at h
    have hne : entry.1 ≠ name := h.2.2 _ (List.mem_map_of_mem hentry) _ List.mem_cons_self
    simpa using hne.symm

theorem has_iff : a.has name = true ↔ name ∈ a.entries.map Prod.fst := by
  have hnone : a.get? name = none ↔ name ∉ a.entries.map Prod.fst := by
    rw [get?, List.lookup_eq_none_iff, List.mem_map]
    simp only [bne_iff_ne, ne_eq, not_exists, not_and]
    exact forall₂_congr fun _ _ => not_congr eq_comm
  rw [has, Option.isSome_iff_ne_none, ne_eq, hnone, not_not]

theorem put_of_mem {entries : List (String × String)} (h : (entries.map Prod.fst).Nodup)
    (hmem : (name, value) ∈ entries) : put name value entries = entries := by
  induction entries with
  | nil => exact absurd hmem List.not_mem_nil
  | cons entry rest ih =>
    obtain ⟨k, v⟩ := entry
    rw [List.map_cons, List.nodup_cons] at h
    rw [put]
    rcases List.mem_cons.1 hmem with heq | hrest
    · cases heq
      rw [if_pos rfl]
    · have hne : k ≠ name := fun heq => h.1 (List.mem_map.2 ⟨_, hrest, heq.symm⟩)
      rw [if_neg hne, ih h.2 hrest]

/-- **Attributes refine a table in which the last value counts.** -/
theorem settled_ofPairs (pairs : List (String × String)) : (ofPairs pairs).Settled pairs := by
  have hdistinct := nodup_ofPairs pairs
  refine ⟨names_ofPairs pairs, hdistinct, fun entry hentry => ?_, fun name value => ?_,
    fun name => has_iff, ?_, fun entry hentry => ?_⟩
  · exact lastOf_of_get? ((get?_eq_some_iff hdistinct).2 hentry)
  · exact get?_eq_some_iff hdistinct
  · rw [← names_ofPairs, List.length_map, size]
  · rw [set, put_of_mem hdistinct hentry]

end Attributes

namespace Token

/-- What stands between two quotes and the value that it stands for. A backslash
goes together with the character behind it. -/
inductive Quotes (quote : Char) : List Char → List Char → Prop
  | nil : Quotes quote [] []
  | escape {a : Char} {body value : List Char} (hbody : Quotes quote body value) :
      Quotes quote ('\\' :: a :: body) (unescape a ++ value)
  | plain {a : Char} {body value : List Char} (hquote : a ≠ quote) (hslash : a ≠ '\\')
      (hbody : Quotes quote body value) : Quotes quote (a :: body) (a :: value)

/-- The text gives values to names, one behind the other: each time a name, an
equals sign and a value in quotes, with white space before any of the three. -/
inductive Assigns : List Char → List (String × String) → Prop
  | nil : Assigns [] []
  | cons {u v w body value rest : List Char} {name : String} {quote : Char}
      {pairs : List (String × String)} (hblank : ∀ a ∈ u ++ v ++ w, isBlank a = true)
      (hname : isAttributeName name = true) (hquote : quote = '"' ∨ quote = '\'')
      (hbody : Quotes quote body value) (hrest : Assigns rest pairs) :
      Assigns (u ++ (name.toList ++ (v ++ '=' :: (w ++ quote :: (body ++ quote :: rest)))))
        ((name, String.ofList value) :: pairs)

/-- What stands in a tag between its delimiters: its name, its attributes and the
slash of a tag that is complete in itself, with white space around. -/
def Content (shape : TagShape) (name : String) (pairs : List (String × String))
    (content : List Char) : Prop :=
  ∃ u text v w, content = u ++ (name.toList ++ (text ++ (v ++ (shape.slash ++ w)))) ∧
    (∀ a ∈ u ++ v ++ w, isBlank a = true) ∧ Assigns text pairs

variable {d : Delimiters} {c next : Cursor} {start : Position} {name value : String}

theorem rest_skipBlanks (c : Cursor) :
    ∃ blanks, (∀ a ∈ blanks, isBlank a = true) ∧ c.rest = blanks ++ c.skipBlanks.rest :=
  ⟨c.rest.takeWhile isBlank, fun _ ha => List.mem_takeWhile_imp ha,
    List.takeWhile_append_dropWhile.symm⟩

theorem quotes_of_readLiteral? {quote : Char} {p : Position} {cs value : List Char}
    (h : readLiteral? unescape quote p cs = some (value, next)) :
    ∃ body, cs = body ++ quote :: next.rest ∧ Quotes quote body value := by
  fun_induction readLiteral? unescape quote p cs generalizing value with
  | case1 => cases h
  | case2 =>
    cases h
    exact ⟨[], rfl, .nil⟩
  | case3 => cases h
  | case4 p a more _ ih =>
    obtain ⟨⟨v, n⟩, hread, heq⟩ := Option.map_eq_some_iff.1 h
    cases heq
    obtain ⟨body, rfl, hbody⟩ := ih hread
    exact ⟨'\\' :: a :: body, rfl, .escape hbody⟩
  | case5 p a rest hquote hslash ih =>
    obtain ⟨⟨v, n⟩, hread, heq⟩ := Option.map_eq_some_iff.1 h
    cases heq
    obtain ⟨body, rfl, hbody⟩ := ih hread
    exact ⟨a :: body, rfl, .plain hquote hslash hbody⟩

theorem quotes_of_readQuoted (h : readQuoted start c = .ok (value, next)) :
    ∃ quote body, (quote = '"' ∨ quote = '\'') ∧ Quotes quote body value.toList ∧
      c.rest = quote :: (body ++ quote :: next.rest) := by
  rw [readQuoted] at h
  split at h
  · cases h
  · next quote rest hrest =>
    split at h
    · next hquote =>
      split at h
      · next hread =>
        cases h
        obtain ⟨body, hcut, hbody⟩ := quotes_of_readLiteral? hread
        rw [String.toList_ofList]
        exact ⟨quote, body, hquote, hbody, hcut ▸ hrest⟩
      · cases h
    · cases h

theorem assigns_of_readAttribute (h : readAttribute start c.skipBlanks = .ok (name, value, next)) :
    ∃ text, c.rest = text ++ next.rest ∧
      ∀ rest pairs, Assigns rest pairs → Assigns (text ++ rest) ((name, value) :: pairs) := by
  have hname := isAttributeName_of_readAttribute h
  obtain ⟨u, hu, hc⟩ := rest_skipBlanks c
  simp only [readAttribute] at h
  split at h
  · cases h
  · split at h
    · cases h
    · next sign hsign =>
      split at h
      · cases h
      · next hvalue =>
        cases h
        obtain ⟨v, hv, hnamed⟩ := rest_skipBlanks (c.skipBlanks.run isAttributeChar).2
        obtain ⟨w, hw, hsigned⟩ := rest_skipBlanks sign
        obtain ⟨quote, body, hquote, hbody, hquoted⟩ := quotes_of_readQuoted hvalue
        have hrun : c.skipBlanks.rest = (c.skipBlanks.run isAttributeChar).1 ++
            (c.skipBlanks.run isAttributeChar).2.rest := List.takeWhile_append_dropWhile.symm
        rw [(Cursor.eat?_eq_some_iff.1 hsign).1, hsigned, hquoted] at hnamed
        rw [hnamed] at hrun
        refine ⟨u ++ ((c.skipBlanks.run isAttributeChar).1 ++
          (v ++ '=' :: (w ++ quote :: (body ++ [quote])))), ?_, fun rest pairs hrest => ?_⟩
        · rw [hc, hrun]
          simp only [List.append_assoc, List.cons_append, List.nil_append]
        · have hblank : ∀ a ∈ u ++ v ++ w, isBlank a = true := by
            simp only [List.forall_mem_append]
            exact ⟨⟨hu, hv⟩, hw⟩
          have hassigns := Assigns.cons hblank hname hquote hbody hrest
          rw [String.toList_ofList, String.ofList_toList] at hassigns
          simpa only [List.append_assoc, List.cons_append, List.nil_append] using hassigns

/-- **The attributes that are read are those that are written**, set one after
another. -/
theorem assigns_of_readAttributes {closing : List Char} {shape : TagShape}
    {attrs attrs' : Attributes}
    (h : readAttributes closing start attrs c = .ok (shape, attrs', next)) :
    ∃ text v w pairs, c.rest = text ++ (v ++ (shape.slash ++ (w ++ (closing ++ next.rest)))) ∧
      (∀ a ∈ v ++ w, isBlank a = true) ∧ Assigns text pairs ∧
      attrs' = pairs.foldl (fun a pair => a.set pair.1 pair.2) attrs := by
  fun_induction readAttributes closing start attrs c with
  | case1 => cases h
  | case2 attrs c here _ n heat =>
    cases h
    obtain ⟨v, hv, hc⟩ := rest_skipBlanks c
    rw [(Cursor.eat?_eq_some_iff.1 heat).1] at hc
    exact ⟨[], v, [], [], hc, by simpa using hv, .nil, rfl⟩
  | case3 attrs c here _ _ slash hslash n heat =>
    cases h
    obtain ⟨v, hv, hc⟩ := rest_skipBlanks c
    obtain ⟨w, hw, hs⟩ := rest_skipBlanks slash
    rw [(Cursor.eat?_eq_some_iff.1 hslash).1, hs, (Cursor.eat?_eq_some_iff.1 heat).1] at hc
    exact ⟨[], v, w, [], hc, List.forall_mem_append.2 ⟨hv, hw⟩, .nil, rfl⟩
  | case4 => cases h
  | case5 => cases h
  | case6 attrs c here _ _ _ name value n hread ih =>
    obtain ⟨text, hc, hassigns⟩ := assigns_of_readAttribute hread
    obtain ⟨more, v, w, pairs, hn, hblank, hmore, rfl⟩ := ih h
    refine ⟨text ++ more, v, w, (name, value) :: pairs, ?_, hblank, hassigns more pairs hmore, rfl⟩
    rw [hc, hn, List.append_assoc]

/-! ## Tags -/

/-- What an opening tag is read from. -/
theorem content_of_readTag {token : Token} {shape : TagShape} {attrs : Attributes}
    (h : readTag d start c = .ok (some token, next))
    (hpiece : token.piece = .opening shape name attrs) :
    ∃ content pairs, c.rest = content ++ (d.closing.toList ++ next.rest) ∧
      token.span = ⟨start.offset, next.offset⟩ ∧ Content shape name pairs content ∧
      attrs = Attributes.ofPairs pairs := by
  have htag : token.piece.tag?.isSome := by
    rw [hpiece]
    rfl
  rw [readTag] at h
  split at h
  · obtain ⟨own, named, -, -, rfl⟩ := of_readClosingTag h
    cases hpiece
  · obtain ⟨shape, name, attrs, named, hname, hattrs, -, rfl⟩ := of_readOpeningTag h htag
    cases hpiece
    obtain ⟨u, hu, hc⟩ := rest_skipBlanks c
    have hnamed : c.skipBlanks.rest = name.toList ++ named.rest :=
      (Cursor.eat?_eq_some_iff.1 (eat?_of_readName hname)).1
    obtain ⟨text, v, w, pairs, hrest, hblank, hassigns, hpairs⟩ := assigns_of_readAttributes hattrs
    refine ⟨u ++ (name.toList ++ (text ++ (v ++ (shape.slash ++ w)))), pairs, ?_, rfl,
      ⟨u, text, v, w, rfl, ?_, hassigns⟩, hpairs⟩
    · rw [hc, hnamed, hrest]
      simp only [List.append_assoc]
    · rw [List.append_assoc]
      exact List.forall_mem_append.2 ⟨hu, hblank⟩

/-- **The last value of a name counts.** However often names are repeated, the
attributes that are set one after another are a table: each name once, in the
order in which the names come first, with the value that it is given last. A tag
that is read has the attributes that its source comes to, from its opening to its
closing delimiter. -/
theorem attributes_settled :
    (∀ pairs, (Attributes.ofPairs pairs).Settled pairs) ∧
    ∀ (d : Delimiters) (source : String) (tokens : List Token), read d source = .ok tokens →
      ∀ token ∈ tokens, ∀ shape name attrs, token.piece = .opening shape name attrs →
        ∃ content pairs, token.span.Holds source.toList (d.around content) ∧
          Content shape name pairs content ∧ attrs.Settled pairs := by
  refine ⟨Attributes.settled_ofPairs, fun d source tokens hread => ?_⟩
  refine forall_of_read (fun body start stop token htoken shape name attrs hpiece => ?_)
    (fun here after token next honward hrest htag shape name attrs hpiece => ?_) hread
  · rw [textToken?] at htoken
    split at htoken
    · exact absurd htoken List.not_mem_nil
    · rw [List.mem_singleton.1 htoken] at hpiece
      cases hpiece
  · obtain ⟨content, pairs, hafter, hspan, hcontent, rfl⟩ := content_of_readTag htag hpiece
    have hbody : here.rest = d.around content ++ next.rest := by
      have hlater : after = content ++ (d.closing.toList ++ next.rest) := hafter
      simp only [hrest, hlater, Delimiters.around, List.append_assoc]
    have hnext := (Cursor.onward_past hrest).trans (covers_readTag htag).onward
    have hholds := Span.Holds.of_onward honward hbody
    rw [← hnext.eq_past hbody] at hholds
    rw [hspan]
    exact ⟨content, pairs, hholds, hcontent, Attributes.settled_ofPairs pairs⟩

end Token

namespace Sample

/-- A tag that names its variable twice. -/
def renamed : String := "é\x7b~prompty.var name='first' default = \"x\" name=\"second\"/~\x7d"

/-- The second name takes the place of the first. -/
theorem attributes_settled_renamed :
    Attributes.Settled ⟨[("name", "second"), ("default", "x")]⟩
      [("name", "first"), ("default", "x"), ("name", "second")] ∧
    ∃ tokens token, Token.read .standard renamed = .ok tokens ∧ token ∈ tokens ∧
      token.piece = .opening .selfClosing "prompty.var" ⟨[("name", "second"), ("default", "x")]⟩ ∧
      ∃ content pairs,
        token.span.Holds renamed.toList (Delimiters.standard.around content) ∧
        Token.Content .selfClosing "prompty.var" pairs content ∧
        Attributes.Settled ⟨[("name", "second"), ("default", "x")]⟩ pairs := by
  obtain ⟨hpairs, htags⟩ := Token.attributes_settled
  refine ⟨hpairs [("name", "first"), ("default", "x"), ("name", "second")], ?_⟩
  let tag : Token :=
    ⟨.opening .selfClosing "prompty.var" ⟨[("name", "second"), ("default", "x")]⟩,
      ⟨2, 59⟩, ⟨1, 2, 2⟩⟩
  have hread : Token.read .standard renamed = .ok [⟨.text "é", ⟨0, 2⟩, ⟨1, 1, 0⟩⟩, tag] := by
    decide +kernel
  have htag : tag ∈ [⟨.text "é", ⟨0, 2⟩, ⟨1, 1, 0⟩⟩, tag] := by simp
  exact ⟨_, tag, hread, htag, rfl, htags _ _ _ hread tag htag _ _ _ rfl⟩

end Sample

end PromptMarkup
