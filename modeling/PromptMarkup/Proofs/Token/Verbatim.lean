import PromptMarkup.Proofs.Text.Overlap
import PromptMarkup.Proofs.Token.Named
/-!
# Token — the body of a raw or comment tag

Inside a verbatim body only its closing tag counts. The reader that looks for
it is not the one that reads tags, but the two find the same closing tags
(`readTag_eq_closing_iff`). So a body in which no closing tag begins before
its own is read as it stands, where the search comes to that one
(`readVerbatim?_of_met`).

The search goes on behind each opening delimiter it has seen. Where one of
these runs into the delimiter of the closing tag, that tag is not seen, and
the body is not found to end (`readsVerbatim_iff`).
-/

namespace PromptMarkup

open Text

/-- What can be relied on in delimiters that are accepted, when the closing
one does not begin like white space or a name. -/
structure Delimiters.Plain (d : Delimiters) : Prop where
  opening_ne_nil : d.opening.toList ≠ []
  slash_opening : '/' ∉ d.opening.toList
  slash_closing : '/' ∉ d.closing.toList
  closing : ∃ a rest, d.closing.toList = a :: rest ∧ isBlank a = false ∧
    Token.isNameChar a = false

/-- Delimiters that are accepted are not empty and have no slash. -/
theorem Delimiters.of_check {d : Delimiters} (hd : d.check = .ok d) :
    d.opening.toList ≠ [] ∧ '/' ∉ d.opening.toList ∧ '/' ∉ d.closing.toList ∧
      ∃ a rest, d.closing.toList = a :: rest := by
  have hfault : d.fault? = none := by
    rw [check] at hd
    split at hd
    · cases hd
    · assumption
  rw [fault?] at hfault
  split at hfault
  · cases hfault
  · next hempty =>
    split at hfault
    · cases hfault
    · split at hfault
      · cases hfault
      · next hslash =>
        simp only [Bool.or_eq_true, String.isEmpty_iff, List.contains_iff_mem, not_or]
          at hempty hslash
        have hne : d.closing.toList ≠ [] := fun h => hempty.2 (String.toList_eq_nil_iff.1 h)
        exact ⟨fun h => hempty.1 (String.toList_eq_nil_iff.1 h), hslash.1, hslash.2,
          List.exists_cons_of_ne_nil hne⟩

theorem Delimiters.plain_of_check {d : Delimiters} (hd : d.check = .ok d)
    (hclosing : ∀ a ∈ d.closing.toList.head?, isBlank a = false ∧ Token.isNameChar a = false) :
    d.Plain := by
  obtain ⟨hopening, hslash, hslash', a, rest, heq⟩ := of_check hd
  exact ⟨hopening, hslash, hslash', a, rest, heq, hclosing a (by rw [heq]; rfl)⟩

theorem Delimiters.Plain.closing_ne_nil {d : Delimiters} (h : d.Plain) :
    d.closing.toList ≠ [] := by
  obtain ⟨a, rest, heq, -⟩ := h.closing
  rw [heq]
  exact List.cons_ne_nil _ _

namespace Token

variable {d : Delimiters} {c next : Cursor} {start : Position} {name : String}
  {inner body z tail : List Char}

/-! ## Closing tags -/

/-- An opening tag gives no closing one. -/
theorem piece_ne_closing {token : Token} (h : readOpeningTag d start c = .ok (some token, next))
    (name : String) : token.piece ≠ .closing name := by
  intro hpiece
  have htag : token.piece.tag?.isSome := by
    rw [hpiece]
    rfl
  obtain ⟨shape, own, attrs, named, -, -, -, rfl⟩ := of_readOpeningTag h htag
  cases hpiece

/-- A name ends before the end of its tag. -/
theorem notNameChar_of_closing (hd : d.Plain)
    (h : c.skipBlanks.eat? d.closing.toList = some next) :
    ∀ x ∈ c.rest.head?, isNameChar x = false := by
  obtain ⟨a, rest, hclosing, hblank, hnamed⟩ := hd.closing
  rw [hclosing, Cursor.eat?_skipBlanks_eq_some_iff hblank] at h
  obtain ⟨blanks, hblanks, hrest, -⟩ := h
  rw [hrest]
  intro x hx
  cases blanks with
  | nil =>
    cases hx
    exact hnamed
  | cons b blanks =>
    cases hx
    by_contra hchar
    rw [Bool.not_eq_false] at hchar
    have hb := hblanks x List.mem_cons_self
    rw [isBlank_of_isAttributeChar (isAttributeChar_of_isNameChar hchar)] at hb
    cases hb

theorem isTagName_verbatim (hname : name = rawTag ∨ name = commentTag) :
    isTagName name = true := by
  rcases hname with rfl | rfl <;> decide

/-- **Both readers find the same closing tags** of a verbatim body. -/
theorem readTag_eq_closing_iff (hd : d.Plain) (hname : name = rawTag ∨ name = commentTag) :
    (∃ token, readTag d start c = .ok (some token, next) ∧ token.piece = .closing name) ↔
      readClosing? d.closing.toList name c = some next := by
  simp only [readClosing?, Option.bind_eq_some_iff]
  constructor
  · rintro ⟨token, hread, hpiece⟩
    rw [readTag] at hread
    split at hread
    · next slash hslash =>
      rw [readClosingTag] at hread
      split at hread
      · cases hread
      · next named n hn =>
        split at hread
        · cases hread
        · next last hlast =>
          cases hread
          cases hpiece
          exact ⟨slash, hslash, n, eat?_of_readName hn, hlast⟩
    · exact absurd hpiece (piece_ne_closing hread name)
  · rintro ⟨slash, hslash, n, hn, hlast⟩
    obtain ⟨hrest, hnext⟩ := Cursor.eat?_eq_some_iff.1 hn
    have hend := notNameChar_of_closing hd hlast
    have hread := readName_written (isTagName_verbatim hname) hrest hend start
    rw [← hnext] at hread
    refine ⟨⟨.closing name, ⟨start.offset, next.offset⟩, start⟩, ?_, rfl⟩
    simp only [readTag, hslash, readClosingTag, hread, hlast]

/-- The ordinary reader finds a closing tag of this name at the beginning of the
text. -/
def ClosesAt (d : Delimiters) (name : String) (text : List Char) : Prop :=
  ∃ behind token next, text = d.opening.toList ++ behind ∧
    readTag d .origin ⟨.origin, behind⟩ = .ok (some token, next) ∧ token.piece = .closing name

/-- A closing tag is found where one is written. -/
theorem readClosing?_iff (hd : d.Plain) (hname : name = rawTag ∨ name = commentTag) :
    readClosing? d.closing.toList name c = some next ↔
      ∃ z, IsClosing d.closing.toList name.toList z ∧ c.rest = z ++ next.rest ∧
        next = c.past z next.rest := by
  obtain ⟨rest, hp⟩ := (verbatim_name hname).1
  obtain ⟨a, closing, hclosing, ha, -⟩ := hd.closing
  rw [hclosing]
  exact readClosing?_eq_some_iff hp (by decide) ha

theorem closesAt_iff (hd : d.Plain) (hname : name = rawTag ∨ name = commentTag) {v : List Char} :
    ClosesAt d name v ↔
      ∃ z r, v = d.opening.toList ++ (z ++ r) ∧ IsClosing d.closing.toList name.toList z := by
  constructor
  · rintro ⟨behind, token, next, rfl, hread⟩
    obtain ⟨z, hz, hrest, -⟩ :=
      (readClosing?_iff hd hname).1 ((readTag_eq_closing_iff hd hname).1 ⟨token, hread⟩)
    exact ⟨z, next.rest, congrArg _ hrest, hz⟩
  · rintro ⟨z, r, rfl, hz⟩
    obtain ⟨token, hread⟩ := (readTag_eq_closing_iff hd hname).2
      ((@readClosing?_iff d ⟨.origin, z ++ r⟩ (Cursor.past ⟨.origin, z ++ r⟩ z r) name hd hname).2
        ⟨z, hz, rfl, rfl⟩)
    exact ⟨z ++ r, token, _, rfl, hread⟩

/-- Two closing tags of a name at one place are the same. -/
theorem IsClosing.unique (hd : d.Plain) (hname : name = rawTag ∨ name = commentTag)
    {z₁ z₂ r₁ r₂ : List Char} (h₁ : IsClosing d.closing.toList name.toList z₁)
    (h₂ : IsClosing d.closing.toList name.toList z₂) (h : z₁ ++ r₁ = z₂ ++ r₂) :
    z₁ = z₂ ∧ r₁ = r₂ := by
  have hread : ∀ z r, IsClosing d.closing.toList name.toList z → z₁ ++ r₁ = z ++ r →
      readClosing? d.closing.toList name ⟨.origin, z₁ ++ r₁⟩ =
        some (Cursor.past ⟨.origin, z₁ ++ r₁⟩ z r) := fun z r hz heq =>
    (readClosing?_iff hd hname).2 ⟨z, hz, heq, rfl⟩
  have hsame := (hread z₁ r₁ h₁ rfl).symm.trans (hread z₂ r₂ h₂ h)
  obtain rfl : r₁ = r₂ := congrArg Cursor.rest (Option.some.inj hsame)
  exact ⟨List.append_cancel_right h, rfl⟩

/-- White space before a closing tag belongs to it. -/
theorem IsClosing.blanks {closing name z blanks : List Char} (h : IsClosing closing name z)
    (hblanks : ∀ a ∈ blanks, isBlank a = true) : IsClosing closing name (blanks ++ z) := by
  obtain ⟨u, v, w, hblank, rfl⟩ := h
  refine ⟨blanks ++ u, v, w, ?_, (List.append_assoc _ _ _).symm⟩
  rw [List.append_assoc, List.append_assoc, List.forall_mem_append, ← List.append_assoc]
  exact ⟨hblanks, hblank⟩

/-- A closing tag has one slash, and only white space before it. -/
theorem IsClosing.slash (hd : d.Plain) (hname : name = rawTag ∨ name = commentTag)
    (h : IsClosing d.closing.toList name.toList z) :
    ∃ before after, (∀ a ∈ before, isBlank a = true) ∧ '/' ∉ before ∧ '/' ∉ after ∧
      z = before ++ '/' :: after := by
  obtain ⟨u, v, w, hblank, rfl⟩ := h
  have hout : '/' ∉ u ++ v ++ w := fun hmem => Bool.noConfusion (hblank _ hmem)
  have hslash : '/' ∉ name.toList := fun hmem =>
    Bool.noConfusion ((verbatim_name hname).2 _ hmem)
  simp only [List.mem_append, not_or] at hout
  refine ⟨u, v ++ name.toList ++ (w ++ d.closing.toList), ?_, hout.1.1, ?_, rfl⟩
  · exact fun a ha => hblank a (List.mem_append_left _ (List.mem_append_left _ ha))
  simp only [List.mem_append, not_or]
  exact ⟨⟨hout.1.2, hslash⟩, hout.2, hd.slash_closing⟩

/-- A closing tag that contains another one ends with it. -/
theorem IsClosing.ends (hd : d.Plain) (hname : name = rawTag ∨ name = commentTag)
    {w z' x : List Char} (h : IsClosing d.closing.toList name.toList z')
    (hz : IsClosing d.closing.toList name.toList z) (heq : z' = w ++ (z ++ x)) : x = [] := by
  obtain ⟨before', after', hblank, hbefore', hafter', hslash'⟩ := h.slash hd hname
  obtain ⟨before, after, -, -, -, hslash⟩ := hz.slash hd hname
  -- the one slash is that of both, so only white space is before the inner one
  have hsplit : before' ++ '/' :: after' = (w ++ before) ++ '/' :: (after ++ x) := by
    rw [← hslash', heq, hslash]
    simp only [List.append_assoc, List.cons_append]
  obtain ⟨rfl, -, -⟩ := (List.append_cons_inj_of_notMem hbefore' hafter').1 hsplit
  have hblanks := hz.blanks fun a ha => hblank a (List.mem_append_left _ ha)
  have hends : z' ++ [] = (w ++ z) ++ x := by rw [heq, List.append_nil, List.append_assoc]
  exact (h.unique hd hname hblanks hends).2.symm

/-! ## The body of a tag -/

/-- What stands behind the opening delimiter in an opening tag of this name. -/
def IsOpening (d : Delimiters) (name : String) (inner : List Char) : Prop :=
  ∃ named attrs last, readName .origin (Cursor.skipBlanks ⟨.origin, inner⟩) = .ok (name, named) ∧
    readAttributes d.closing.toList .origin .empty named = .ok (.block, attrs, last) ∧
    last.rest = []

/-- A body between the two tags of a verbatim block, in which no closing tag
of the name begins but its own. -/
structure Enclosed (d : Delimiters) (name : String) (inner body z : List Char) : Prop where
  verbatim : name = rawTag ∨ name = commentTag
  opening : IsOpening d name inner
  closing : IsClosing d.closing.toList name.toList z
  lone : ∀ u v, body ++ (d.opening.toList ++ z) = u ++ v → ClosesAt d name v → u = body

/-- **No closing tag begins before its own** whatever stands behind that one. -/
theorem Enclosed.not_closing (hd : d.Plain) (h : Enclosed d name inner body z) {u z' r : List Char}
    (hz' : IsClosing d.closing.toList name.toList z')
    (heq : body ++ (d.opening.toList ++ (z ++ tail)) = u ++ (d.opening.toList ++ (z' ++ r))) :
    body.length ≤ u.length := by
  by_contra hless
  have hlone : ∀ v, body ++ (d.opening.toList ++ z) = u ++ (d.opening.toList ++ (z' ++ v)) →
      False := fun v hv => by
    have := h.lone u _ hv ((closesAt_iff hd h.verbatim).2 ⟨z', v, rfl, hz'⟩)
    exact hless (congrArg List.length this).ge
  obtain ⟨y, rfl⟩ : u <+: body :=
    List.prefix_of_prefix_length_le (List.prefix_append u _) (heq ▸ List.prefix_append body _)
      (not_le.1 hless).le
  simp only [List.append_assoc, List.append_cancel_left_eq] at heq hlone
  obtain ⟨w, hw, hmoved⟩ := exists_of_append_eq heq
  rw [← List.append_assoc] at hmoved
  have hahead : ∀ v, w ++ z ≠ z' ++ v := fun v hv => hlone v (by
    rw [← List.append_assoc, hw, List.append_assoc, hv])
  obtain ⟨x, hx, -⟩ | ⟨v, hv, -⟩ := List.append_eq_append_iff.1 hmoved.symm
  · -- the closing tag would contain the one that is written
    rw [List.append_assoc] at hx
    obtain rfl := hz'.ends hd h.verbatim h.closing hx
    exact hahead [] (by rw [hx, List.append_nil, List.append_nil])
  · exact hahead v hv

/-! ## Where the body ends -/

/-- A body that is read ends at a closing tag that the search came to. -/
theorem of_readVerbatim? (hd : d.Plain) (hname : name = rawTag ∨ name = commentTag) {stop : Nat}
    (h : readVerbatim? d name c = some (body, stop, next)) :
    Met d.opening.toList body ∧ ∃ z, IsClosing d.closing.toList name.toList z ∧
      c.rest = body ++ (d.opening.toList ++ (z ++ next.rest)) := by
  fun_induction readVerbatim? d name c generalizing body
  case case1 => cases h
  case case2 c before after hbreak inner n hclosing =>
    cases h
    obtain ⟨z, hz, hrest, -⟩ := (readClosing?_iff hd hname).1 hclosing
    have hafter : after = z ++ next.rest := hrest
    refine ⟨.first (clear_of_breakOn hd.opening_ne_nil hbreak), z, hz, ?_⟩
    rw [eq_of_breakOn hbreak, hafter, List.append_assoc]
  case case3 => cases h
  case case4 c before after hbreak inner _ hopening ih =>
    obtain ⟨⟨more, s, n⟩, hmore, heq⟩ := Option.map_eq_some_iff.1 h
    cases heq
    obtain ⟨hmet, z, hz, hrest⟩ := ih hmore
    have hafter : after = more ++ (d.opening.toList ++ (z ++ next.rest)) := hrest
    refine ⟨?_, z, hz, by rw [eq_of_breakOn hbreak, hafter, List.append_assoc _ more]⟩
    rw [List.append_assoc]
    exact .later (clear_of_breakOn hd.opening_ne_nil hbreak) hmet

/-- **A body ends at the closing tag the search comes to**, if there is none
before it. -/
theorem readVerbatim?_of_met (hd : d.Plain) (hname : name = rawTag ∨ name = commentTag)
    (hmet : Met d.opening.toList body) (hz : IsClosing d.closing.toList name.toList z)
    (hrest : c.rest = body ++ (d.opening.toList ++ (z ++ tail)))
    (hfirst : ∀ u z' r, IsClosing d.closing.toList name.toList z' →
      body ++ (d.opening.toList ++ (z ++ tail)) = u ++ (d.opening.toList ++ (z' ++ r)) →
      body.length ≤ u.length) :
    readVerbatim? d name c = some (body, (c.position.advanceBy body).offset,
      c.past (body ++ (d.opening.toList ++ z)) tail) := by
  induction hmet generalizing c with
  | @first t hclear =>
    have hfound := hclear.breakOn_eq hd.opening_ne_nil (z ++ tail)
    rw [← hrest] at hfound
    refine readVerbatim?_of_closing hfound ((readClosing?_iff hd hname).2 ⟨z, hz, rfl, ?_⟩)
    rw [Cursor.past_past, List.append_assoc]
    rfl
  | @later before t hclear _ ih =>
    simp only [List.append_assoc] at hrest hfirst
    have hfound := hclear.breakOn_eq hd.opening_ne_nil (t ++ (d.opening.toList ++ (z ++ tail)))
    rw [← hrest] at hfound
    -- what is seen before the closing tag begins none
    have hnone : readClosing? d.closing.toList name (c.past (before ++ d.opening.toList)
        (t ++ (d.opening.toList ++ (z ++ tail)))) = none := by
      rw [Option.eq_none_iff_forall_ne_some]
      intro n hn
      obtain ⟨z', hz', hrest', -⟩ := (readClosing?_iff hd hname).1 hn
      have hlength := hfirst before z' n.rest hz'
        (congrArg (fun t => before ++ (d.opening.toList ++ t)) hrest')
      have := List.length_pos_iff.2 hd.opening_ne_nil
      simp only [List.length_append] at hlength
      omega
    have hread := ih (c := c.past (before ++ d.opening.toList)
      (t ++ (d.opening.toList ++ (z ++ tail)))) rfl fun u z' r hz' heq => by
        have hlength := hfirst (before ++ (d.opening.toList ++ u)) z' r hz' (by
          simp only [List.append_assoc, heq])
        simp only [List.length_append] at hlength
        omega
    rw [readVerbatim?_of_none hd.opening_ne_nil hfound hnone hread, Cursor.past_past]
    simp only [Cursor.past, Position.advanceBy_append, List.append_assoc]

/-! ## The source of a block -/

/-- **An opening tag is read** wherever it stands, up to the body. -/
theorem IsOpening.read (hd : d.Plain) (h : IsOpening d name inner) {more : List Char}
    (hrest : c.rest = inner ++ more) (start : Position) :
    ∃ named attrs, readName start c.skipBlanks = .ok (name, named) ∧
      readAttributes d.closing.toList start .empty named =
        .ok (.block, attrs, c.past inner more) := by
  obtain ⟨named, attrs, last, hname, hattrs, hlast⟩ := h
  have hbeside : Cursor.Beside inner c.position more ⟨.origin, inner⟩ c :=
    ⟨[], rfl, rfl, by rw [← hrest]; rfl⟩
  obtain ⟨named', hname', hnamed⟩ :=
    beside_readName (hbeside.skipBlanks (rest_ne_nil_of_readName hname)) hname
      (rest_ne_nil_of_readAttributes hd.closing_ne_nil hattrs) start
  obtain ⟨last', hattrs', before, hbefore, -, rfl⟩ :=
    beside_readAttributes hd.closing_ne_nil hnamed hattrs start
  rw [hlast, List.append_nil] at hbefore
  subst hbefore
  rw [hlast] at hattrs'
  exact ⟨named', attrs, hname', hattrs'⟩

/-- A tag that begins with a name is no closing one. -/
theorem readTag_of_readName {named : Cursor}
    (h : readName start c.skipBlanks = .ok (name, named)) :
    readTag d start c = readOpeningTag d start c.skipBlanks := by
  have hslash : c.skipBlanks.eat? ['/'] = none := by
    rw [readName] at h
    split at h
    · cases h
    · next ch rest hrest =>
      split at h
      · next hch =>
        refine Cursor.eat?_of_ne hrest (fun heq => ?_) []
        subst heq
        cases hch
      · cases h
  rw [readTag, hslash]

/-- A verbatim tag is read with its body. -/
theorem IsOpening.readTag_body (hd : d.Plain) (hname : name = rawTag ∨ name = commentTag)
    (h : IsOpening d name inner) {more : List Char} (hrest : c.rest = inner ++ more) {stop : Nat}
    (hbody : readVerbatim? d name (c.past inner more) = some (body, stop, next))
    (start : Position) :
    readTag d start c =
      .ok (verbatimToken? name body (c.position.advanceBy inner) stop, next) := by
  obtain ⟨named, attrs, hnamed, hattrs⟩ := h.read hd hrest start
  simp only [readTag_of_readName hnamed, readOpeningTag, hnamed, hattrs, hname, if_true, hbody]
  rfl

/-- It is not read where its body does not end. -/
theorem IsOpening.readTag_unclosed (hd : d.Plain) (hname : name = rawTag ∨ name = commentTag)
    (h : IsOpening d name inner) {more : List Char} (hrest : c.rest = inner ++ more)
    (hbody : readVerbatim? d name (c.past inner more) = none) (start : Position) :
    readTag d start c = .error (.parse (.unclosedVerbatim name) (some start)) := by
  obtain ⟨named, attrs, hnamed, hattrs⟩ := h.read hd hrest start
  simp only [readTag_of_readName hnamed, readOpeningTag, hnamed, hattrs, hname, if_true, hbody]

/-- The pieces that a verbatim body leaves. -/
def bodyPieces (name : String) (body : List Char) : List Piece :=
  if name = commentTag then [.comment (String.ofList body)]
  else if body = [] then []
  else [.text (String.ofList body)]

/-- **The body is read as it stands**, in its place, and the reading goes on
right behind its closing tag. -/
def ReadsVerbatim (d : Delimiters) (name : String) (inner body z tail : List Char) : Prop :=
  let first := Position.origin.advanceBy (d.opening.toList ++ inner)
  let last := first.advanceBy body
  let behind := last.advanceBy (d.opening.toList ++ z)
  read d (String.ofList
      (d.opening.toList ++ (inner ++ (body ++ (d.opening.toList ++ (z ++ tail)))))) =
    (readFrom d [] behind ⟨behind, tail⟩).map
      ((bodyPieces name body).map (fun piece => ⟨piece, ⟨first.offset, last.offset⟩, first⟩) ++ ·)

/-- The token of a body has its piece. -/
theorem toList_verbatimToken? (name : String) (body : List Char) (p : Position) (stop : Nat) :
    (verbatimToken? name body p stop).toList =
      (bodyPieces name body).map fun piece => ⟨piece, ⟨p.offset, stop⟩, p⟩ := by
  rw [verbatimToken?, bodyPieces]
  split
  · rfl
  · cases body <;> rfl

/-- A source that begins with a tag. -/
theorem read_eq_bind (hopening : d.opening.toList ≠ []) (content : List Char) :
    read d (String.ofList (d.opening.toList ++ content)) =
      (readTag d .origin ⟨Position.origin.advanceBy d.opening.toList, content⟩).bind fun r =>
        (readFrom d [] r.2.position r.2).map (r.1.toList ++ ·) := by
  generalize hc : Cursor.ofSource (String.ofList (d.opening.toList ++ content)) = c
  have hrest : c.rest = d.opening.toList ++ content := by
    rw [← hc]
    exact String.toList_ofList
  have hbreak := breakOn_sep_append hopening content
  rw [← hrest] at hbreak
  have hposition : c.position = .origin := by rw [← hc]; rfl
  rw [read, hc, readFrom_eq hopening, hbreak]
  simp only [List.getLast?_nil, reduceCtorEq, if_false, Position.advanceBy_nil, Cursor.past,
    hposition, List.nil_append]
  cases readTag d .origin ⟨Position.origin.advanceBy d.opening.toList, content⟩ with
  | error failure => rfl
  | ok r => rfl

namespace Enclosed

/-- **A body whose end is met is read as it stands.** -/
theorem readsVerbatim (hd : d.Plain) (h : Enclosed d name inner body z)
    (hmet : Met d.opening.toList body) (tail : List Char) :
    ReadsVerbatim d name inner body z tail := by
  generalize hc : (⟨Position.origin.advanceBy d.opening.toList,
    inner ++ (body ++ (d.opening.toList ++ (z ++ tail)))⟩ : Cursor) = c
  have hrest : c.rest = inner ++ (body ++ (d.opening.toList ++ (z ++ tail))) := by rw [← hc]
  have hbody := @readVerbatim?_of_met d
    (c.past inner (body ++ (d.opening.toList ++ (z ++ tail)))) name body z tail hd h.verbatim hmet
    h.closing rfl fun _ _ _ hz' heq => h.not_closing hd hz' heq
  rw [ReadsVerbatim, read_eq_bind hd.opening_ne_nil, hc, h.opening.readTag_body hd h.verbatim hrest hbody]
  simp only [Except.bind, toList_verbatimToken?, Cursor.past, ← hc, Position.advanceBy_append]

/-- **Any other body is not found to end**, if nothing stands behind it. -/
theorem read_eq_error (hd : d.Plain) (h : Enclosed d name inner body z)
    (hmet : ¬ Met d.opening.toList body) :
    read d (String.ofList (d.opening.toList ++ (inner ++ (body ++ (d.opening.toList ++ z))))) =
      .error (.parse (.unclosedVerbatim name) (some .origin)) := by
  generalize hc : (⟨Position.origin.advanceBy d.opening.toList,
    inner ++ (body ++ (d.opening.toList ++ z))⟩ : Cursor) = c
  have hrest : c.rest = inner ++ (body ++ (d.opening.toList ++ z)) := by rw [← hc]
  have hbody : readVerbatim? d name (c.past inner (body ++ (d.opening.toList ++ z))) = none := by
    rw [Option.eq_none_iff_forall_ne_some]
    rintro ⟨found, stop, next⟩ hread
    obtain ⟨hfound, z', hz', heq⟩ := of_readVerbatim? hd h.verbatim hread
    have hclosing := (closesAt_iff hd h.verbatim).2 ⟨z', next.rest, rfl, hz'⟩
    obtain rfl := h.lone found _ heq hclosing
    exact hmet hfound
  rw [read_eq_bind hd.opening_ne_nil, hc, h.opening.readTag_unclosed hd h.verbatim hrest hbody]
  rfl

/-- Behind white space, every closing tag is met. -/
theorem met_of_blank (hd : d.Plain) (h : Enclosed d name inner body z)
    (hblank : ∀ a ∈ d.opening.toList, isBlank a = true) : Met d.opening.toList body := by
  obtain hmet | ⟨before, y, rfl, hy⟩ := met_or_overlaps hd.opening_ne_nil body
  · exact hmet
  · -- the delimiter would be met in the body, and the closing tag begin there
    obtain ⟨x, hx⟩ := hy.again
    have hblanks : ∀ a ∈ x, isBlank a = true := fun a ha => by
      have hmem : a ∈ y ++ d.opening.toList := hx ▸ List.mem_append_right _ ha
      exact hblank a ((List.mem_append.1 hmem).elim (fun h => hy.subset h) id)
    have hclosing := (closesAt_iff hd h.verbatim).2
      ⟨x ++ z, [], rfl, h.closing.blanks hblanks⟩
    have hbefore := h.lone before _ (by
      rw [List.append_nil, ← List.append_assoc _ x, hx]
      simp only [List.append_assoc]) hclosing
    exact absurd (List.self_eq_append_right.1 hbefore) hy.ne_nil

end Enclosed

/-- The shortest opening tag of a name. -/
theorem isOpening_shortest (hd : d.Plain) (hname : name = rawTag ∨ name = commentTag) :
    IsOpening d name (name.toList ++ d.closing.toList) := by
  obtain ⟨a, rest, hclosing, hblank, hnamed⟩ := hd.closing
  obtain ⟨first, hp⟩ := (verbatim_name hname).1
  have hskip : Cursor.skipBlanks ⟨.origin, name.toList ++ d.closing.toList⟩ =
      ⟨.origin, name.toList ++ d.closing.toList⟩ :=
    @Cursor.skipBlanks_eq _ 'p' (first ++ d.closing.toList) (by rw [hp]; rfl) (by decide)
  have hend : ∀ x ∈ d.closing.toList.head?, isNameChar x = false := by
    rw [hclosing]
    rintro x ⟨⟩
    exact hnamed
  generalize hn : Cursor.past ⟨.origin, name.toList ++ d.closing.toList⟩ name.toList
    d.closing.toList = named
  have hrest : named.rest = d.closing.toList := by rw [← hn]; rfl
  have hread := readName_written (isTagName_verbatim hname)
    (c := ⟨.origin, name.toList ++ d.closing.toList⟩) (w := d.closing.toList) rfl hend .origin
  rw [hn] at hread
  have hnamed : named.skipBlanks = named := Cursor.skipBlanks_eq (hrest.trans hclosing) hblank
  refine ⟨named, .empty, named.past d.closing.toList [], by rw [hskip]; exact hread, ?_, rfl⟩
  have heat : named.eat? d.closing.toList = some (named.past d.closing.toList []) :=
    Cursor.eat?_of_rest (by rw [hrest, List.append_nil])
  rw [readAttributes]
  simp [hnamed, heat, hrest, hd.closing_ne_nil]

/-- In a body without slashes no closing tag begins, unless the delimiter is
white space. -/
theorem lone_of_slash_free (hd : d.Plain) (hname : name = rawTag ∨ name = commentTag)
    (hblank : ¬ ∀ a ∈ d.opening.toList, isBlank a = true) (hbody : '/' ∉ body) (u v : List Char)
    (heq : body ++ (d.opening.toList ++ '/' :: (name.toList ++ d.closing.toList)) = u ++ v)
    (hv : ClosesAt d name v) : u = body := by
  obtain ⟨z, r, rfl, hz⟩ := (closesAt_iff hd hname).1 hv
  obtain ⟨before, after, hbefore, -, -, rfl⟩ := hz.slash hd hname
  have hfront : '/' ∉ body ++ d.opening.toList := fun hmem =>
    (List.mem_append.1 hmem).elim hbody hd.slash_opening
  have hback : '/' ∉ name.toList ++ d.closing.toList := fun hmem =>
    (List.mem_append.1 hmem).elim
      (fun h => Bool.noConfusion ((verbatim_name hname).2 _ h)) hd.slash_closing
  have hsplit : (body ++ d.opening.toList) ++ '/' :: (name.toList ++ d.closing.toList) =
      (u ++ (d.opening.toList ++ before)) ++ '/' :: (after ++ r) := by
    rw [List.append_assoc, heq]
    simp only [List.append_assoc, List.cons_append]
  -- the slash is that of the closing tag, so the delimiters before it are the same
  obtain ⟨hsame, -, -⟩ := (List.append_cons_inj_of_notMem hfront hback).1 hsplit
  obtain ⟨y, rfl, hy⟩ | ⟨y, rfl, hy⟩ := List.append_eq_append_iff.1 hsame
  · have hlength := congrArg List.length hy
    simp only [List.length_append] at hlength
    rw [List.length_eq_zero_iff.1 (by omega : y.length = 0), List.append_nil]
  · by_cases hnil : before = []
    · have hlength := congrArg List.length hy
      simp only [hnil, List.append_nil, List.length_append] at hlength
      rw [List.length_eq_zero_iff.1 (by omega : y.length = 0), List.append_nil]
    · exact absurd (fun a ha => hbefore a (subset_of_append_eq hy.symm hnil ha)) hblank

/-- **A body without slashes** is enclosed by its two shortest tags. -/
theorem enclosed_shortest (hd : d.Plain) (hname : name = rawTag ∨ name = commentTag)
    (hblank : ¬ ∀ a ∈ d.opening.toList, isBlank a = true) (hbody : '/' ∉ body) :
    Enclosed d name (name.toList ++ d.closing.toList) body
      ('/' :: (name.toList ++ d.closing.toList)) where
  verbatim := hname
  opening := isOpening_shortest hd hname
  closing := ⟨[], [], [], List.forall_mem_nil _, rfl⟩
  lone := lone_of_slash_free hd hname hblank hbody

/-- **Verbatim bodies are read as they stand** where the search comes to their
closing tag; any other is not found to end. With delimiters whose opening one
is white space or does not overlap itself that is every body. -/
theorem readsVerbatim_iff (hd : d.check = .ok d)
    (hclosing : ∀ a ∈ d.closing.toList.head?, isBlank a = false ∧ isNameChar a = false) :
    (∀ name inner body z, Enclosed d name inner body z →
      (Met d.opening.toList body → ∀ tail, ReadsVerbatim d name inner body z tail) ∧
      (¬ Met d.opening.toList body →
        read d (String.ofList
            (d.opening.toList ++ (inner ++ (body ++ (d.opening.toList ++ z))))) =
          .error (.parse (.unclosedVerbatim name) (some .origin)))) ∧
    ((∀ name inner body z tail, Enclosed d name inner body z →
        ReadsVerbatim d name inner body z tail) ↔
      (∀ a ∈ d.opening.toList, isBlank a = true) ∨ ∀ y, ¬ Overlaps d.opening.toList y) := by
  have hplain := Delimiters.plain_of_check hd hclosing
  refine ⟨fun name inner body z h => ⟨h.readsVerbatim hplain, h.read_eq_error hplain⟩, ?_, ?_⟩
  · intro hall
    by_contra hnot
    simp only [not_or, not_forall, not_not] at hnot
    obtain ⟨⟨a, ha, hblank⟩, y, hy⟩ := hnot
    -- the body is what sets the two delimiters apart
    have henclosed := @enclosed_shortest d rawTag y hplain (.inl rfl) (fun h => hblank (h a ha))
      fun hmem => hplain.slash_opening (hy.subset hmem)
    have hread := hall _ _ _ _ [] henclosed
    rw [ReadsVerbatim, List.append_nil, henclosed.read_eq_error hplain hy.not_met,
      readFrom_end hplain.opening_ne_nil (breakOn_nil hplain.opening_ne_nil)] at hread
    cases hread
  · intro hopening name inner body z tail h
    refine h.readsVerbatim hplain ?_ tail
    obtain hblank | hnone := hopening
    · exact h.met_of_blank hplain hblank
    · obtain hmet | ⟨-, y, -, hy⟩ := met_or_overlaps hplain.opening_ne_nil body
      · exact hmet
      · exact absurd hy (hnone y)

end Token

namespace Sample

open Token

/-- The usual delimiter does not overlap itself. -/
theorem not_overlaps_standard (y : List Char) :
    ¬ Overlaps Delimiters.standard.opening.toList y := by
  rintro ⟨hne, hshort, hagain⟩
  rw [opening_standard] at hshort hagain
  have hone : y.length = 1 := by
    have := List.length_pos_iff.2 hne
    simp only [List.length_cons, List.length_nil] at hshort
    omega
  obtain ⟨c, rfl⟩ := List.length_eq_one_iff.1 hone
  simp at hagain

/-- A body of delimiters, in an opening and a closing tag. -/
theorem readsVerbatim_iff_standard :
    Delimiters.standard.check = .ok .standard ∧
      (∀ a ∈ Delimiters.standard.closing.toList.head?, isBlank a = false ∧ isNameChar a = false) ∧
      ∃ inner z, Enclosed .standard rawTag inner ['\x7b', '~', 'a', '~', '\x7d', '\x7b', '~'] z ∧
        ReadsVerbatim .standard rawTag inner ['\x7b', '~', 'a', '~', '\x7d', '\x7b', '~'] z
          ['b'] := by
  have hclosing : ∀ a ∈ Delimiters.standard.closing.toList.head?,
      isBlank a = false ∧ isNameChar a = false := by
    rintro a ⟨⟩
    decide
  have henclosed := @enclosed_shortest .standard rawTag ['\x7b', '~', 'a', '~', '\x7d', '\x7b', '~']
    (Delimiters.plain_of_check rfl hclosing) (.inl rfl)
    (fun hblank => absurd (hblank '\x7b' (by decide)) (by decide)) (by decide)
  exact ⟨rfl, hclosing, _, _, henclosed,
    (readsVerbatim_iff rfl hclosing).2.2 (.inr not_overlaps_standard) _ _ _ _ _ henclosed⟩

/-- Two braces open a tag and two close it. -/
def braces : Delimiters := ⟨"\x7b\x7b", "\x7d\x7d"⟩

/-- A raw block whose body is one brace. The brace and the first one of the
closing tag are taken for the delimiter, and the closing tag is not seen. -/
theorem brace_hides_closing :
    braces.check = .ok braces ∧
      (∀ a ∈ braces.closing.toList.head?, isBlank a = false ∧ isNameChar a = false) ∧
      Enclosed braces rawTag (rawTag.toList ++ braces.closing.toList) ['\x7b']
        ('/' :: (rawTag.toList ++ braces.closing.toList)) ∧
      read braces "\x7b\x7bprompty.raw\x7d\x7d\x7b\x7b\x7b/prompty.raw\x7d\x7d" =
        .error (.parse (.unclosedVerbatim rawTag) (some .origin)) ∧
      ¬ ReadsVerbatim braces rawTag (rawTag.toList ++ braces.closing.toList) ['\x7b']
          ('/' :: (rawTag.toList ++ braces.closing.toList)) [] := by
  have hclosing : ∀ a ∈ braces.closing.toList.head?, isBlank a = false ∧ isNameChar a = false := by
    rintro a ⟨⟩
    decide
  have hplain := @Delimiters.plain_of_check braces rfl hclosing
  have henclosed := @enclosed_shortest braces rawTag ['\x7b'] hplain (.inl rfl)
    (fun hblank => absurd (hblank '\x7b' (by decide)) (by decide)) (by decide)
  have hoverlaps : Overlaps braces.opening.toList ['\x7b'] :=
    ⟨by decide, by decide, ['\x7b'], rfl⟩
  have hread := henclosed.read_eq_error hplain hoverlaps.not_met
  have hsource : String.ofList (braces.opening.toList ++
      ((rawTag.toList ++ braces.closing.toList) ++ (['\x7b'] ++ (braces.opening.toList ++
        ('/' :: (rawTag.toList ++ braces.closing.toList)))))) =
      "\x7b\x7bprompty.raw\x7d\x7d\x7b\x7b\x7b/prompty.raw\x7d\x7d" := by decide +kernel
  refine ⟨rfl, hclosing, henclosed, hsource ▸ hread, fun hreads => ?_⟩
  rw [ReadsVerbatim, List.append_nil, hread, readFrom_end (by decide) (breakOn_nil (by decide))]
    at hreads
  cases hreads

end Sample

end PromptMarkup
