import PromptMarkup.Proofs.Token.Local
/-!
# Token — reading one source behind another

The tokens of two sources put together are those of the first and those of
the second, moved on, and only where a text ends at the seam and another one
begins there the two become one (`Joined`). That needs a seam at which no
delimiter comes about, and none is escaped (`Delimiters.Unjoined`).

What is carried through the reading is the text not yet made a token: at the
end of the first source it waits in front of the second
(`readFrom_continue`), and there it goes before whatever is read
(`readFrom_pending`).
-/

namespace PromptMarkup

open Text

/-- Nothing new comes about where two texts meet: no delimiter begins in the
first and ends in the second, and the first does not escape one. -/
structure Delimiters.Unjoined (d : Delimiters) (u v : List Char) : Prop where
  clear : ∀ x, x <:+ u → breakOn d.opening.toList x = none → Clear d.opening.toList x v
  plain : u.getLast? = some '\\' → ¬ d.opening.toList <+: v

namespace Delimiters

variable {d : Delimiters} {u v x : List Char}

theorem Unjoined.suffix (h : d.Unjoined u v) (hx : x <:+ u) : d.Unjoined x v where
  clear y hy := h.clear y (hy.trans hx)
  plain hlast := h.plain (by
    obtain ⟨w, rfl⟩ := hx
    rw [List.getLast?_append, hlast]
    rfl)

theorem Apart.opening_ne_nil (h : d.Apart) : d.opening.toList ≠ [] := by
  obtain ⟨a, ha, -⟩ := h.opening
  exact List.ne_nil_of_mem ha

/-- Nothing comes about at the end of a source. -/
theorem unjoined_nil (hopening : d.opening.toList ≠ []) (u : List Char) : d.Unjoined u [] where
  clear x _ hnone y hy _ := by
    rw [List.append_nil]
    exact dropPrefix?_of_breakOn_eq_none hnone hy
  plain _ hprefix := hopening (List.prefix_nil.1 hprefix)

/-- The usual delimiter has two characters, so it comes about where one of
them ends a text and the other begins the next. -/
theorem unjoined_standard (hslash : ¬ (u.getLast? = some '\\' ∧ ['\x7b', '~'] <+: v))
    (hbrace : ¬ (u.getLast? = some '\x7b' ∧ v.head? = some '~')) :
    Delimiters.standard.Unjoined u v where
  clear x hx hnone := by
    refine clear_pair hnone fun hlast hhead => hbrace ⟨?_, hhead⟩
    obtain ⟨w, rfl⟩ := hx
    rw [List.getLast?_append, hlast]
    rfl
  plain hlast hprefix := hslash ⟨hlast, hprefix⟩

end Delimiters

namespace Token

open Cursor (Beside)

variable {d : Delimiters} {source more : List Char} {q : Position} {c c' : Cursor}
  {start start' : Position} {pending : List Char} {tokens : List Token}

/-! ## Steps of the reading -/

/-- What is done at the next opening delimiter, or at the end where there is
none. -/
theorem readFrom_eq (hopening : d.opening.toList ≠ []) (pending : List Char) (start : Position)
    (c : Cursor) :
    readFrom d pending start c =
      match breakOn d.opening.toList c.rest with
      | none => .ok (textToken? (pending ++ c.rest) start (c.position.advanceBy c.rest).offset)
      | some (before, after) =>
        let inner := c.past (before ++ d.opening.toList) after
        if before.getLast? = some '\\' then
          readFrom d (pending ++ before.dropLast ++ d.opening.toList) start inner
        else
          match readTag d (c.position.advanceBy before) inner with
          | .error failure => .error failure
          | .ok (token, next) =>
            (readFrom d [] next.position next).map
              (textToken? (pending ++ before) start (c.position.advanceBy before).offset ++
                token.toList ++ ·) := by
  rw [readFrom]
  split
  · next hempty =>
    rw [List.isEmpty_iff] at hempty
    simp only [hempty, breakOn_nil hopening, List.append_nil, Position.advanceBy_nil, Cursor.offset]
  · split
    · next hnone => simp only [hnone]
    · next before after hsome =>
      simp only [hsome]
      split
      · rfl
      · split
        · next htag => simp only [htag]
        · next htag =>
          simp only [htag]
          split
          · next hmore => simp only [hmore, Except.map]
          · next hmore => simp only [hmore, Except.map]

theorem readFrom_end (hopening : d.opening.toList ≠ [])
    (hbreak : breakOn d.opening.toList c.rest = none) (pending : List Char) (start : Position) :
    readFrom d pending start c =
      .ok (textToken? (pending ++ c.rest) start (c.position.advanceBy c.rest).offset) := by
  rw [readFrom_eq hopening, hbreak]

theorem readFrom_escape {before after : List Char} (hopening : d.opening.toList ≠ [])
    (hbreak : breakOn d.opening.toList c.rest = some (before, after))
    (hlast : before.getLast? = some '\\') (pending : List Char) (start : Position) :
    readFrom d pending start c =
      readFrom d (pending ++ before.dropLast ++ d.opening.toList) start
        (c.past (before ++ d.opening.toList) after) := by
  rw [readFrom_eq hopening, hbreak]
  simp only [hlast, if_true]

theorem readFrom_tag {before after : List Char} {token : Option Token} {next : Cursor}
    (hopening : d.opening.toList ≠ [])
    (hbreak : breakOn d.opening.toList c.rest = some (before, after))
    (hlast : before.getLast? ≠ some '\\')
    (htag : readTag d (c.position.advanceBy before) (c.past (before ++ d.opening.toList) after) =
      .ok (token, next)) (pending : List Char) (start : Position) :
    readFrom d pending start c =
      (readFrom d [] next.position next).map
        (textToken? (pending ++ before) start (c.position.advanceBy before).offset ++
          token.toList ++ ·) := by
  rw [readFrom_eq hopening, hbreak]
  simp only [hlast, if_false, htag]

/-- **Text in which no delimiter begins** waits to be made a token. -/
theorem readFrom_text (hopening : d.opening.toList ≠ []) {u v : List Char}
    (hrest : c.rest = u ++ v) (hclear : Clear d.opening.toList u v)
    (hplain : u.getLast? = some '\\' → ¬ d.opening.toList <+: v) (pending : List Char)
    (start : Position) :
    readFrom d pending start c = readFrom d (pending ++ u) start (c.past u v) := by
  rw [readFrom_eq hopening, readFrom_eq hopening, hrest, breakOn_append_of_clear hclear]
  simp only [Cursor.past]
  cases hbreak : breakOn d.opening.toList v with
  | none => simp only [Option.map_none, Position.advanceBy_append, List.append_assoc]
  | some cut =>
    obtain ⟨before, after⟩ := cut
    simp only [Option.map_some, List.append_assoc, Position.advanceBy_append]
    have hlast : (u ++ before).getLast? = some '\\' ↔ before.getLast? = some '\\' := by
      rw [List.getLast?_append]
      cases before with
      | nil =>
        have hprefix : d.opening.toList <+: v := by
          rw [eq_of_breakOn hbreak]
          exact List.prefix_append _ _
        simpa using fun hu => hplain hu hprefix
      | cons a before => simp [List.getLast?_cons]
    simp only [hlast]
    split
    · next hescape =>
      have hne : before ≠ [] := by
        rintro rfl
        cases hescape
      rw [List.dropLast_append_of_ne_nil hne, List.append_assoc]
    · rfl

/-! ## Texts -/

/-- The tokens of two sources one behind the other, `q` being the seam. A text
that ends there and one that begins there are one. -/
inductive Joined (q : Position) : List Token → List Token → List Token → Prop
  | apart {xs ys : List Token} : Joined q xs ys (xs ++ ys)
  | merged {xs ys : List Token} {p : Position} {stop : Nat} {u v : String} :
      Joined q (xs ++ [⟨.text u, ⟨p.offset, q.offset⟩, p⟩]) (⟨.text v, ⟨q.offset, stop⟩, q⟩ :: ys)
        (xs ++ ⟨.text (u ++ v), ⟨p.offset, stop⟩, p⟩ :: ys)

theorem Joined.append {xs ys zs : List Token} (h : Joined q xs ys zs) (front : List Token) :
    Joined q (front ++ xs) ys (front ++ zs) := by
  cases h with
  | apart =>
    rw [← List.append_assoc]
    exact .apart
  | merged =>
    rw [← List.append_assoc, ← List.append_assoc]
    exact .merged

theorem textToken?_of_ne_nil {body : List Char} (h : body ≠ []) (start : Position) (stop : Nat) :
    textToken? body start stop = [⟨.text (String.ofList body), ⟨start.offset, stop⟩, start⟩] := by
  cases body with
  | nil => exact absurd rfl h
  | cons => rfl

theorem joined_text {u v : List Char} (hu : u ≠ []) {p : Position} {stop : Nat}
    (hv : v = [] → stop = q.offset) (rest : List Token) :
    Joined q (textToken? u p q.offset) (textToken? v q stop ++ rest)
      (textToken? (u ++ v) p stop ++ rest) := by
  rw [textToken?_of_ne_nil hu, textToken?_of_ne_nil (List.append_ne_nil_of_left_ne_nil hu v)]
  cases v with
  | nil =>
    rw [hv rfl, List.append_nil]
    exact .apart
  | cons a v =>
    rw [textToken?_of_ne_nil (List.cons_ne_nil a v), String.ofList_append]
    exact @Joined.merged q [] rest _ _ _ _

/-- **Text that waits** goes before whatever is read. -/
theorem readFrom_pending (hopening : d.opening.toList ≠ []) {u : List Char} (hu : u ≠ [])
    (p : Position) (hread : readFrom d pending q c = .ok tokens)
    (hq : pending = [] → q = c.position) :
    ∃ joined, readFrom d (u ++ pending) p c = .ok joined ∧
      Joined q (textToken? u p q.offset) tokens joined := by
  suffices go : ∀ tokens, readFrom d pending q c = .ok tokens → (pending = [] → q = c.position) →
      ∃ joined, readFrom d (u ++ pending) p c = .ok joined ∧
        Joined q (textToken? u p q.offset) tokens joined from go tokens hread hq
  clear hread hq
  fun_induction readFrom d pending q c with
  | case1 pending q c hrest =>
    rintro _ ⟨⟩ hq
    rw [List.isEmpty_iff] at hrest
    have hjoined := joined_text (p := p) hu (fun h => congrArg Position.offset (hq h).symm) []
    refine ⟨_, readFrom_end hopening (by rw [hrest, breakOn_nil hopening]) _ _, ?_⟩
    simpa [hrest, Cursor.offset] using hjoined
  | case2 pending q c hrest hbreak =>
    rintro _ ⟨⟩ hq
    have hempty : pending ++ c.rest = [] → (c.position.advanceBy c.rest).offset = q.offset :=
      fun h => absurd h (by simp_all)
    have hjoined := joined_text (p := p) hu hempty []
    refine ⟨_, readFrom_end hopening hbreak _ _, ?_⟩
    simpa using hjoined
  | case3 pending q c hrest before after hbreak inner hescape ih =>
    intro tokens hread _
    obtain ⟨joined, hjoin, hjoined⟩ := ih tokens hread (by simp [hopening])
    refine ⟨joined, ?_, hjoined⟩
    rw [readFrom_escape hopening hbreak hescape, ← hjoin]
    simp [inner]
  | case4 => rintro _ ⟨⟩
  | case5 => rintro _ ⟨⟩
  | case6 pending q c hrest before after hbreak inner hescape here token next htag more hmore ih =>
    rintro _ ⟨⟩ hq
    have hempty : pending ++ before = [] → here.offset = q.offset := by
      intro hnil
      obtain ⟨rfl, rfl⟩ := List.append_eq_nil_iff.1 hnil
      rw [hq rfl]
      rfl
    have hjoined := joined_text (p := p) hu hempty (token.toList ++ more)
    refine ⟨_, by rw [readFrom_tag hopening hbreak hescape htag, hmore]; rfl, ?_⟩
    simpa [here] using hjoined

/-! ## The seam -/

/-- A text token has the place of its text. -/
theorem beside_textToken? (hstart : Position.Beside source q start start') {stop : Nat}
    (hedge : Edge source stop) (body : List Char) :
    textToken? body start' (q.offset + stop) =
        (textToken? body start stop).map (relocate (.behind q)) ∧
      ∀ t ∈ textToken? body start stop, t.Placed source := by
  obtain ⟨htoken, hplaced⟩ := beside_token hstart rfl hedge (.text (String.ofList body))
  rw [textToken?, textToken?]
  split
  · exact ⟨rfl, List.forall_mem_nil _⟩
  · exact ⟨congrArg (fun t => [t]) htoken, by simpa using hplaced⟩

/-- At the end of the source the second cursor stands before what follows. -/
theorem beside_end (h : Beside source q more c c') :
    (c.position.advanceBy c.rest).offset = bytes source ∧
      c'.past c.rest more = ⟨q.advanceBy source, more⟩ := by
  obtain ⟨before, rfl, hposition, rfl⟩ := h
  constructor
  · rw [hposition, ← Position.advanceBy_append, Position.offset_advanceBy]
    exact Nat.zero_add _
  · rw [Cursor.past, ← Position.advanceBy_append]

/-- **A source is read to its end** as if nothing followed it. What is read
behind it begins with the text that is left, of which only the start
counts. -/
theorem readFrom_continue (hd : d.Apart) (hread : readFrom d pending start c = .ok tokens)
    (hstart : Position.Beside source q start start') (h : Beside source q more c c')
    (hpending : pending = [] → start = c.position) (hseam : d.Unjoined c.rest more) :
    ∃ front left p p', tokens = front ++ textToken? left p (bytes source) ∧
      (∀ t ∈ front, t.Placed source) ∧ Position.Beside source q p p' ∧
      (left = [] → p' = q.advanceBy source) ∧
      readFrom d pending start' c' =
        (readFrom d left p' ⟨q.advanceBy source, more⟩).map
          (front.map (relocate (.behind q)) ++ ·) := by
  have hopening := hd.opening_ne_nil
  suffices go : ∀ tokens, readFrom d pending start c = .ok tokens → ∀ start' c',
      Position.Beside source q start start' → Beside source q more c c' →
      (pending = [] → start = c.position) → d.Unjoined c.rest more →
      ∃ front left p p', tokens = front ++ textToken? left p (bytes source) ∧
        (∀ t ∈ front, t.Placed source) ∧ Position.Beside source q p p' ∧
        (left = [] → p' = q.advanceBy source) ∧
        readFrom d pending start' c' =
          (readFrom d left p' ⟨q.advanceBy source, more⟩).map
            (front.map (relocate (.behind q)) ++ ·) from
    go tokens hread start' c' hstart h hpending hseam
  clear hread hstart h hpending hseam
  fun_induction readFrom d pending start c with
  | case1 pending start c hrest =>
    rintro _ ⟨⟩ start' c' hstart h hpending -
    rw [List.isEmpty_iff] at hrest
    obtain ⟨hstop, hend⟩ := beside_end h
    rw [hrest] at hstop hend
    have hc' : c' = ⟨q.advanceBy source, more⟩ := by
      rw [← hend, Cursor.past, Position.advanceBy_nil, ← List.nil_append more, ← hrest, ← h.rest_eq]
    refine ⟨[], pending, start, start', congrArg _ hstop, List.forall_mem_nil _, hstart,
      fun hnil => ?_, ?_⟩
    · rw [hstart.eq_behind, hpending hnil, ← h.position.eq_behind, hc']
    · rw [hc']
      cases readFrom d pending start' ⟨q.advanceBy source, more⟩ <;> rfl
  | case2 pending start c hrest hbreak =>
    rintro _ ⟨⟩ start' c' hstart h hpending hseam
    obtain ⟨hstop, hend⟩ := beside_end h
    have hne : pending ++ c.rest ≠ [] := by simp_all
    refine ⟨[], pending ++ c.rest, start, start', by rw [hstop]; rfl, List.forall_mem_nil _,
      hstart, fun hnil => absurd hnil hne, ?_⟩
    rw [readFrom_text hopening h.rest_eq (hseam.clear c.rest List.suffix_rfl hbreak) hseam.plain,
      hend]
    cases readFrom d (pending ++ c.rest) start' ⟨q.advanceBy source, more⟩ <;> rfl
  | case3 pending start c hrest before after hbreak inner hescape ih =>
    intro tokens hread start' c' hstart h hpending hseam
    obtain ⟨hinner, -, hbreak'⟩ := h.breakOn hbreak
    have hsuffix : after <:+ c.rest := eq_of_breakOn hbreak ▸ List.suffix_append _ _
    rw [readFrom_escape hopening hbreak' hescape]
    exact ih tokens hread start' _ hstart hinner (by simp [hopening]) (hseam.suffix hsuffix)
  | case4 => rintro _ ⟨⟩
  | case5 => rintro _ ⟨⟩
  | case6 pending start c hrest before after hbreak inner hescape here token next htag more' hmore
      ih =>
    rintro _ ⟨⟩ start' c' hstart h hpending hseam
    obtain ⟨hinner, hhere, hbreak'⟩ := h.breakOn hbreak
    obtain ⟨token', next', htag', hmatched⟩ := matched_readTag hd hhere hinner htag
    have hsuffix : next.rest <:+ c.rest := by
      have hless : next.rest.length < after.length := readTag_length htag
      have hlength := length_of_breakOn hbreak
      exact List.suffix_of_suffix_length_le hmatched.next.suffix h.suffix (by omega)
    obtain ⟨front, left, p, p', rfl, hplaced, hp, hleft, hread'⟩ :=
      ih more' hmore next'.position next' hmatched.next.position hmatched.next (fun _ => rfl)
        (hseam.suffix hsuffix)
    obtain ⟨htext, hplaced'⟩ := beside_textToken? hstart hhere.edge (pending ++ before)
    refine ⟨textToken? (pending ++ before) start here.offset ++ token.toList ++ front, left, p, p',
      ?_, ?_, hp, hleft, ?_⟩
    · simp only [List.append_assoc]
    · simp only [List.forall_mem_append, Option.mem_toList]
      exact ⟨⟨hplaced', hmatched.placed⟩, hplaced⟩
    · rw [readFrom_tag hopening hbreak' hescape htag', hread', hhere.offset_eq, htext,
        hmatched.eq_map]
      cases readFrom d left p' ⟨q.advanceBy source, more⟩ with
      | error failure => rfl
      | ok last => cases token <;> simp [Except.map, here]

/-- **A source is read alike wherever it begins.** -/
theorem readFrom_relocate (hd : d.Apart) {source : String} (hread : read d source = .ok tokens)
    (q : Position) :
    readFrom d [] q ⟨q, source.toList⟩ = .ok (tokens.map (relocate (.behind q))) ∧
      ∀ t ∈ tokens, t.Placed source.toList := by
  have hstart : Position.Beside source.toList q .origin q := ⟨[], List.nil_prefix, rfl, rfl⟩
  have h : Beside source.toList q [] (.ofSource source) ⟨q, source.toList⟩ :=
    ⟨[], rfl, rfl, by simp [Cursor.ofSource]⟩
  obtain ⟨front, left, p, p', rfl, hplaced, hp, -, hread'⟩ := readFrom_continue hd hread hstart h
    (fun _ => rfl) (Delimiters.unjoined_nil hd.opening_ne_nil _)
  obtain ⟨htext, hplaced'⟩ := beside_textToken? hp ⟨_, List.prefix_rfl, rfl⟩ left
  refine ⟨?_, List.forall_mem_append.2 ⟨hplaced, hplaced'⟩⟩
  rw [hread', readFrom_end hd.opening_ne_nil (breakOn_nil hd.opening_ne_nil), List.map_append,
    ← htext]
  simp [Except.map]

/-- **Two sources are read one behind the other** where nothing new comes about
at the seam. -/
theorem read_append (hd : d.Apart) {s₁ s₂ : String} {tokens₁ tokens₂ : List Token}
    (h₁ : read d s₁ = .ok tokens₁) (h₂ : read d s₂ = .ok tokens₂)
    (hseam : d.Unjoined s₁.toList s₂.toList) :
    ∃ joined, read d (s₁ ++ s₂) = .ok joined ∧
      Joined (Position.origin.advanceBy s₁.toList) tokens₁
        (tokens₂.map (relocate (.behind (Position.origin.advanceBy s₁.toList)))) joined := by
  obtain ⟨hsecond, -⟩ := readFrom_relocate hd h₂ (Position.origin.advanceBy s₁.toList)
  have hstart : Position.Beside s₁.toList .origin .origin .origin := ⟨[], List.nil_prefix, rfl, rfl⟩
  have h : Beside s₁.toList .origin s₂.toList (.ofSource s₁) (.ofSource (s₁ ++ s₂)) :=
    ⟨[], rfl, rfl, by simp [Cursor.ofSource]⟩
  obtain ⟨front, left, p, p', rfl, hplaced, hp, hleft, hread⟩ :=
    readFrom_continue hd h₁ hstart h (fun _ => rfl) hseam
  obtain rfl : p' = p := by
    obtain ⟨before, -, rfl, rfl⟩ := hp
    rfl
  have hfront : front.map (relocate (.behind .origin)) = front :=
    (List.map_congr_left fun t ht => (hplaced t ht).relocate_origin).trans (List.map_id front)
  have hoffset : (Position.origin.advanceBy s₁.toList).offset = bytes s₁.toList := by
    simp [Position.origin]
  rw [read, hread, hfront]
  by_cases hnil : left = []
  · rw [hnil, hleft hnil, hsecond]
    refine ⟨_, rfl, ?_⟩
    simpa [textToken?] using Joined.apart
  · obtain ⟨joined, hjoin, hjoined⟩ := readFrom_pending hd.opening_ne_nil hnil p' hsecond
      (fun _ => rfl)
    rw [List.append_nil] at hjoin
    rw [hjoin, ← hoffset]
    exact ⟨_, rfl, hjoined.append front⟩

end Token

end PromptMarkup
