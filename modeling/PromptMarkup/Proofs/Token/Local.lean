import Mathlib.Data.List.TakeWhile
import PromptMarkup.Proofs.Source.Place
import PromptMarkup.Proofs.Text.Cut
import PromptMarkup.Token.Reader
/-!
# Token — a tag is read from its own text

What a reader finds at a cursor depends on the characters it takes and, where
it takes a longest run, on the one after them. So it finds the same where
the source begins at another position and where more text follows
(`Cursor.Beside`), with all places moved on. For a whole tag this is
`matched_readTag`; a verbatim body needs delimiters that a closing tag cannot
run across (`Delimiters.Apart`).
-/

namespace PromptMarkup

open Text

/-! ## Cursors -/

namespace Cursor

variable {c next : Cursor}

theorem past_past (c : Cursor) (xs ys r s : List Char) :
    (c.past xs r).past ys s = c.past (xs ++ ys) s := by
  simp only [past, Position.advanceBy_append]

theorem run_nil (kind : Char → Bool) (hrest : c.rest = []) : c.run kind = ([], c) := by
  obtain ⟨p, cs⟩ := c
  cases hrest
  rfl

/-- A run goes on by a character of its kind. -/
theorem run_cons (kind : Char → Bool) {a : Char} {rest : List Char} (hrest : c.rest = a :: rest) :
    c.run kind =
      if kind a then (a :: ((c.past [a] rest).run kind).1, ((c.past [a] rest).run kind).2)
      else ([], c) := by
  obtain ⟨p, cs⟩ := c
  cases hrest
  cases ha : kind a <;>
    simp only [run, past, List.takeWhile_cons, List.dropWhile_cons, ha, if_true, if_false,
      Bool.false_eq_true, Position.advanceBy_cons, Position.advanceBy_nil]

/-- A run ends before the first character of another kind. -/
theorem run_eq {kind : Char → Bool} {xs ys : List Char} (hrest : c.rest = xs ++ ys)
    (hxs : ∀ a ∈ xs, kind a = true) (hys : ∀ a ∈ ys.head?, kind a = false) :
    c.run kind = (xs, c.past xs ys) := by
  have hnone : ys.takeWhile kind = [] ∧ ys.dropWhile kind = ys := by
    cases ys with
    | nil => exact ⟨rfl, rfl⟩
    | cons a ys => simp [hys a rfl]
  rw [run, hrest, List.takeWhile_append_of_pos hxs, List.dropWhile_append_of_pos hxs, hnone.1,
    hnone.2, List.append_nil]

theorem run_spec (c : Cursor) (kind : Char → Bool) :
    ∃ xs ys, c.rest = xs ++ ys ∧ (∀ a ∈ xs, kind a = true) ∧ (∀ a ∈ ys.head?, kind a = false) ∧
      c.run kind = (xs, c.past xs ys) := by
  refine ⟨c.rest.takeWhile kind, c.rest.dropWhile kind, List.takeWhile_append_dropWhile.symm,
    fun a ha => ?_, fun a ha => ?_, rfl⟩
  · exact List.mem_takeWhile_imp ha
  · have := List.head?_dropWhile_not kind c.rest
    rwa [Option.mem_def.1 ha] at this

theorem eat?_eq_some_iff {text : List Char} :
    c.eat? text = some next ↔ c.rest = text ++ next.rest ∧ next = c.past text next.rest := by
  rw [eat?, Option.map_eq_some_iff]
  simp only [dropPrefix?_eq_some_iff]
  constructor
  · rintro ⟨r, hr, rfl⟩
    exact ⟨hr, rfl⟩
  · rintro ⟨hrest, hnext⟩
    exact ⟨next.rest, hrest, hnext.symm⟩

/-- A text behind white space, that does not itself begin with any. -/
theorem eat?_skipBlanks_eq_some_iff {a : Char} {text : List Char} (ha : isBlank a = false) :
    c.skipBlanks.eat? (a :: text) = some next ↔
      ∃ blanks, (∀ x ∈ blanks, isBlank x = true) ∧ c.rest = blanks ++ (a :: text) ++ next.rest ∧
        next = c.past (blanks ++ (a :: text)) next.rest := by
  rw [eat?_eq_some_iff, skipBlanks]
  constructor
  · obtain ⟨xs, ys, hrest, hxs, -, hrun⟩ := c.run_spec isBlank
    rw [hrun]
    rintro ⟨hys, hnext⟩
    refine ⟨xs, hxs, ?_, by rw [hnext, past_past]; rfl⟩
    rw [hrest, show ys = _ from hys, List.append_assoc]
  · rintro ⟨blanks, hblanks, hrest, hnext⟩
    rw [List.append_assoc] at hrest
    have hhead : ∀ x ∈ (a :: text ++ next.rest).head?, isBlank x = false := by
      rintro x ⟨⟩
      exact ha
    rw [run_eq hrest hblanks hhead]
    exact ⟨rfl, by rw [past_past]; exact hnext⟩

theorem rest_ne_nil_of_eat? {text : List Char} (h : c.eat? text = some next) (htext : text ≠ []) :
    c.rest ≠ [] := by
  rw [(eat?_eq_some_iff.1 h).1]
  exact List.append_ne_nil_of_left_ne_nil htext _

theorem rest_ne_nil_of_skipBlanks (h : c.skipBlanks.rest ≠ []) : c.rest ≠ [] := by
  rw [← List.length_pos_iff] at h ⊢
  exact lt_of_lt_of_le h c.skipBlanks_length_le

end Cursor

/-! ## The same place of a source -/

/-- Two positions after the same beginning of a source, which for the second
begins at `q`. -/
def Position.Beside (source : List Char) (q p p' : Position) : Prop :=
  ∃ before, before <+: source ∧ p = origin.advanceBy before ∧ p' = q.advanceBy before

/-- Two cursors at the same place of a source, which for the second begins at
`q` and has `more` behind it. -/
def Cursor.Beside (source : List Char) (q : Position) (more : List Char) (c c' : Cursor) : Prop :=
  ∃ before, source = before ++ c.rest ∧ c.position = Position.origin.advanceBy before ∧
    c' = ⟨q.advanceBy before, c.rest ++ more⟩

variable {source more : List Char} {q : Position}

namespace Position.Beside

variable {p p' : Position}

/-- The second position is the first one moved on. -/
theorem eq_behind (h : Position.Beside source q p p') : p' = Position.behind q p := by
  obtain ⟨before, -, rfl, rfl⟩ := h
  rw [behind_advanceBy]

theorem offset_eq (h : Position.Beside source q p p') : p'.offset = q.offset + p.offset := by
  rw [h.eq_behind, behind]

theorem edge (h : Position.Beside source q p p') : Edge source p.offset := by
  obtain ⟨before, hprefix, rfl, -⟩ := h
  exact ⟨before, hprefix, by simp [origin]⟩

end Position.Beside

namespace Cursor.Beside

variable {c c' next : Cursor}

theorem position (h : Beside source q more c c') :
    Position.Beside source q c.position c'.position := by
  obtain ⟨before, rfl, hposition, rfl⟩ := h
  exact ⟨before, List.prefix_append _ _, hposition, rfl⟩

theorem suffix (h : Beside source q more c c') : c.rest <:+ source := by
  obtain ⟨before, rfl, -⟩ := h
  exact List.suffix_append _ _

theorem rest_eq (h : Beside source q more c c') : c'.rest = c.rest ++ more := by
  obtain ⟨before, -, -, rfl⟩ := h
  rfl

theorem past (h : Beside source q more c c') {xs rest : List Char} (hrest : c.rest = xs ++ rest) :
    Beside source q more (c.past xs rest) (c'.past xs (rest ++ more)) := by
  obtain ⟨before, rfl, hposition, rfl⟩ := h
  refine ⟨before ++ xs, by simp [Cursor.past, hrest], ?_, ?_⟩
  · rw [Cursor.past, hposition, Position.advanceBy_append]
  · simp only [Cursor.past, Position.advanceBy_append]

/-- A run is the same where something ends it. -/
theorem run (h : Beside source q more c c') {kind : Char → Bool}
    (hend : (c.run kind).2.rest ≠ []) :
    ∃ next', c'.run kind = ((c.run kind).1, next') ∧
      Beside source q more (c.run kind).2 next' := by
  obtain ⟨xs, ys, hrest, hxs, hys, hrun⟩ := c.run_spec kind
  rw [hrun] at hend ⊢
  have hrest' : c'.rest = xs ++ (ys ++ more) := by rw [h.rest_eq, hrest, List.append_assoc]
  have hhead : (ys ++ more).head? = ys.head? := by
    cases ys with
    | nil => exact absurd rfl hend
    | cons a ys => rfl
  exact ⟨_, Cursor.run_eq hrest' hxs (hhead ▸ hys), h.past hrest⟩

theorem skipBlanks (h : Beside source q more c c') (hend : c.skipBlanks.rest ≠ []) :
    Beside source q more c.skipBlanks c'.skipBlanks := by
  obtain ⟨next', hrun, hnext⟩ := h.run hend
  rw [Cursor.skipBlanks, Cursor.skipBlanks, hrun]
  exact hnext

theorem eat? (h : Beside source q more c c') {text : List Char}
    (heat : c.eat? text = some next) :
    ∃ next', c'.eat? text = some next' ∧ Beside source q more next next' := by
  obtain ⟨hrest, hnext⟩ := eat?_eq_some_iff.1 heat
  refine ⟨c'.past text (next.rest ++ more), eat?_eq_some_iff.2 ⟨?_, rfl⟩, ?_⟩
  · rw [h.rest_eq, hrest, List.append_assoc]
    rfl
  · rw [hnext]
    exact h.past hrest

theorem eat?_eq_none (h : Beside source q more c c') {text : List Char}
    (heat : c.eat? text = none) (hlength : text.length ≤ c.rest.length) :
    c'.eat? text = none := by
  rw [Cursor.eat?, Option.map_eq_none_iff] at heat ⊢
  rw [h.rest_eq]
  exact dropPrefix?_append_eq_none heat hlength more

/-- A cut is made in the same place. -/
theorem breakOn (h : Beside source q more c c') {sep before after : List Char}
    (hbreak : Text.breakOn sep c.rest = some (before, after)) :
    Beside source q more (c.past (before ++ sep) after)
        (c'.past (before ++ sep) (after ++ more)) ∧
      Position.Beside source q (c.position.advanceBy before) (c'.position.advanceBy before) ∧
      Text.breakOn sep c'.rest = some (before, after ++ more) := by
  have hrest := eq_of_breakOn hbreak
  rw [List.append_assoc] at hrest
  exact ⟨h.past (by rw [hrest, List.append_assoc]), (h.past hrest).position,
    h.rest_eq ▸ breakOn_append hbreak more⟩

end Cursor.Beside

namespace Token

open Cursor (Beside)

variable {c c' next : Cursor} {start start' : Position}

/-! ## Parts of a tag -/

theorem beside_readName (h : Beside source q more c c') {name : String}
    (hread : readName start c = .ok (name, next)) (hend : next.rest ≠ []) (start' : Position) :
    ∃ next', readName start' c' = .ok (name, next') ∧ Beside source q more next next' := by
  rw [readName] at hread
  split at hread
  · cases hread
  · next ch rest hrest =>
    split at hread
    · next hch =>
      cases hread
      obtain ⟨next', hrun, hnext⟩ := h.run hend
      have hrest' : c'.rest = ch :: (rest ++ more) := by rw [h.rest_eq, hrest, List.cons_append]
      refine ⟨next', ?_, hnext⟩
      rw [readName, hrest']
      simp only [hch, if_true, hrun]
      rfl
    · cases hread

theorem readLiteral?_quote (unescape : Char → List Char) (quote : Char) (p : Position)
    (rest : List Char) :
    readLiteral? unescape quote p (quote :: rest) = some ([], ⟨p.advance quote, rest⟩) := by
  rw [readLiteral?.eq_def]
  simp

theorem readLiteral?_escape {unescape : Char → List Char} {quote : Char} (hquote : '\\' ≠ quote)
    (p : Position) (d : Char) (rest : List Char) :
    readLiteral? unescape quote p ('\\' :: d :: rest) =
      (readLiteral? unescape quote ((p.advance '\\').advance d) rest).map fun (value, next) =>
        (unescape d ++ value, next) := by
  rw [readLiteral?.eq_def]
  simp [hquote]

theorem readLiteral?_plain {unescape : Char → List Char} {quote c : Char} (hquote : c ≠ quote)
    (hslash : c ≠ '\\') (p : Position) (rest : List Char) :
    readLiteral? unescape quote p (c :: rest) =
      (readLiteral? unescape quote (p.advance c) rest).map fun (value, next) =>
        (c :: value, next) := by
  rw [readLiteral?.eq_def]
  simp [hquote, hslash]

/-- A literal is read from its own characters, whatever is behind them. -/
theorem local_readLiteral? {unescape : Char → List Char} {quote : Char} {p : Position}
    {cs value : List Char} (hread : readLiteral? unescape quote p cs = some (value, next)) :
    ∃ taken, cs = taken ++ next.rest ∧ next.position = p.advanceBy taken ∧
      ∀ p' more, readLiteral? unescape quote p' (taken ++ more) =
        some (value, ⟨p'.advanceBy taken, more⟩) := by
  fun_induction readLiteral? unescape quote p cs generalizing value with
  | case1 => cases hread
  | case2 p rest =>
    cases hread
    exact ⟨[quote], rfl, rfl, fun p' more => readLiteral?_quote _ _ _ _⟩
  | case3 => cases hread
  | case4 p d rest hquote ih =>
    obtain ⟨⟨v, n⟩, hvalue, heq⟩ := Option.map_eq_some_iff.1 hread
    cases heq
    obtain ⟨taken, hrest, hposition, hlocal⟩ := ih hvalue
    refine ⟨'\\' :: d :: taken, by rw [hrest]; rfl, hposition, fun p' more => ?_⟩
    rw [List.cons_append, List.cons_append, readLiteral?_escape hquote, hlocal]
    rfl
  | case5 p c rest hquote hslash ih =>
    obtain ⟨⟨v, n⟩, hvalue, heq⟩ := Option.map_eq_some_iff.1 hread
    cases heq
    obtain ⟨taken, hrest, hposition, hlocal⟩ := ih hvalue
    refine ⟨c :: taken, by rw [hrest]; rfl, hposition, fun p' more => ?_⟩
    rw [List.cons_append, readLiteral?_plain hquote hslash, hlocal]
    rfl

theorem beside_readQuoted (h : Beside source q more c c') {value : String}
    (hread : readQuoted start c = .ok (value, next)) (start' : Position) :
    ∃ next', readQuoted start' c' = .ok (value, next') ∧ Beside source q more next next' := by
  rw [readQuoted] at hread
  split at hread
  · cases hread
  · next quote rest hrest =>
    split at hread
    · next hquote =>
      split at hread
      · next v n hvalue =>
        cases hread
        obtain ⟨taken, rfl, hposition, hlocal⟩ := local_readLiteral? hvalue
        refine ⟨c'.past (quote :: taken) (next.rest ++ more), ?_, ?_⟩
        · rw [readQuoted, h.rest_eq, hrest]
          simp only [List.cons_append, List.append_assoc, if_pos hquote, hlocal]
          rfl
        · have hnext : next = c.past (quote :: taken) next.rest := by
            cases next
            exact congrArg (Cursor.mk · _) hposition
          rw [hnext]
          exact h.past hrest
      · cases hread
    · cases hread

theorem rest_ne_nil_of_readQuoted {value : String}
    (hread : readQuoted start c = .ok (value, next)) : c.rest ≠ [] := by
  have := readQuoted_length hread
  exact List.length_pos_iff.1 (by omega)

theorem beside_readAttribute (h : Beside source q more c c') {name value : String}
    (hread : readAttribute start c = .ok (name, value, next)) (start' : Position) :
    ∃ next', readAttribute start' c' = .ok (name, value, next') ∧
      Beside source q more next next' := by
  simp only [readAttribute] at hread
  split at hread
  · cases hread
  · next hname =>
    split at hread
    · cases hread
    · next sign hsign =>
      split at hread
      · cases hread
      · next v n hvalue =>
        cases hread
        -- the sign ends the name and the white space behind it
        have hblanks := Cursor.rest_ne_nil_of_eat? hsign (List.cons_ne_nil _ _)
        have hrun := Cursor.rest_ne_nil_of_skipBlanks hblanks
        obtain ⟨named', hrun', hnamed⟩ := h.run hrun
        obtain ⟨sign', hsign', hsigned⟩ := (hnamed.skipBlanks hblanks).eat? hsign
        obtain ⟨next', hvalue', hnext⟩ :=
          beside_readQuoted (hsigned.skipBlanks (rest_ne_nil_of_readQuoted hvalue)) hvalue start'
        refine ⟨next', ?_, hnext⟩
        simp only [readAttribute, hrun', hsign', hvalue']
        rw [if_neg hname]

/-! ## Attributes -/

theorem closing_le_of_readAttributes {closing : List Char} {attrs attrs' : Attributes}
    {shape : TagShape} (hread : readAttributes closing start attrs c = .ok (shape, attrs', next)) :
    closing.length ≤ c.rest.length := by
  fun_induction readAttributes closing start attrs c with
  | case1 => cases hread
  | case2 _ c here _ n heat =>
    have := Cursor.eat?_length heat
    have : here.rest.length ≤ _ := c.skipBlanks_length_le
    omega
  | case3 _ c here _ _ slash hslash n heat =>
    have := Cursor.eat?_length heat
    have := Cursor.eat?_length hslash
    have := slash.skipBlanks_length_le
    have : here.rest.length ≤ _ := c.skipBlanks_length_le
    omega
  | case4 => cases hread
  | case5 => cases hread
  | case6 _ c here _ _ _ name value n hn ih =>
    have := ih hread
    have := readAttribute_length hn
    have : here.rest.length ≤ _ := c.skipBlanks_length_le
    omega

theorem beside_readAttributes {closing : List Char} (hclosing : closing ≠ [])
    (h : Beside source q more c c') {attrs attrs' : Attributes} {shape : TagShape}
    (hread : readAttributes closing start attrs c = .ok (shape, attrs', next))
    (start' : Position) :
    ∃ next', readAttributes closing start' attrs c' = .ok (shape, attrs', next') ∧
      Beside source q more next next' := by
  suffices go : ∀ c', Beside source q more c c' →
      ∃ next', readAttributes closing start' attrs c' = .ok (shape, attrs', next') ∧
        Beside source q more next next' from go c' h
  clear h
  fun_induction readAttributes closing start attrs c with
  | case1 => cases hread
  | case2 attrs c here hne n heat =>
    cases hread
    intro c' h
    have hhere : Beside source q more here c'.skipBlanks :=
      h.skipBlanks (Cursor.rest_ne_nil_of_eat? heat hclosing)
    obtain ⟨next', heat', hnext⟩ := hhere.eat? heat
    have hne' := Cursor.rest_ne_nil_of_eat? heat' hclosing
    refine ⟨next', ?_, hnext⟩
    rw [readAttributes]
    simp [hne', heat']
  | case3 attrs c here hne hopen slash hslash n heat =>
    cases hread
    intro c' h
    have hhere : Beside source q more here c'.skipBlanks :=
      h.skipBlanks (Cursor.rest_ne_nil_of_eat? hslash (List.cons_ne_nil _ _))
    obtain ⟨slash', hslash', hslashed⟩ := hhere.eat? hslash
    obtain ⟨next', heat', hnext⟩ :=
      (hslashed.skipBlanks (Cursor.rest_ne_nil_of_eat? heat hclosing)).eat? heat
    have hne' := Cursor.rest_ne_nil_of_eat? hslash' (List.cons_ne_nil _ _)
    have hopen' := hhere.eat?_eq_none hopen (by
      have := Cursor.eat?_length heat
      have := Cursor.eat?_length hslash
      have := slash.skipBlanks_length_le
      omega)
    refine ⟨next', ?_, hnext⟩
    rw [readAttributes]
    simp [hne', hopen', hslash', heat']
  | case4 => cases hread
  | case5 => cases hread
  | case6 attrs c here hne hopen hslash name value n hn ih =>
    intro c' h
    have hlength := closing_le_of_readAttributes hread
    have hless := readAttribute_length hn
    have hhere : Beside source q more here c'.skipBlanks :=
      h.skipBlanks (List.length_pos_iff.1 (Nat.zero_lt_of_lt hless))
    obtain ⟨n', hn', hnamed⟩ := beside_readAttribute hhere hn start'
    obtain ⟨next', hread', hnext⟩ := ih hread n' hnamed
    have hopen' := hhere.eat?_eq_none hopen (hlength.trans hless.le)
    have hslash' := hhere.eat?_eq_none hslash (Nat.succ_le_of_lt (Nat.zero_lt_of_lt hless))
    have hne' := List.length_pos_iff.1 (Nat.zero_lt_of_lt (readAttribute_length hn'))
    refine ⟨next', ?_, hnext⟩
    rw [readAttributes]
    simp only [List.isEmpty_iff, hne', if_false, hopen', hslash']
    rw [← hread']
    split
    · next heq => rw [hn'] at heq; cases heq
    · next heq => rw [hn'] at heq; cases heq; rfl

/-! ## Verbatim bodies -/

/-- What stands behind the opening delimiter in a closing tag. -/
def IsClosing (closing name z : List Char) : Prop :=
  ∃ before within after, (∀ a ∈ before ++ within ++ after, isBlank a = true) ∧
    z = before ++ '/' :: (within ++ name ++ (after ++ closing))

/-- A character of none of its parts is in no closing tag. -/
theorem IsClosing.notMem {closing name z : List Char} (hz : IsClosing closing name z) {a : Char}
    (hblank : isBlank a = false) (hname : a ∉ name) (hslash : a ≠ '/') (hclosing : a ∉ closing) :
    a ∉ z := by
  obtain ⟨u, v, w, hblanks, rfl⟩ := hz
  have hout : a ∉ u ++ v ++ w := by
    intro hmem
    rw [hblanks a hmem] at hblank
    cases hblank
  simp only [List.mem_append, List.mem_cons, not_or] at hout ⊢
  exact ⟨hout.1.1, hslash, ⟨hout.1.2, hname⟩, hout.2, hclosing⟩

/-- A closing tag is read where one is written. -/
theorem readClosing?_eq_some_iff {a b : Char} {closing rest : List Char} {name : String}
    (hname : name.toList = b :: rest) (hb : isBlank b = false) (ha : isBlank a = false) :
    readClosing? (a :: closing) name c = some next ↔
      ∃ z, IsClosing (a :: closing) name.toList z ∧ c.rest = z ++ next.rest ∧
        next = c.past z next.rest := by
  have hslash : isBlank '/' = false := by decide
  simp only [readClosing?, Option.bind_eq_some_iff, hname,
    Cursor.eat?_skipBlanks_eq_some_iff hslash, Cursor.eat?_skipBlanks_eq_some_iff hb,
    Cursor.eat?_skipBlanks_eq_some_iff ha]
  constructor
  · rintro ⟨c₁, ⟨u, hu, hc, hc₁⟩, c₂, ⟨v, hv, hr₁, hc₂⟩, w, hw, hr₂, hn⟩
    refine ⟨u ++ '/' :: (v ++ (b :: rest) ++ (w ++ a :: closing)), ⟨u, v, w, ?_, rfl⟩, ?_, ?_⟩
    · simp only [List.forall_mem_append]
      exact ⟨⟨hu, hv⟩, hw⟩
    · simp [hc, hr₁, hr₂]
    · refine hn.trans ?_
      rw [hc₂, hc₁, Cursor.past_past, Cursor.past_past]
      simp
  · rintro ⟨z, ⟨u, v, w, hblank, rfl⟩, hrest, hn⟩
    simp only [List.forall_mem_append] at hblank
    refine ⟨c.past (u ++ ['/']) (v ++ (b :: rest) ++ (w ++ a :: closing) ++ next.rest),
      ⟨u, hblank.1.1, by simp [hrest, Cursor.past], rfl⟩,
      c.past (u ++ ['/'] ++ (v ++ b :: rest)) (w ++ a :: closing ++ next.rest),
      ⟨v, hblank.1.2, by simp [Cursor.past], by rw [Cursor.past_past]; rfl⟩,
      w, hblank.2, by simp [Cursor.past], ?_⟩
    rw [hn, Cursor.past_past]
    simp [Cursor.past]

/-- The name of a verbatim tag begins with a letter and is made of characters
of names. -/
theorem verbatim_name {name : String} (h : name = rawTag ∨ name = commentTag) :
    (∃ rest, name.toList = 'p' :: rest) ∧ ∀ a ∈ name.toList, isNameChar a = true := by
  rcases h with rfl | rfl
  · exact ⟨⟨"rompty.raw".toList, rfl⟩, List.all_eq_true.1 (by decide)⟩
  · exact ⟨⟨"rompty.comment".toList, rfl⟩, List.all_eq_true.1 (by decide)⟩

end Token

/-- A tag can be told from the closing tag of a verbatim body before it ends:
the opening delimiter has a character that such a closing tag does not go on
with. -/
structure Delimiters.Apart (d : Delimiters) : Prop where
  closing : ∃ a rest, d.closing.toList = a :: rest ∧ isBlank a = false
  opening : ∃ a ∈ d.opening.toList, isBlank a = false ∧ Token.isNameChar a = false ∧ a ≠ '/' ∧
    a ∉ d.closing.toList

theorem Delimiters.apart_standard : Delimiters.standard.Apart where
  closing := ⟨'~', ['\x7d'], rfl, by decide⟩
  opening := ⟨'\x7b', by decide⟩

theorem Delimiters.Apart.closing_ne_nil {d : Delimiters} (h : d.Apart) :
    d.closing.toList ≠ [] := by
  obtain ⟨a, rest, heq, -⟩ := h.closing
  rw [heq]
  exact List.cons_ne_nil _ _

namespace Token

open Cursor (Beside)

variable {d : Delimiters} {c c' next : Cursor} {start start' : Position} {name : String}

theorem beside_readClosing? (hd : d.Apart) (hname : name = rawTag ∨ name = commentTag)
    (h : Beside source q more c c')
    (hread : readClosing? d.closing.toList name c = some next) :
    ∃ next', readClosing? d.closing.toList name c' = some next' ∧
      Beside source q more next next' := by
  obtain ⟨rest, hp⟩ := (verbatim_name hname).1
  obtain ⟨a, closing, hclosing, ha⟩ := hd.closing
  rw [hclosing, readClosing?_eq_some_iff hp (by decide) ha] at hread
  obtain ⟨z, hz, hrest, hnext⟩ := hread
  refine ⟨c'.past z (next.rest ++ more), ?_, hnext ▸ h.past hrest⟩
  rw [hclosing, readClosing?_eq_some_iff hp (by decide) ha]
  exact ⟨z, hz, by rw [h.rest_eq, hrest, List.append_assoc]; rfl, rfl⟩

/-- Where no closing tag is written before an opening delimiter, more text at
the end of the source makes none. -/
theorem beside_readClosing?_eq_none (hd : d.Apart) (hname : name = rawTag ∨ name = commentTag)
    (h : Beside source q more c c') (hread : readClosing? d.closing.toList name c = none)
    (hlater : ∀ a ∈ d.opening.toList, a ∈ c.rest) :
    readClosing? d.closing.toList name c' = none := by
  obtain ⟨⟨rest, hp⟩, hchars⟩ := verbatim_name hname
  obtain ⟨a, closing, hclosing, ha⟩ := hd.closing
  obtain ⟨x, hx, hblank, hnamed, hslash, hapart⟩ := hd.opening
  rw [Option.eq_none_iff_forall_ne_some]
  intro next' hread'
  rw [hclosing, readClosing?_eq_some_iff hp (by decide) ha, ← hclosing, h.rest_eq] at hread'
  obtain ⟨z, hz, hrest, -⟩ := hread'
  rcases List.append_eq_append_iff.1 hrest with ⟨beyond, rfl, -⟩ | ⟨left, hleft, -⟩
  · -- the closing tag would run across the delimiter
    have hmem : x ∈ c.rest ++ beyond := List.mem_append_left _ (hlater x hx)
    have hout : x ∉ name.toList := fun hm => Bool.noConfusion (hnamed.symm.trans (hchars x hm))
    exact absurd hmem (hz.notMem hblank hout hslash hapart)
  · have hsome : readClosing? d.closing.toList name c = some (c.past z left) := by
      rw [hclosing] at hz ⊢
      exact (readClosing?_eq_some_iff hp (by decide) ha).2 ⟨z, hz, hleft, rfl⟩
    rw [hread] at hsome
    cases hsome

theorem opening_mem_of_readVerbatim? {body : List Char} {stop : Nat}
    (hread : readVerbatim? d name c = some (body, stop, next)) :
    ∀ a ∈ d.opening.toList, a ∈ c.rest := by
  rw [readVerbatim?] at hread
  split at hread
  · cases hread
  · next before after hbreak =>
    rw [eq_of_breakOn hbreak]
    simp +contextual

/-- A verbatim body ends before the first delimiter with a closing tag behind
it. -/
theorem readVerbatim?_of_closing {before after : List Char}
    (hbreak : breakOn d.opening.toList c.rest = some (before, after))
    (hclosing : readClosing? d.closing.toList name (c.past (before ++ d.opening.toList) after) =
      some next) :
    readVerbatim? d name c = some (before, (c.position.advanceBy before).offset, next) := by
  rw [readVerbatim?]
  split
  · next hnone => rw [hbreak] at hnone; cases hnone
  · next hsome =>
    rw [hbreak] at hsome
    cases hsome
    simp only [hclosing]

/-- Any other delimiter is part of it. -/
theorem readVerbatim?_of_none {before after body : List Char} {stop : Nat}
    (hopening : d.opening.toList ≠ [])
    (hbreak : breakOn d.opening.toList c.rest = some (before, after))
    (hclosing : readClosing? d.closing.toList name (c.past (before ++ d.opening.toList) after) =
      none)
    (hread : readVerbatim? d name (c.past (before ++ d.opening.toList) after) =
      some (body, stop, next)) :
    readVerbatim? d name c = some (before ++ d.opening.toList ++ body, stop, next) := by
  rw [readVerbatim?]
  split
  · next hnone => rw [hbreak] at hnone; cases hnone
  · next hsome =>
    rw [hbreak] at hsome
    cases hsome
    simp only [hclosing, dif_neg hopening, hread, Option.map_some]

/-- **A verbatim body** is read from its own text. -/
theorem beside_readVerbatim? (hd : d.Apart) (hname : name = rawTag ∨ name = commentTag)
    (h : Beside source q more c c') {body : List Char} {stop : Nat}
    (hread : readVerbatim? d name c = some (body, stop, next)) :
    ∃ next', readVerbatim? d name c' = some (body, q.offset + stop, next') ∧
      Beside source q more next next' ∧ Edge source stop := by
  suffices go : ∀ body, readVerbatim? d name c = some (body, stop, next) →
      ∀ c', Beside source q more c c' →
        ∃ next', readVerbatim? d name c' = some (body, q.offset + stop, next') ∧
          Beside source q more next next' ∧ Edge source stop from go body hread c' h
  clear h hread
  fun_induction readVerbatim? d name c with
  | case1 => rintro _ ⟨⟩
  | case2 c before after hbreak inner n hn =>
    rintro _ ⟨⟩ c' h
    obtain ⟨hinner, hstop, hbreak'⟩ := h.breakOn hbreak
    obtain ⟨next', hnext', hnext⟩ := beside_readClosing? hd hname hinner hn
    refine ⟨next', ?_, hnext, hstop.edge⟩
    rw [readVerbatim?_of_closing hbreak' hnext', hstop.offset_eq]
  | case3 => rintro _ ⟨⟩
  | case4 c before after hbreak inner hclosing hopening ih =>
    intro body hread c' h
    obtain ⟨⟨body, stop', n⟩, hread, heq⟩ := Option.map_eq_some_iff.1 hread
    cases heq
    obtain ⟨hinner, hstop, hbreak'⟩ := h.breakOn hbreak
    have hnone := beside_readClosing?_eq_none hd hname hinner hclosing
      (opening_mem_of_readVerbatim? hread)
    obtain ⟨next', hread', hnext⟩ := ih body hread _ hinner
    exact ⟨next', readVerbatim?_of_none hopening hbreak' hnone hread', hnext⟩

/-! ## Tokens -/

/-- The token in its new place. -/
def relocate (r : Relocation) (token : Token) : Token :=
  ⟨token.piece, token.span.relocate r, r.position token.position⟩

/-- The token begins and ends between characters of the source, and its
position is where it begins. -/
structure Placed (source : List Char) (token : Token) : Prop where
  start : ∃ before, before <+: source ∧ token.position = Position.origin.advanceBy before ∧
    token.span.start = bytes before
  stop : Edge source token.span.stop

/-- What stays in its place is unchanged. -/
theorem Placed.relocate_origin {token : Token} (h : token.Placed source) :
    token.relocate (.behind .origin) = token := by
  obtain ⟨before, -, hposition, -⟩ := h.start
  obtain ⟨piece, ⟨start, stop⟩, position⟩ := token
  obtain rfl : position = _ := hposition
  have hoffset : Position.origin.offset = 0 := rfl
  simp only [relocate, Span.relocate, Relocation.behind, hoffset, Nat.zero_add,
    Position.behind_advanceBy]

theorem Placed.edge {token : Token} (h : token.Placed source) : Edge source token.span.start := by
  obtain ⟨before, hprefix, -, hstart⟩ := h.start
  exact ⟨before, hprefix, hstart⟩

/-- A token that begins and ends at places beside one another is the other
one, moved on. -/
theorem beside_token {p p' : Position} (hp : Position.Beside source q p p') {stop stop' : Nat}
    (hstop : stop' = q.offset + stop) (hedge : Edge source stop) (piece : Piece) :
    (⟨piece, ⟨p'.offset, stop'⟩, p'⟩ : Token) =
        relocate (.behind q) ⟨piece, ⟨p.offset, stop⟩, p⟩ ∧
      Placed source ⟨piece, ⟨p.offset, stop⟩, p⟩ := by
  refine ⟨?_, ?_, hedge⟩
  · rw [relocate, Span.relocate, Relocation.behind, hp.offset_eq, hstop, hp.eq_behind]
  · obtain ⟨before, hprefix, rfl, -⟩ := hp
    exact ⟨before, hprefix, rfl, by simp [Position.origin]⟩

/-- What has been read at one place has been read at the other. -/
structure Matched (source : List Char) (q : Position) (more : List Char)
    (token token' : Option Token) (next next' : Cursor) : Prop where
  eq_map : token' = token.map (relocate (.behind q))
  placed : ∀ t ∈ token, t.Placed source
  next : Beside source q more next next'

theorem matched_none (hnext : Beside source q more c c') :
    Matched source q more none none c c' :=
  ⟨rfl, by rintro t ⟨⟩, hnext⟩

theorem matched_some (hstart : Position.Beside source q start start') {stop stop' : Nat}
    (hstop : stop' = q.offset + stop) (hedge : Edge source stop) (hnext : Beside source q more c c')
    (piece : Piece) :
    Matched source q more (some ⟨piece, ⟨start.offset, stop⟩, start⟩)
      (some ⟨piece, ⟨start'.offset, stop'⟩, start'⟩) c c' := by
  obtain ⟨htoken, hplaced⟩ := beside_token hstart hstop hedge piece
  refine ⟨congrArg some htoken, ?_, hnext⟩
  rintro t ⟨⟩
  exact hplaced

theorem matched_verbatim (hstart : Position.Beside source q start start') {stop : Nat}
    (hedge : Edge source stop) (hnext : Beside source q more c c') (body : List Char) :
    Matched source q more (verbatimToken? name body start stop)
      (verbatimToken? name body start' (q.offset + stop)) c c' := by
  simp only [verbatimToken?]
  split
  · exact matched_some hstart rfl hedge hnext _
  · split
    · exact matched_none hnext
    · exact matched_some hstart rfl hedge hnext _

theorem rest_ne_nil_of_readName (hread : readName start c = .ok (name, next)) : c.rest ≠ [] :=
  List.length_pos_iff.1 (Nat.zero_lt_of_lt (readName_length hread))

theorem matched_readClosingTag (hd : d.Apart) (hstart : Position.Beside source q start start')
    (h : Beside source q more c c') {token : Option Token}
    (hread : readClosingTag d start c = .ok (token, next)) :
    ∃ token' next', readClosingTag d start' c' = .ok (token', next') ∧
      Matched source q more token token' next next' := by
  rw [readClosingTag] at hread
  split at hread
  · cases hread
  · next named n hnamed =>
    split at hread
    · cases hread
    · next last hlast =>
      cases hread
      have hblanks := Cursor.rest_ne_nil_of_eat? hlast hd.closing_ne_nil
      obtain ⟨n', hnamed', hn⟩ := beside_readName (h.skipBlanks (rest_ne_nil_of_readName hnamed))
        hnamed (Cursor.rest_ne_nil_of_skipBlanks hblanks) start'
      obtain ⟨last', hlast', hnext⟩ := (hn.skipBlanks hblanks).eat? hlast
      refine ⟨_, last', ?_,
        matched_some hstart hnext.position.offset_eq hnext.position.edge hnext (.closing named)⟩
      rw [readClosingTag, hnamed']
      simp only [hlast']
      rfl

theorem rest_ne_nil_of_readAttributes {closing : List Char} (hclosing : closing ≠ [])
    {attrs attrs' : Attributes} {shape : TagShape}
    (hread : readAttributes closing start attrs c = .ok (shape, attrs', next)) : c.rest ≠ [] := by
  have := closing_le_of_readAttributes hread
  have := List.length_pos_iff.2 hclosing
  exact List.length_pos_iff.1 (by omega)

theorem matched_readOpeningTag (hd : d.Apart) (hstart : Position.Beside source q start start')
    (h : Beside source q more c c') {token : Option Token}
    (hread : readOpeningTag d start c = .ok (token, next)) :
    ∃ token' next', readOpeningTag d start' c' = .ok (token', next') ∧
      Matched source q more token token' next next' := by
  rw [readOpeningTag] at hread
  split at hread
  · cases hread
  · next name n hname =>
    split at hread
    · cases hread
    · next shape attrs last hattrs =>
      obtain ⟨n', hname', hn⟩ := beside_readName h hname
        (rest_ne_nil_of_readAttributes hd.closing_ne_nil hattrs) start'
      obtain ⟨last', hattrs', hlast⟩ := beside_readAttributes hd.closing_ne_nil hn hattrs start'
      simp only [readOpeningTag, hname', hattrs']
      split at hread
      · next hverbatim =>
        rw [if_pos hverbatim]
        cases shape with
        | selfClosing =>
          cases hread
          exact ⟨none, last', rfl, matched_none hlast⟩
        | block =>
          simp only at hread ⊢
          split at hread
          · cases hread
          · next body stop after hbody =>
            cases hread
            obtain ⟨next', hbody', hnext, hstop⟩ := beside_readVerbatim? hd hverbatim hlast hbody
            simp only [hbody']
            exact ⟨_, next', rfl, matched_verbatim hlast.position hstop hnext body⟩
      · next hverbatim =>
        cases hread
        rw [if_neg hverbatim]
        exact ⟨_, last', rfl,
          matched_some hstart hlast.position.offset_eq hlast.position.edge hlast _⟩

/-- **A tag is read from its own text.** -/
theorem matched_readTag (hd : d.Apart) (hstart : Position.Beside source q start start')
    (h : Beside source q more c c') {token : Option Token}
    (hread : readTag d start c = .ok (token, next)) :
    ∃ token' next', readTag d start' c' = .ok (token', next') ∧
      Matched source q more token token' next next' := by
  rw [readTag] at hread
  split at hread
  · next slash hslash =>
    have hskip := h.skipBlanks (Cursor.rest_ne_nil_of_eat? hslash (List.cons_ne_nil _ _))
    obtain ⟨slash', hslash', hslashed⟩ := hskip.eat? hslash
    simp only [readTag, hslash']
    exact matched_readClosingTag hd hstart hslashed hread
  · next hslash =>
    have hrest : c.skipBlanks.rest ≠ [] := by
      rw [readOpeningTag] at hread
      split at hread
      · cases hread
      · next hname => exact rest_ne_nil_of_readName hname
    have hskip := h.skipBlanks hrest
    have hslash' := hskip.eat?_eq_none hslash (List.length_pos_iff.2 hrest)
    simp only [readTag, hslash']
    exact matched_readOpeningTag hd hstart hskip hread

end Token

end PromptMarkup
