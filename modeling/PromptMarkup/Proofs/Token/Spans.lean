import PromptMarkup.Proofs.Token.Written
/-!
# Token — tokens stand one behind the other

The tokens of a source cover parts of it that follow one another, with gaps
between them where raw text and comments leave their tags out (`Laid`,
`laid_read`). So each token covers a text of the source, the one of a tag from
its opening to its closing delimiter (`Laid.cut`), and ends before the next one
starts (`Laid.pairwise`).
-/

namespace PromptMarkup

open Text

/-! ## Texts in a source -/

namespace Text

/-- Of two beginnings of a text, the one with fewer bytes is a beginning of the
other. -/
theorem prefix_of_bytes_le {xs ys text : List Char} (hx : xs <+: text) (hy : ys <+: text)
    (hle : bytes xs ≤ bytes ys) : xs <+: ys := by
  rcases List.prefix_or_prefix_of_prefix hx hy with h | ⟨w, rfl⟩
  · exact h
  · have hnone : bytes w = 0 := by
      rw [bytes_append] at hle
      omega
    simp [bytes_eq_zero_iff.1 hnone]

end Text

/-- The span covers this text, at some place of the source. -/
def Span.Holds (source : List Char) (span : Span) (body : List Char) : Prop :=
  ∃ before after, source = before ++ (body ++ after) ∧
    span = ⟨bytes before, bytes before + bytes body⟩

namespace Span.Holds

variable {source body u v : List Char} {span first last : Span}

/-- A cursor stands before a text that is in the source. -/
theorem of_onward {source : String} {c : Cursor} {behind : List Char}
    (h : (Cursor.ofSource source).Onward c) (hrest : c.rest = body ++ behind) :
    Holds source.toList ⟨c.offset, (c.past body behind).offset⟩ body := by
  obtain ⟨before, hsource, hposition⟩ := h
  rw [hposition]
  refine ⟨before, behind, hrest ▸ hsource, ?_⟩
  simp [Cursor.offset, Cursor.past, Cursor.ofSource, Position.origin]

theorem slice_eq (h : span.Holds source body) : span.slice source = String.ofList body := by
  obtain ⟨before, after, rfl, rfl⟩ := h
  rw [slice, dropBytes_bytes, Nat.add_sub_cancel_left, takeBytes_bytes]

theorem edge_start (h : span.Holds source body) : Edge source span.start := by
  obtain ⟨before, after, rfl, rfl⟩ := h
  exact ⟨before, List.prefix_append _ _, rfl⟩

theorem edge_stop (h : span.Holds source body) : Edge source span.stop := by
  obtain ⟨before, after, rfl, rfl⟩ := h
  refine ⟨before ++ body, ?_, (bytes_append _ _).symm⟩
  rw [← List.append_assoc]
  exact List.prefix_append _ _

theorem start_le_stop (h : span.Holds source body) : span.start ≤ span.stop := by
  obtain ⟨before, after, rfl, rfl⟩ := h
  exact Nat.le_add_right _ _

/-- What stands from one span to another behind it begins with what the one
covers and ends with what the other does. -/
theorem across (hfirst : first.Holds source u) (hlast : last.Holds source v)
    (hle : first.stop ≤ last.start) :
    ∃ mid, Holds source ⟨first.start, last.stop⟩ (u ++ (mid ++ v)) := by
  obtain ⟨before, after, rfl, rfl⟩ := hfirst
  obtain ⟨before', after', heq, rfl⟩ := hlast
  have hprefix : before ++ u <+: before' := by
    refine prefix_of_bytes_le ⟨after, List.append_assoc _ _ _⟩ ?_ ?_
    · exact heq ▸ List.prefix_append _ _
    · rwa [bytes_append]
  obtain ⟨mid, rfl⟩ := hprefix
  refine ⟨mid, before, after', ?_, ?_⟩
  · rw [heq]
    simp only [List.append_assoc]
  · simp only [bytes_append, Nat.add_assoc]

end Span.Holds

namespace Token

variable {d : Delimiters} {c next last : Cursor} {tokens more : List Token}

/-! ## Tokens between two cursors -/

/-- The tokens stand between two cursors, one behind the other. A tag is
covered with both of its delimiters. -/
inductive Laid (d : Delimiters) : Cursor → List Token → Cursor → Prop
  | nil {c last : Cursor} (honward : c.Onward last) : Laid d c [] last
  | cons {c first last : Cursor} {piece : Piece} {body behind : List Char} {rest : List Token}
      (hfirst : c.Onward first) (hbody : first.rest = body ++ behind)
      (htag : piece.tag?.isSome → ∃ content, body = d.around content)
      (hrest : Laid d (first.past body behind) rest last) :
      Laid d c
        (⟨piece, ⟨first.offset, (first.past body behind).offset⟩, first.position⟩ :: rest) last

theorem Laid.of_onward (h : Laid d next tokens last) (honward : c.Onward next) :
    Laid d c tokens last := by
  cases h with
  | nil h => exact .nil (honward.trans h)
  | cons hfirst hbody htag hrest => exact .cons (honward.trans hfirst) hbody htag hrest

theorem Laid.append (h : Laid d c tokens next) (hmore : Laid d next more last) :
    Laid d c (tokens ++ more) last := by
  induction h with
  | nil honward => exact hmore.of_onward honward
  | cons hfirst hbody htag _ ih => exact .cons hfirst hbody htag (ih hmore)

/-- A text stands where it was read. -/
theorem laid_textToken? (honward : c.Onward next) (body : List Char) :
    Laid d c (textToken? body c.position next.offset) next := by
  rw [textToken?]
  split
  · exact .nil honward
  · obtain ⟨passed, hrest, hnext⟩ := honward
    rw [hnext]
    exact .cons (Cursor.onward_refl c) hrest (by rintro ⟨⟩) (.nil (Cursor.onward_refl _))

/-- And so does what is read behind an opening delimiter. -/
theorem Covers.laid {after : List Char} {token : Option Token}
    (h : Covers d c.position (c.past d.opening.toList after) next token)
    (hrest : c.rest = d.opening.toList ++ after) : Laid d c token.toList next := by
  have hopened : c.Onward (c.past d.opening.toList after) := Cursor.onward_past hrest
  cases h with
  | nothing honward => exact .nil (hopened.trans honward)
  | tag hlast hclosing =>
    -- from the opening delimiter to the closing one
    have hafter := (hopened.trans hlast).trans (Cursor.onward_eat? hclosing)
    obtain ⟨content, hcontent, -⟩ := hlast
    have hbody : c.rest = d.around content ++ next.rest := by
      have hlater : after = content ++ (d.closing.toList ++ next.rest) := by
        rw [← (Cursor.eat?_eq_some_iff.1 hclosing).1]
        exact hcontent
      simp only [hrest, hlater, Delimiters.around, List.append_assoc]
    rw [hafter.eq_past hbody]
    exact .cons (Cursor.onward_refl c) hbody (fun _ => ⟨content, rfl⟩)
      (.nil (Cursor.onward_refl _))
  | body hpiece hfirst hbody hnext =>
    exact .cons (hopened.trans hfirst) hbody (by simp [hpiece]) (.nil hnext)

/-- **What is read on from a cursor** stands behind it, with the text that
waits. -/
theorem laid_readFrom {pending : List Char} {start : Position} :
    ∀ tokens, readFrom d pending start c = .ok tokens →
      ∀ first : Cursor, first.position = start → first.Onward c →
        ∃ last, Laid d first tokens last := by
  fun_induction readFrom d pending start c with
  | case1 pending start c =>
    rintro _ ⟨⟩ first rfl honward
    exact ⟨c, laid_textToken? honward pending⟩
  | case2 pending start c =>
    rintro _ ⟨⟩ first rfl honward
    have hlast := honward.trans (Cursor.onward_past (List.append_nil c.rest).symm)
    exact ⟨_, laid_textToken? hlast _⟩
  | case3 pending start c _ before after hbreak inner _ ih =>
    intro tokens h first hstart honward
    exact ih tokens h first hstart (honward.trans (Cursor.onward_past (eq_of_breakOn hbreak)))
  | case4 => rintro _ ⟨⟩
  | case5 => rintro _ ⟨⟩
  | case6 pending start c _ before after hbreak inner _ here token next htag more hmore ih =>
    rintro _ ⟨⟩ first rfl honward
    have hrest : c.rest = before ++ (d.opening.toList ++ after) := by
      rw [eq_of_breakOn hbreak, List.append_assoc]
    have hhere := honward.trans (Cursor.onward_past hrest)
    have hinner : inner = (c.past before (d.opening.toList ++ after)).past d.opening.toList after :=
      (Cursor.past_past _ _ _ _ _).symm
    have hcovers := covers_readTag htag
    rw [hinner] at hcovers
    obtain ⟨last, hlast⟩ := ih more hmore next rfl (Cursor.onward_refl next)
    exact ⟨last, ((laid_textToken? hhere _).append (hcovers.laid rfl)).append hlast⟩

/-- **The tokens of a source stand in it**, one behind the other. -/
theorem laid_read {source : String} (h : read d source = .ok tokens) :
    ∃ last, Laid d (.ofSource source) tokens last :=
  laid_readFrom tokens h _ rfl (Cursor.onward_refl _)

/-! ## Spans -/

/-- The token covers a text of the source, which is a tag if the token is one. -/
def Cut (d : Delimiters) (source : List Char) (token : Token) : Prop :=
  ∃ body, token.span.Holds source body ∧
    (token.piece.tag?.isSome → ∃ content, body = d.around content)

/-- **A token covers what it was read from.** -/
theorem Laid.cut {source : String} (h : Laid d c tokens last)
    (hc : (Cursor.ofSource source).Onward c) : ∀ token ∈ tokens, token.Cut d source.toList := by
  induction h with
  | nil => exact List.forall_mem_nil _
  | @cons c first last piece body behind rest hfirst hbody htag hrest ih =>
    have hin := hc.trans hfirst
    exact List.forall_mem_cons.2
      ⟨⟨body, .of_onward hin hbody, htag⟩, ih (hin.trans (Cursor.onward_past hbody))⟩

/-- Tokens start behind the cursor that they are read from. -/
theorem Laid.offset_le (h : Laid d c tokens last) :
    ∀ token ∈ tokens, c.offset ≤ token.span.start := by
  have hle : ∀ {c next : Cursor}, c.Onward next → c.offset ≤ next.offset := by
    rintro c next ⟨passed, -, hnext⟩
    rw [hnext]
    simp [Cursor.offset, Cursor.past]
  induction h with
  | nil => exact List.forall_mem_nil _
  | cons hfirst hbody _ _ ih =>
    refine List.forall_mem_cons.2 ⟨hle hfirst, fun token htoken => ?_⟩
    exact ((hle hfirst).trans (hle (Cursor.onward_past hbody))).trans (ih token htoken)

/-- **A token ends before the next one starts.** -/
theorem Laid.pairwise (h : Laid d c tokens last) :
    tokens.Pairwise (·.span.stop ≤ ·.span.start) := by
  induction h with
  | nil => exact .nil
  | cons _ _ _ hrest ih => exact .cons hrest.offset_le ih

end Token

end PromptMarkup
