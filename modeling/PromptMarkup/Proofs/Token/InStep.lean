import PromptMarkup.Proofs.Source.InStep
import PromptMarkup.Proofs.Token.Counted
import PromptMarkup.Proofs.Token.Onward
/-!
# Token — a counter keeps to the cursor

A counter follows a cursor when the two stand at the same place and the counter
is right about the text before it (`Counter.Follows`). Each reader with a counter
does what the reader with a cursor does, and keeps the two together (`InStep`),
whether it moves past single characters, jumps over a text, or asks for a
position on the way. So either way of reading a source gives the same tokens, in
the same places, or refuses it with the same failure (`Counted.read_eq`).
-/

namespace PromptMarkup

open Text

variable {source : List Char}

/-- The counter stands where the cursor does, and is right about the text before
it. -/
def Counter.Follows (source : List Char) (k : Counter) (c : Cursor) : Prop :=
  ∃ before, source = before ++ c.rest ∧ c.position = .recount before ∧ k.Right before

namespace Counter.Follows

variable {k : Counter} {c next : Cursor}

theorem rest_eq (h : k.Follows source c) : k.rest source = c.rest := by
  obtain ⟨before, hsource, -, hright⟩ := h
  rw [Counter.rest, hright.offset, hsource, dropBytes_bytes]

theorem offset_eq (h : k.Follows source c) : k.offset = c.offset := by
  obtain ⟨before, -, hposition, hright⟩ := h
  rw [hright.offset, Cursor.offset, hposition, Position.recount]

theorem bytes_source (h : k.Follows source c) : bytes source = k.offset + bytes c.rest := by
  obtain ⟨before, hsource, -, hright⟩ := h
  rw [hright.offset, hsource, bytes_append]

/-- A counter is behind the whole source when nothing is left to read. -/
theorem le_offset_iff (h : k.Follows source c) : bytes source ≤ k.offset ↔ c.rest = [] := by
  rw [h.bytes_source, ← bytes_eq_zero_iff]
  omega

theorem not_le_offset (h : k.Follows source c) (hrest : ¬ c.rest.isEmpty) :
    ¬ bytes source ≤ k.offset := by
  rwa [h.le_offset_iff, ← List.isEmpty_iff]

theorem onward (h : k.Follows source c) : (Cursor.mk .origin source).Onward c := by
  obtain ⟨before, hsource, hposition, -⟩ := h
  obtain ⟨p, cs⟩ := c
  refine ⟨before, hsource, congrArg (Cursor.mk · cs) ?_⟩
  rw [Position.advanceBy_origin]
  exact hposition

/-- Asked for its position, it gives that of the cursor, and follows on. -/
theorem position_eq (h : k.Follows source c) :
    (k.position source).1 = c.position ∧ (k.position source).2.Follows source c := by
  obtain ⟨before, hsource, hposition, hright⟩ := h
  obtain ⟨hasked, hstill⟩ := hright.position_eq hsource
  exact ⟨hasked.trans hposition.symm, before, hsource, hposition, hstill⟩

/-- **It follows past a character.** -/
theorem pass (h : k.Follows source c) {ch : Char} {rest : List Char} (hrest : c.rest = ch :: rest) :
    (k.pass ch).Follows source (c.past [ch] rest) := by
  obtain ⟨before, hsource, hposition, hright⟩ := h
  refine ⟨before ++ [ch], ?_, ?_, hright.pass ch⟩
  · rw [hsource, hrest, List.append_assoc]
    rfl
  · rw [← Position.advanceBy_recount, ← hposition]
    rfl

/-- **It follows over any text**, in one jump. -/
theorem advanceTo (h : k.Follows source c) (honward : c.Onward next) :
    (k.advanceTo source next.offset).Follows source next := by
  obtain ⟨before, hsource, hposition, hright⟩ := h
  obtain ⟨passed, hrest, hnext⟩ := honward
  have hplace : next.position = .recount (before ++ passed) := by
    rw [hnext, ← Position.advanceBy_recount, ← hposition]
    rfl
  have hoffset : next.offset = k.offset + bytes passed := by
    rw [Cursor.offset, hplace, Position.recount, bytes_append, hright.offset]
  rw [hrest] at hsource
  refine ⟨before ++ passed, by rw [hsource, List.append_assoc], hplace, ?_⟩
  rw [hoffset]
  exact hright.advanceTo hsource

theorem next?_eq (h : k.Follows source c) {ch : Char} {rest : List Char}
    (hrest : c.rest = ch :: rest) : k.next? source = some (ch, k.pass ch) := by
  rw [next?, h.rest_eq, hrest]

theorem next?_eq_none (h : k.Follows source c) (hrest : c.rest = []) : k.next? source = none := by
  rw [next?, h.rest_eq, hrest]

theorem skip (h : k.Follows source c) (kind : Char → Bool) :
    (k.skip source kind).Follows source (c.run kind).2 := by
  generalize hrest : c.rest = cs
  induction cs generalizing k c with
  | nil =>
    rw [Counter.skip, h.next?_eq_none hrest, Cursor.run_nil kind hrest]
    exact h
  | cons ch rest ih =>
    rw [Counter.skip, h.next?_eq hrest, Cursor.run_cons kind hrest]
    cases hch : kind ch with
    | true => simpa only [hch, if_true] using ih (h.pass hrest) rfl
    | false => simpa only [hch, if_false, Bool.false_eq_true] using h

theorem skipBlanks (h : k.Follows source c) :
    (k.skip source isBlank).Follows source c.skipBlanks :=
  h.skip isBlank

/-- The text between two places is the one that was passed. -/
theorem slice_eq {k' : Counter} (h : k.Follows source c) {taken rest : List Char}
    (h' : k'.Follows source (c.past taken rest)) (hrest : c.rest = taken ++ rest) :
    Span.slice ⟨k.offset, k'.offset⟩ source = String.ofList taken := by
  obtain ⟨before, hsource, -, hright⟩ := h
  obtain ⟨before', hsource', -, hright'⟩ := h'
  have hbefore : before' = before ++ taken := by
    have hsame : before' ++ rest = (before ++ taken) ++ rest := by
      rw [List.append_assoc, ← hrest, ← hsource]
      exact hsource'.symm
    exact List.append_cancel_right hsame
  rw [Span.slice, hright.offset, hright'.offset, hbefore, bytes_append, Nat.add_sub_cancel_left,
    hsource, dropBytes_bytes, hrest, takeBytes_bytes]

/-- What the cursor eats, the counter moves past. -/
theorem eatChar?_eq (h : k.Follows source c) {ch : Char} (heat : c.eat? [ch] = some next) :
    ∃ k', k.eatChar? source ch = some k' ∧ k'.Follows source next := by
  obtain ⟨hrest, hnext⟩ := Cursor.eat?_eq_some_iff.1 heat
  refine ⟨k.pass ch, ?_, hnext ▸ h.pass hrest⟩
  rw [Counter.eatChar?, h.next?_eq hrest]
  exact if_pos rfl

theorem eatChar?_eq_none (h : k.Follows source c) {ch : Char} (heat : c.eat? [ch] = none) :
    k.eatChar? source ch = none := by
  cases hrest : c.rest with
  | nil => rw [Counter.eatChar?, h.next?_eq_none hrest]
  | cons d rest =>
    have hne : d ≠ ch := by
      rintro rfl
      simp [Cursor.eat?, hrest, dropPrefix?] at heat
    rw [Counter.eatChar?, h.next?_eq hrest]
    exact if_neg hne

theorem eat?_eq (h : k.Follows source c) {text : List Char} (heat : c.eat? text = some next) :
    ∃ k', k.eat? source text = some k' ∧ k'.Follows source next := by
  obtain ⟨hrest, hnext⟩ := Cursor.eat?_eq_some_iff.1 heat
  have hoffset : k.offset + bytes text = next.offset := by
    rw [hnext, h.offset_eq]
    exact (Position.offset_advanceBy _ _).symm
  refine ⟨k.advanceTo source next.offset, ?_, h.advanceTo (Cursor.onward_eat? heat)⟩
  rw [Counter.eat?, h.rest_eq, startsWith, hrest, dropPrefix?_append, hoffset]
  rfl

theorem eat?_eq_none (h : k.Follows source c) {text : List Char} (heat : c.eat? text = none) :
    k.eat? source text = none := by
  have hdrop : dropPrefix? text c.rest = none := Option.map_eq_none_iff.1 heat
  rw [Counter.eat?, h.rest_eq, startsWith, hdrop]
  rfl

end Counter.Follows

namespace Token

namespace Counted

open Counter

variable {k : Counter} {c next : Cursor} {d : Delimiters} {name : String}

theorem stuck_eq (h : k.Follows source c) (start : Position) (after : TagSite) :
    stuck source start after k = Token.stuck start after c := by
  rw [stuck, Token.stuck, h.rest_eq]
  cases c.rest with
  | nil => rfl
  | cons ch rest => rw [h.position_eq.1]

theorem inStep_readName (h : k.Follows source c) (start : Position) :
    InStep (Besides (Follows source)) (readName source start k) (Token.readName start c) := by
  rw [readName, Token.readName, h.rest_eq]
  cases hrest : c.rest with
  | nil =>
    simp only [Token.stuck, hrest]
    exact .error _
  | cons ch rest =>
    by_cases hch : isNameStart ch = true
    · simp only [hch, if_true]
      have htaken := h.slice_eq (h.skip isNameChar) List.takeWhile_append_dropWhile.symm
      exact .ok ⟨htaken, h.skip isNameChar⟩
    · simp only [hch, if_false, Bool.false_eq_true, stuck_eq h]
      exact .error _

theorem rel_readLiteral? {quote : Char} {p : Position} {cs : List Char}
    (h : k.Follows source ⟨p, cs⟩) :
    Option.Rel (Besides (Follows source)) (readLiteral? source quote k)
      (PromptMarkup.readLiteral? unescape quote p cs) := by
  fun_induction PromptMarkup.readLiteral? unescape quote p cs generalizing k with
  | case1 =>
    rw [readLiteral?, h.next?_eq_none rfl]
    exact .none
  | case2 p rest =>
    rw [readLiteral?, h.next?_eq rfl]
    simp only [if_true]
    exact .some ⟨rfl, h.pass rfl⟩
  | case3 p hquote =>
    rw [readLiteral?, h.next?_eq rfl]
    simp only [hquote, if_false, if_true]
    rw [(h.pass rfl).next?_eq_none rfl]
    exact .none
  | case4 p ch more hquote ih =>
    rw [readLiteral?, h.next?_eq rfl]
    simp only [hquote, if_false, if_true]
    rw [(h.pass rfl).next?_eq rfl]
    exact rel_map (unescape ch ++ ·) (ih ((h.pass rfl).pass rfl))
  | case5 p ch rest hquote hescape ih =>
    rw [readLiteral?, h.next?_eq rfl]
    simp only [hquote, hescape, if_false]
    exact rel_map (ch :: ·) (ih (h.pass rfl))

theorem inStep_readQuoted (h : k.Follows source c) (start : Position) :
    InStep (Besides (Follows source)) (readQuoted source start k) (Token.readQuoted start c) := by
  obtain ⟨hhere, hasked⟩ := h.position_eq
  simp only [readQuoted, Token.readQuoted, hhere]
  generalize (k.position source).2 = k' at hasked
  cases hrest : c.rest with
  | nil =>
    rw [hasked.next?_eq_none hrest]
    exact .error _
  | cons quote rest =>
    rw [hasked.next?_eq hrest, hasked.position_eq.1]
    by_cases hquote : quote = '"' ∨ quote = '\''
    · simp only [hquote, if_true]
      have hvalue : Option.Rel (Besides (Follows source))
          (readLiteral? source quote (k'.pass quote))
          (PromptMarkup.readLiteral? unescape quote (c.position.advance quote) rest) :=
        rel_readLiteral? (hasked.pass hrest)
      generalize readLiteral? source quote (k'.pass quote) = x at hvalue ⊢
      cases hread : PromptMarkup.readLiteral? unescape quote (c.position.advance quote) rest with
      | none =>
        rw [hread] at hvalue
        cases hvalue
        exact .error _
      | some found =>
        rw [hread] at hvalue
        obtain ⟨value, last⟩ := found
        cases hvalue with
        | @some a _ hlast =>
          obtain ⟨value', k'⟩ := a
          obtain ⟨rfl, hlast⟩ := hlast
          exact .ok ⟨rfl, hlast⟩
    · simp only [hquote, if_false]
      exact .error _

theorem inStep_readAttribute (h : k.Follows source c) (start : Position) :
    InStep (Besides (Besides (Follows source))) (readAttribute source start k)
      (Token.readAttribute start c) := by
  have hnamed := h.skip isAttributeChar
  have htaken := h.slice_eq hnamed List.takeWhile_append_dropWhile.symm
  have hempty : (k.skip source isAttributeChar).offset = k.offset ↔
      (c.run isAttributeChar).1 = [] := by
    have hoffset : (c.run isAttributeChar).2.offset =
        c.offset + bytes (c.run isAttributeChar).1 := Position.offset_advanceBy _ _
    rw [hnamed.offset_eq, h.offset_eq, hoffset, ← bytes_eq_zero_iff]
    omega
  simp only [readAttribute, Token.readAttribute, List.isEmpty_iff]
  by_cases hnone : (c.run isAttributeChar).1 = []
  · have hsame : (c.run isAttributeChar).2 = c := by
      have hrest : c.rest = (c.run isAttributeChar).1 ++ (c.run isAttributeChar).2.rest :=
        List.takeWhile_append_dropWhile.symm
      have hplace : (c.run isAttributeChar).2.position =
        c.position.advanceBy (c.run isAttributeChar).1 := rfl
      rw [hnone] at hrest hplace
      exact congrArg₂ Cursor.mk hplace hrest.symm
    simp only [hempty, hnone, if_true]
    rw [stuck_eq (hsame ▸ hnamed)]
    exact .error _
  · simp only [hempty, hnone, if_false, htaken, stuck_eq hnamed.skipBlanks]
    cases hsign : (c.run isAttributeChar).2.skipBlanks.eat? ['='] with
    | none =>
      rw [hnamed.skipBlanks.eatChar?_eq_none hsign]
      exact .error _
    | some sign =>
      obtain ⟨k', hk', hsign⟩ := hnamed.skipBlanks.eatChar?_eq hsign
      have hvalue := inStep_readQuoted hsign.skipBlanks start
      rw [hk']
      cases hread : Token.readQuoted start sign.skipBlanks with
      | error failure =>
        rw [hread] at hvalue
        simp only [hvalue.eq_error, hread]
        exact .error failure
      | ok found =>
        rw [hread] at hvalue
        obtain ⟨value, last⟩ := found
        obtain ⟨k'', hcounted, hlast⟩ := hvalue.eq_ok
        simp only [hcounted, hread]
        exact .ok ⟨rfl, rfl, hlast⟩

theorem inStep_readAttributes (h : k.Follows source c) (closing : List Char) (start : Position)
    (attrs : Attributes) :
    InStep (Besides (Besides (Follows source))) (readAttributes source closing start attrs k)
      (Token.readAttributes closing start attrs c) := by
  revert k
  fun_induction Token.readAttributes closing start attrs c
  case case1 attrs c here hend =>
    intro k h
    rw [readAttributes, dif_pos (h.skipBlanks.le_offset_iff.2 (List.isEmpty_iff.1 hend))]
    exact .error _
  case case2 attrs c here hend next heat =>
    intro k h
    obtain ⟨k', hk', hnext⟩ := h.skipBlanks.eat?_eq heat
    rw [readAttributes, dif_neg (h.skipBlanks.not_le_offset hend), hk']
    exact .ok ⟨rfl, rfl, hnext⟩
  case case3 attrs c here hend heat slash hslash next hnext =>
    intro k h
    obtain ⟨k', hk', hslashed⟩ := h.skipBlanks.eatChar?_eq hslash
    obtain ⟨k'', hk'', hnext⟩ := hslashed.skipBlanks.eat?_eq hnext
    rw [readAttributes, dif_neg (h.skipBlanks.not_le_offset hend),
      h.skipBlanks.eat?_eq_none heat, hk']
    simp only [hk'']
    exact .ok ⟨rfl, rfl, hnext⟩
  case case4 attrs c here hend heat slash hslash hnext =>
    intro k h
    obtain ⟨k', hk', hslashed⟩ := h.skipBlanks.eatChar?_eq hslash
    rw [readAttributes, dif_neg (h.skipBlanks.not_le_offset hend),
      h.skipBlanks.eat?_eq_none heat, hk']
    simp only [hslashed.skipBlanks.eat?_eq_none hnext, stuck_eq hslashed.skipBlanks]
    exact .error _
  case case5 attrs c here hend heat hslash failure hattribute =>
    intro k h
    have hread := inStep_readAttribute h.skipBlanks start
    rw [show Token.readAttribute start c.skipBlanks = _ from hattribute] at hread
    rw [readAttributes, dif_neg (h.skipBlanks.not_le_offset hend), h.skipBlanks.eat?_eq_none heat,
      h.skipBlanks.eatChar?_eq_none hslash]
    simp only
    rw [hread.eq_error]
    exact .error failure
  case case6 attrs c here hend heat hslash name value next hattribute ih =>
    intro k h
    have hread := inStep_readAttribute h.skipBlanks start
    rw [show Token.readAttribute start c.skipBlanks = _ from hattribute] at hread
    obtain ⟨k', hcounted, hnext⟩ := hread.eq_ok₂
    rw [readAttributes, dif_neg (h.skipBlanks.not_le_offset hend), h.skipBlanks.eat?_eq_none heat,
      h.skipBlanks.eatChar?_eq_none hslash]
    simp only
    rw [hcounted]
    exact ih hnext

/-! ### Verbatim bodies -/

section

variable (hc : (Cursor.mk .origin source).Onward c)

include hc

/-- The offset of a cursor is that of the text before it. -/
theorem exists_before : ∃ before, source = before ++ c.rest ∧ c.offset = bytes before := by
  obtain ⟨before, hsource, hplace⟩ := hc
  refine ⟨before, hsource, ?_⟩
  rw [hplace]
  exact (Position.offset_advanceBy _ _).trans (Nat.zero_add _)

theorem dropBytes_offset : dropBytes c.offset source = c.rest := by
  obtain ⟨before, hsource, hoffset⟩ := exists_before hc
  rw [hoffset, hsource, dropBytes_bytes]

theorem bytes_sub_bytes_rest : bytes source - bytes c.rest = c.offset := by
  obtain ⟨before, hsource, hoffset⟩ := exists_before hc
  rw [hsource, bytes_append, hoffset, Nat.add_sub_cancel]

/-- A closing tag that is found in the text is the one that is read. -/
theorem closingEnd?_eq {stop : Nat} (hoffset : c.offset = stop + bytes d.opening.toList) :
    closingEnd? source d name stop =
      (readClosing? d.closing.toList name c).map Cursor.offset := by
  have heat : ∀ (c : Cursor) (text : List Char), dropPrefix? text (c.rest.dropWhile isBlank) =
      (c.skipBlanks.eat? text).map Cursor.rest := by
    intro c text
    rw [Cursor.eat?, Option.map_map]
    exact Option.map_id'.symm
  have hread : closingEnd? source d name stop = (readClosing? d.closing.toList name c).map
      fun next => bytes source - bytes next.rest := by
    simp only [closingEnd?, readClosing?, ← hoffset, dropBytes_offset hc, heat, Option.bind_map,
      Option.map_bind, Option.map_map, Function.comp_def]
  rw [hread]
  cases hclosing : readClosing? d.closing.toList name c with
  | none => rfl
  | some next =>
    have hnext := hc.trans (onward_readClosing? hclosing)
    exact congrArg some (bytes_sub_bytes_rest hnext)

end

theorem offset_past (c : Cursor) (passed rest : List Char) :
    (c.past passed rest).offset = c.offset + bytes passed :=
  Position.offset_advanceBy _ _

/-- Looking for the closing tag in the text finds where the reader stops. -/
theorem findClosing?_eq (hc : (Cursor.mk .origin source).Onward c) :
    findClosing? source d name c.offset =
      (readVerbatim? d name c).map fun (_, stop, next) => (stop, next.offset) := by
  have hinner : ∀ (c : Cursor) (before after : List Char),
      (c.past (before ++ d.opening.toList) after).offset =
        c.offset + bytes before + bytes d.opening.toList := by
    intro c before after
    rw [offset_past, bytes_append, Nat.add_assoc]
  have hend : ∀ {c : Cursor} {before after : List Char}, (Cursor.mk .origin source).Onward c →
      breakOn d.opening.toList c.rest = some (before, after) →
      closingEnd? source d name (c.offset + bytes before) = (readClosing? d.closing.toList name
        (c.past (before ++ d.opening.toList) after)).map Cursor.offset :=
    fun hc hbreak =>
      closingEnd?_eq (hc.trans (Cursor.onward_past (eq_of_breakOn hbreak))) (hinner _ _ _)
  fun_induction readVerbatim? d name c
  case case1 c hbreak =>
    rw [findClosing?, dropBytes_offset hc, hbreak]
    rfl
  case case2 c before after hbreak inner next hclosing =>
    rw [findClosing?, dropBytes_offset hc, hbreak]
    simp only [hend hc hbreak, hclosing, inner]
    exact congrArg (fun stop => some (stop, next.offset)) (Position.offset_advanceBy _ _).symm
  case case3 c before after hbreak inner hclosing hopening =>
    rw [findClosing?, dropBytes_offset hc, hbreak]
    simp only [hend hc hbreak, hclosing, inner]
    exact dif_pos hopening
  case case4 c before after hbreak inner hclosing hopening ih =>
    have hlater := ih (hc.trans (Cursor.onward_past (eq_of_breakOn hbreak)))
    rw [findClosing?, dropBytes_offset hc, hbreak]
    simp only [hend hc hbreak, hclosing, inner, Option.map_none, dif_neg hopening]
    rw [← hinner c before after, hlater, Option.map_map]
    rfl

theorem inStep_readVerbatim (h : k.Follows source c) (start : Position) :
    InStep (Besides (Follows source)) (readVerbatim source d name start k)
      (match readVerbatim? d name c with
      | none => .error (.parse (.unclosedVerbatim name) (some start))
      | some (body, stop, after) => .ok (verbatimToken? name body c.position stop, after)) := by
  obtain ⟨hhere, hasked⟩ := h.position_eq
  simp only [readVerbatim, hhere]
  generalize (k.position source).2 = k' at hasked
  rw [hasked.offset_eq, findClosing?_eq hasked.onward]
  cases hread : readVerbatim? d name c with
  | none => exact .error _
  | some found =>
    obtain ⟨body, stop, next⟩ := found
    obtain ⟨behind, hrest, hstop, honward⟩ := readVerbatim?_stop hread
    have hbody : takeBytes (stop - c.offset) (k'.rest source) = body := by
      rw [hstop, Position.offset_advanceBy, ← Cursor.offset, Nat.add_sub_cancel_left,
        hasked.rest_eq, hrest, takeBytes_bytes]
    have hstopped : (k'.advanceTo source stop).Follows source (c.past body behind) := by
      rw [hstop]
      exact hasked.advanceTo (Cursor.onward_past hrest)
    simp only [Option.map_some, hbody]
    exact .ok ⟨rfl, hstopped.advanceTo honward⟩

/-! ### Tags and texts -/

theorem inStep_readClosingTag (h : k.Follows source c) (start : Position) :
    InStep (Besides (Follows source)) (readClosingTag source d start k)
      (Token.readClosingTag d start c) := by
  have hname := inStep_readName h.skipBlanks start
  rw [readClosingTag, Token.readClosingTag]
  cases hread : Token.readName start c.skipBlanks with
  | error failure =>
    rw [hread] at hname
    rw [hname.eq_error]
    exact .error failure
  | ok found =>
    obtain ⟨name, next⟩ := found
    rw [hread] at hname
    obtain ⟨k', hcounted, hnext⟩ := hname.eq_ok
    rw [hcounted]
    cases heat : next.skipBlanks.eat? d.closing.toList with
    | none =>
      simp only [heat, hnext.skipBlanks.eat?_eq_none heat, stuck_eq hnext.skipBlanks]
      exact .error _
    | some last =>
      obtain ⟨k'', hk'', hlast⟩ := hnext.skipBlanks.eat?_eq heat
      simp only [heat, hk'', hlast.offset_eq]
      exact .ok ⟨rfl, hlast⟩

theorem inStep_readOpeningTag (h : k.Follows source c) (start : Position) :
    InStep (Besides (Follows source)) (readOpeningTag source d start k)
      (Token.readOpeningTag d start c) := by
  have hname := inStep_readName h start
  rw [readOpeningTag, Token.readOpeningTag]
  cases hread : Token.readName start c with
  | error failure =>
    rw [hread] at hname
    rw [hname.eq_error]
    exact .error failure
  | ok found =>
    obtain ⟨name, next⟩ := found
    rw [hread] at hname
    obtain ⟨k', hcounted, hnext⟩ := hname.eq_ok
    have hattrs := inStep_readAttributes hnext d.closing.toList start .empty
    rw [hcounted]
    cases hread : Token.readAttributes d.closing.toList start .empty next with
    | error failure =>
      rw [hread] at hattrs
      simp only [hread, hattrs.eq_error]
      exact .error failure
    | ok found =>
      obtain ⟨shape, attrs, last⟩ := found
      rw [hread] at hattrs
      obtain ⟨k'', hcounted, hlast⟩ := hattrs.eq_ok₂
      simp only [hread, hcounted, hlast.offset_eq]
      split
      · cases shape with
        | selfClosing => exact .ok ⟨rfl, hlast⟩
        | block => exact inStep_readVerbatim hlast start
      · exact .ok ⟨rfl, hlast⟩

/-- **A tag is read in step** from its opening delimiter on. -/
theorem inStep_readTag (h : k.Follows source c) {after : List Char}
    (hrest : c.rest = d.opening.toList ++ after) :
    InStep (Besides (Follows source)) (readTag source d k)
      (Token.readTag d c.position (c.past d.opening.toList after)) := by
  obtain ⟨hhere, hasked⟩ := h.position_eq
  have hopened := hasked.advanceTo (Cursor.onward_past hrest)
  rw [offset_past, ← h.offset_eq] at hopened
  simp only [readTag, hhere, Token.readTag, offset_position]
  cases hslash : (c.past d.opening.toList after).skipBlanks.eat? ['/'] with
  | none =>
    rw [hopened.skipBlanks.eatChar?_eq_none hslash]
    exact inStep_readOpeningTag hopened.skipBlanks c.position
  | some slash =>
    obtain ⟨k', hk', hslashed⟩ := hopened.skipBlanks.eatChar?_eq hslash
    rw [hk']
    exact inStep_readClosingTag hslashed c.position

/-- **Reading on from a counter** is reading on from the cursor it follows. -/
theorem readFrom_eq (h : k.Follows source c) (pending : List Char) (start : Position) :
    readFrom source d pending start k = Token.readFrom d pending start c := by
  have htag : ∀ {k : Counter} {c : Cursor} {before after : List Char}, k.Follows source c →
      breakOn d.opening.toList c.rest = some (before, after) →
      InStep (Besides (Follows source))
        (readTag source d (k.advanceTo source (k.offset + bytes before)))
        (Token.readTag d (c.position.advanceBy before)
          (c.past (before ++ d.opening.toList) after)) := by
    intro k c before after h hbreak
    have hrest : c.rest = before ++ (d.opening.toList ++ after) := by
      rw [eq_of_breakOn hbreak, List.append_assoc]
    have hhere := h.advanceTo (Cursor.onward_past hrest)
    rw [offset_past, ← h.offset_eq] at hhere
    have hread := inStep_readTag (d := d) hhere rfl
    rwa [Cursor.past_past] at hread
  revert k
  fun_induction Token.readFrom d pending start c
  case case1 pending start c hend =>
    intro k h
    rw [readFrom, dif_pos (h.le_offset_iff.2 (List.isEmpty_iff.1 hend)), h.offset_eq]
  case case2 pending start c hend hbreak =>
    intro k h
    rw [readFrom, dif_neg (h.not_le_offset hend), h.rest_eq, hbreak]
    simp only [offset_advanceTo, h.bytes_source, Position.offset_advanceBy, h.offset_eq,
      Cursor.offset]
  case case3 pending start c hend before after hbreak inner hescape ih =>
    intro k h
    have hinner : (k.advanceTo source inner.offset).Follows source inner :=
      h.advanceTo (Cursor.onward_past (eq_of_breakOn hbreak))
    have hoffset : inner.offset = k.offset + bytes before + bytes d.opening.toList := by
      rw [h.offset_eq, Nat.add_assoc, ← bytes_append]
      exact offset_past _ _ _
    rw [readFrom_of_breakOn (h.not_le_offset hend) (h.rest_eq ▸ hbreak), if_pos hescape, ← hoffset]
    exact ih hinner
  case case4 pending start c hend before after hbreak inner hescape here failure hread =>
    intro k h
    have htagged := htag h hbreak
    rw [hread] at htagged
    simp only [readFrom_of_breakOn (h.not_le_offset hend) (h.rest_eq ▸ hbreak), if_neg hescape,
      htagged.eq_error]
  case case5 pending start c hend before after hbreak inner hescape here token next hread failure
      hmore ih =>
    intro k h
    have htagged := htag h hbreak
    rw [hread] at htagged
    obtain ⟨k', hcounted, hnext⟩ := htagged.eq_ok
    obtain ⟨hplace, hasked⟩ := hnext.position_eq
    simp only [readFrom_of_breakOn (h.not_le_offset hend) (h.rest_eq ▸ hbreak), if_neg hescape,
      hcounted, hplace, ih hasked, hmore]
  case case6 pending start c hend before after hbreak inner hescape here token next hread more
      hmore ih =>
    intro k h
    have htagged := htag h hbreak
    rw [hread] at htagged
    obtain ⟨k', hcounted, hnext⟩ := htagged.eq_ok
    obtain ⟨hplace, hasked⟩ := hnext.position_eq
    have hstop : k.offset + bytes before = here.offset := by
      rw [h.offset_eq]
      exact (Position.offset_advanceBy _ _).symm
    simp only [readFrom_of_breakOn (h.not_le_offset hend) (h.rest_eq ▸ hbreak), if_neg hescape,
      hcounted, hplace, ih hasked, hmore, offset_advanceTo]
    rw [hstop]

/-- **Reading with a counter is reading**, whatever the delimiters and the
source. -/
theorem read_eq (d : Delimiters) (source : String) : read d source = Token.read d source := by
  have hstart : Counter.start.Follows source.toList (.ofSource source) :=
    ⟨[], rfl, rfl, right_start⟩
  rw [read, Token.read]
  simp only [hstart.position_eq.1]
  exact readFrom_eq hstart.position_eq.2 [] .origin

end Counted

end Token

end PromptMarkup
