import PromptMarkup.Proofs.Expr.Spelled
import PromptMarkup.Proofs.Text.Pieces
import PromptMarkup.Proofs.Token.Spans
import PromptMarkup.Value.Path
/-!
# Expr — symbols tile a condition

A condition is white space and symbols. Each symbol stands for a text of the
condition that is read as this symbol by itself (`Symbol.IsLexeme`), whatever
made its reader stop there, and between these texts there is nothing but white
space (`Tiled`, `tiled_symbols`). So the spans of symbols ascend without
overlap, and what one of them covers is read as it was in the whole
(`symbols_tile`).
-/

namespace PromptMarkup

open Text

namespace Expr

variable {c after next : Cursor} {a : Char} {symbol : Symbol} {lexeme w : List Char}

/-! ## Lexemes -/

/-- A reader that has nothing but this text before it takes all of it as the
symbol. -/
def Symbol.IsLexeme (symbol : Symbol) (lexeme : List Char) : Prop :=
  ∀ c : Cursor, c.rest = lexeme → Yields c symbol []

/-- Each sign is written with its own characters, none of them white space. -/
theorem spelled_of_mem_signs {sign : String} (h : (sign, symbol) ∈ signs) :
    ∃ first more, sign.toList = first :: more ∧ symbol.spelled = first :: more ∧
      isBlank first = false := by
  simp only [signs, List.mem_cons, Prod.mk.injEq, List.not_mem_nil, or_false] at h
  rcases h with ⟨rfl, rfl⟩ | ⟨rfl, rfl⟩ | ⟨rfl, rfl⟩ | ⟨rfl, rfl⟩ | ⟨rfl, rfl⟩ | ⟨rfl, rfl⟩ |
    ⟨rfl, rfl⟩ | ⟨rfl, rfl⟩ | ⟨rfl, rfl⟩ | ⟨rfl, rfl⟩ | ⟨rfl, rfl⟩ | ⟨rfl, rfl⟩ <;>
    exact ⟨_, _, rfl, rfl, by decide⟩

/-- A sign is read by itself. -/
theorem isLexeme_sign {sign : String} (h : (sign, symbol) ∈ signs) :
    symbol.IsLexeme sign.toList := by
  obtain ⟨first, more, hsign, hspelled, hblank⟩ := spelled_of_mem_signs h
  intro c hrest
  refine yields_sign sign h hspelled hblank ?_ fun _ hnone => absurd hnone (Option.not_mem_none _)
  rw [hrest, hsign, hspelled, List.append_nil]

/-- A string is read by itself, with both of its quotes. -/
theorem isLexeme_string {quote : Char} {value taken : List Char}
    (hquote : quote = '"' ∨ quote = '\'')
    (hread : ∀ p, readLiteral? unescape quote p taken = some (value, ⟨p.advanceBy taken, []⟩)) :
    (Symbol.string (String.ofList value)).IsLexeme (quote :: taken) := by
  intro c hrest
  have hothers : isSignStart quote = false ∧ isBlank quote = false ∧ quote ≠ '=' ∧ quote ≠ '&' ∧
      quote ≠ '|' := by
    rcases hquote with rfl | rfl <;> decide
  obtain ⟨hsign, hblank, hequals, hand, hor⟩ := hothers
  have hword : readWord c quote (c.past [quote] taken) = .ok (.string (String.ofList value),
      ⟨(c.past [quote] taken).position.advanceBy taken, []⟩) := by
    rw [readWord, if_neg hequals, if_neg hand, if_neg hor, if_pos hquote]
    simp only [Cursor.past, hread]
  exact yields_of_readWord hrest hsign hblank hword rfl

/-- A numeral begins with a digit, or with a minus and a digit. -/
theorem startsNumeral_cons_iff {t : List Char} :
    startsNumeral (a :: t) = true ↔
      a.isDigit = true ∨ a = '-' ∧ ∃ d ∈ t.head?, d.isDigit = true := by
  rw [startsNumeral.eq_def]
  split
  · next d _ heq =>
    obtain ⟨rfl, rfl⟩ := List.cons.inj heq
    simp
  · next hminus heq =>
    obtain ⟨rfl, rfl⟩ := List.cons.inj heq
    refine ⟨.inl, ?_⟩
    rintro (h | ⟨rfl, d, hd, -⟩)
    · exact h
    · obtain ⟨more, rfl⟩ := List.head?_eq_some_iff.1 hd
      exact absurd rfl (hminus d more rfl)
  · next heq => cases heq

/-- A numeral goes as far as its own characters do. -/
theorem isLexeme_numeral {more : List Char} (hstarts : startsNumeral (a :: (more ++ w)) = true)
    (hmore : ∀ b ∈ more, isNumeralChar b = true) (hw : ∀ b ∈ w.head?, isNumeralChar b = false) :
    (Symbol.numeral (String.ofList (a :: more))).IsLexeme (a :: more) := by
  have hown : startsNumeral (a :: more) = true := by
    rw [startsNumeral_cons_iff] at hstarts ⊢
    refine hstarts.imp_right fun ⟨hminus, d, hd, hdigit⟩ => ⟨hminus, d, ?_, hdigit⟩
    cases more with
    | cons => exact hd
    | nil =>
      -- a digit behind the minus is part of the numeral
      have hkept : isNumeralChar d = true := by rw [isNumeralChar, hdigit, Bool.true_or]
      rw [hw d hd] at hkept
      cases hkept
  have hnumeral : isNumeral (String.ofList (a :: more)) = true := by
    rw [isNumeral, String.toList_ofList, Bool.and_eq_true, List.tail_cons, List.all_eq_true]
    exact ⟨hown, hmore⟩
  intro c hrest
  refine yields_numeral hnumeral ?_ fun _ hnone => absurd hnone (Option.not_mem_none _)
  rw [hrest, String.toList_ofList, List.append_nil]

/-- A word is read by itself. -/
theorem isLexeme_word {more : List Char} (hfirst : isWordStart a = true)
    (hmore : ∀ b ∈ more, isWordChar b = true)
    (hparts : (splitOn ['.'] (a :: more)).any List.isEmpty = false) :
    (wordSymbol (String.ofList (a :: more))).IsLexeme (a :: more) := by
  intro c hrest
  refine yields_word _ String.toList_ofList hfirst hmore hparts ?_ fun _ hnone =>
    absurd hnone (Option.not_mem_none _)
  rw [hrest, String.toList_ofList, List.append_nil]

/-- **A symbol is read from its own text**, which is read by itself as the same
symbol. -/
theorem isLexeme_of_readSymbol (hnext : c.next? = some (a, after))
    (h : readSymbol c a after = .ok (symbol, next)) :
    ∃ lexeme, lexeme ≠ [] ∧ c.rest = lexeme ++ next.rest ∧ next = c.past lexeme next.rest ∧
      symbol.IsLexeme lexeme := by
  have hafter : c.rest = a :: after.rest ∧ after = c.past [a] after.rest := by
    rw [Cursor.next?] at hnext
    split at hnext
    · cases hnext
    · next heq =>
      cases hnext
      exact ⟨heq, rfl⟩
  obtain ⟨hrest, hpast⟩ := hafter
  rw [readSymbol] at h
  split at h
  · next found hsign =>
    cases h
    obtain ⟨⟨sign, s⟩, hmem, hfound⟩ := List.exists_of_findSome?_eq_some hsign
    obtain ⟨_, heat, heq⟩ := Option.map_eq_some_iff.1 hfound
    cases heq
    obtain ⟨first, more, hchars, -⟩ := spelled_of_mem_signs hmem
    obtain ⟨htaken, hnext⟩ := Cursor.eat?_eq_some_iff.1 heat
    exact ⟨sign.toList, by rw [hchars]; exact List.cons_ne_nil _ _, htaken, hnext,
      isLexeme_sign hmem⟩
  · obtain ⟨value, hquote, hliteral, rfl⟩ | ⟨hstarts, hrun, rfl⟩ | ⟨hstart, hrun, hparts, rfl⟩ :=
      readWord_cases h
    · obtain ⟨taken, htaken, hposition, hread⟩ := Token.local_readLiteral? hliteral
      refine ⟨a :: taken, List.cons_ne_nil _ _, by rw [hrest, htaken]; rfl, ?_, ?_⟩
      · rw [hpast] at hposition
        cases next
        exact congrArg (Cursor.mk · _) hposition
      · exact isLexeme_string hquote fun p => by simpa using hread p []
    · obtain ⟨more, behind, hmore, hkind, hend, hspec⟩ := after.run_spec isNumeralChar
      rw [hspec] at hrun ⊢
      cases hrun
      refine ⟨a :: more, List.cons_ne_nil _ _, by rw [hrest, hmore]; rfl, ?_, ?_⟩
      · rw [hpast, Cursor.past_past]
        rfl
      · exact isLexeme_numeral (by rw [← hmore, ← hrest]; exact hstarts) hkind hend
    · obtain ⟨more, behind, hmore, hkind, -, hspec⟩ := after.run_spec isWordChar
      rw [hspec] at hrun hparts ⊢
      cases hrun
      refine ⟨a :: more, List.cons_ne_nil _ _, by rw [hrest, hmore]; rfl, ?_, ?_⟩
      · rw [hpast, Cursor.past_past]
        rfl
      · exact isLexeme_word hstart hkind hparts

/-- **By itself a lexeme is one symbol**, which covers all of it. -/
theorem Symbol.IsLexeme.symbols_eq (h : symbol.IsLexeme lexeme) :
    symbols (String.ofList lexeme) = .ok [⟨symbol, ⟨0, bytes lexeme⟩⟩] := by
  have hrest : (Cursor.ofSource (String.ofList lexeme)).rest = [] ++ lexeme := by
    rw [Cursor.ofSource, String.toList_ofList, List.nil_append]
  obtain ⟨a, after, next, hnext, hread, hempty, hsymbols⟩ :=
    symbolsFrom_of_yields (List.forall_mem_nil _) hrest (h _ rfl)
  obtain ⟨taken, -, htaken, hpast, -⟩ := isLexeme_of_readSymbol hnext hread
  -- the symbol takes everything, since nothing is left
  have hall : lexeme = taken := by
    rw [hempty, List.append_nil] at htaken
    exact htaken
  have hoffset : next.offset = bytes lexeme := by
    rw [hpast, ← hall, Cursor.offset, Cursor.past, Position.offset_advanceBy]
    exact Nat.zero_add _
  rw [symbols, hsymbols, symbolsFrom_nil (List.forall_mem_nil _) hempty, hoffset]
  rfl

/-! ## Tiles -/

/-- Behind the text `before` a text is these symbols, with nothing but white
space around them. -/
inductive Tiled : List Char → List Char → List Located → Prop
  /-- There may be white space at the end, -/
  | nil {before blanks : List Char} (hblanks : ∀ b ∈ blanks, isBlank b = true) :
      Tiled before blanks []
  /-- and before each symbol. -/
  | cons {before blanks lexeme behind : List Char} {symbol : Symbol} {tokens : List Located}
      (hblanks : ∀ b ∈ blanks, isBlank b = true) (hne : lexeme ≠ [])
      (hlexeme : symbol.IsLexeme lexeme)
      (hmore : Tiled (before ++ blanks ++ lexeme) behind tokens) :
      Tiled before (blanks ++ (lexeme ++ behind))
        (⟨symbol, ⟨bytes (before ++ blanks), bytes (before ++ blanks) + bytes lexeme⟩⟩ :: tokens)

variable {before rest : List Char} {tokens : List Located} {source : String}

/-- **What a reader has left is tiled** by the symbols that it finds. -/
theorem tiled_symbolsFrom (h : symbolsFrom c = .ok tokens) (hbefore : c.offset = bytes before) :
    Tiled before c.rest tokens := by
  fun_induction symbolsFrom c generalizing before tokens with
  | case1 c here =>
    rename_i hn
    cases h
    obtain ⟨blanks, rest, hrest, hblanks, -, hrun⟩ := c.run_spec isBlank
    have hhere : here = c.past blanks rest := congrArg Prod.snd hrun
    have hnone : rest = [] := by
      rw [hhere, Cursor.next?] at hn
      split at hn
      · next heq => exact heq
      · cases hn
    rw [hrest, hnone, List.append_nil]
    exact .nil hblanks
  | case2 => cases h
  | case3 => cases h
  | case4 c here a after hn symbol next hs more hmore =>
    rename_i ih
    cases h
    obtain ⟨blanks, rest, hrest, hblanks, -, hrun⟩ := c.run_spec isBlank
    have hhere : here = c.past blanks rest := congrArg Prod.snd hrun
    obtain ⟨lexeme, hne, htaken, hnext, hlexeme⟩ := isLexeme_of_readSymbol hn hs
    have hstart : here.offset = bytes (before ++ blanks) := by
      rw [hhere, Cursor.offset, Cursor.past, Position.offset_advanceBy, bytes_append, ← hbefore]
      rfl
    have hstop : next.offset = bytes (before ++ blanks) + bytes lexeme := by
      rw [hnext, Cursor.offset, Cursor.past, Position.offset_advanceBy, ← hstart]
      rfl
    have htext : c.rest = blanks ++ (lexeme ++ next.rest) := by
      rw [← htaken, hhere]
      exact hrest
    rw [htext, hstart, hstop]
    exact .cons hblanks hne hlexeme (ih hmore (by rw [hstop, ← bytes_append]))

theorem tiled_symbols (h : symbols source = .ok tokens) : Tiled [] source.toList tokens :=
  tiled_symbolsFrom h rfl

namespace Tiled

/-- Every symbol covers a text that is read as it by itself. -/
theorem holds (h : Tiled before rest tokens) :
    ∀ token ∈ tokens, ∃ lexeme, lexeme ≠ [] ∧ token.symbol.IsLexeme lexeme ∧
      token.span.Holds (before ++ rest) lexeme := by
  induction h with
  | nil => exact List.forall_mem_nil _
  | @cons before blanks lexeme behind symbol tokens hblanks hne hlexeme hmore ih =>
    simp only [List.append_assoc] at ih ⊢
    refine List.forall_mem_cons.2 ⟨⟨lexeme, hne, hlexeme, before ++ blanks, behind, ?_, rfl⟩, ih⟩
    rw [List.append_assoc]

/-- Symbols start behind the text before them, -/
theorem bytes_le_start (h : Tiled before rest tokens) :
    ∀ token ∈ tokens, bytes before ≤ token.span.start := by
  induction h with
  | nil => exact List.forall_mem_nil _
  | cons hblanks hne hlexeme hmore ih =>
    simp only [bytes_append] at ih ⊢
    exact List.forall_mem_cons.2 ⟨Nat.le_add_right _ _, fun token htoken =>
      le_trans (by omega) (ih token htoken)⟩

/-- **and each ends before the next one starts.** -/
theorem pairwise (h : Tiled before rest tokens) :
    tokens.Pairwise (·.span.stop ≤ ·.span.start) := by
  induction h with
  | nil => exact .nil
  | cons hblanks hne hlexeme hmore ih =>
    refine .cons (fun token htoken => ?_) ih
    have hstart := hmore.bytes_le_start token htoken
    rwa [bytes_append] at hstart

/-- **What no symbol covers is white space.** -/
theorem blank_of_uncovered (h : Tiled before rest tokens) {u v : List Char} {x : Char}
    (hrest : rest = u ++ x :: v)
    (huncovered : ∀ token ∈ tokens, bytes (before ++ u) < token.span.start ∨
      token.span.stop ≤ bytes (before ++ u)) : isBlank x = true := by
  induction h generalizing u with
  | nil hblanks => exact hblanks x (hrest ▸ List.mem_append_right u List.mem_cons_self)
  | @cons before blanks lexeme behind symbol tokens hblanks hne hlexeme hmore ih =>
    obtain ⟨hown, hothers⟩ := List.forall_mem_cons.1 huncovered
    rcases List.append_eq_append_iff.1 hrest with ⟨w, hu, hw⟩ | ⟨w, hw, hv⟩
    · rcases List.append_eq_append_iff.1 hw with ⟨z, hwz, hz⟩ | ⟨z, hwz, hz⟩
      · -- behind the symbol
        refine ih hz ?_
        rw [hu, hwz] at hothers
        simpa only [List.append_assoc] using hothers
      · cases z with
        | nil =>
          refine ih (u := []) (by simpa using hz.symm) ?_
          rw [hu, ← (by simpa using hwz : lexeme = w)] at hothers
          simpa only [List.append_assoc, List.append_nil] using hothers
        | cons y z =>
          -- inside of the symbol
          rw [hu, hwz] at hown
          simp only [bytes_append, bytes_cons] at hown
          have := y.utf8Size_pos
          omega
    · cases w with
      | nil =>
        -- at the symbol's first character
        rw [List.append_nil] at hw
        cases lexeme with
        | nil => exact absurd rfl hne
        | cons y more =>
          rw [← hw] at hown
          simp only [bytes_append, bytes_cons] at hown
          have := y.utf8Size_pos
          omega
      | cons y w =>
        obtain ⟨rfl, -⟩ := List.cons.inj hv
        exact hblanks x (hw ▸ List.mem_append_right u List.mem_cons_self)

end Tiled

/-! ## Paths -/

/-- **A path that is read has no empty segment**, and its first one begins like
a word. -/
theorem segments_of_isPathName {name : String} (h : isPathName name = true) :
    ∃ first rest, Path.segments name = first :: rest ∧ "" ∉ first :: rest ∧
      ∃ a ∈ first.toList.head?, isWordStart a = true := by
  obtain ⟨a, more, hname, hstart, -, hparts, -⟩ := of_isPathName h
  have hnone : "" ∉ Path.segments name := by
    intro hempty
    obtain ⟨piece, hpiece, hnil⟩ := List.mem_map.1 hempty
    have hany : (splitOn ['.'] (a :: more)).any List.isEmpty = true :=
      List.any_eq_true.2 ⟨piece, hname ▸ hpiece, by simpa using hnil⟩
    rw [hparts] at hany
    cases hany
  obtain ⟨first, rest, hsegments, -⟩ :=
    exists_splitOn_cons (by decide : ".".toList ≠ []) name.toList
  have hcons : Path.segments name = String.ofList first :: rest.map String.ofList := by
    rw [Path.segments, split, hsegments, List.map_cons]
  rw [hcons] at hnone
  refine ⟨_, _, hcons, hnone, a, ?_, hstart⟩
  -- the first segment has a character, which is the first one of the path
  have hpath := intercalate_splitOn ".".toList name.toList
  rw [hsegments, hname] at hpath
  rw [String.toList_ofList]
  cases first with
  | nil => exact absurd List.mem_cons_self hnone
  | cons b first =>
    have hfirst : b = a := by
      cases rest with
      | nil => exact (List.cons.inj (List.intercalate_singleton.symm.trans hpath)).1
      | cons second rest =>
        rw [List.intercalate_cons_cons] at hpath
        exact (List.cons.inj hpath).1
    rw [hfirst]
    exact Option.mem_some_self a

theorem Symbol.IsLexeme.isPathName {name : String} (h : (Symbol.path name).IsLexeme lexeme) :
    Expr.isPathName name = true := by
  obtain ⟨a, after, next, -, -, hread, -⟩ := h ⟨.origin, lexeme⟩ rfl
  exact isPathName_of_readSymbol hread

/-- **Symbols tile a condition.** Each covers at least a character, between two
edges of the text; what it covers is read by itself as this one symbol; and
the segments of a path have characters, of which the first begins like a word.
No symbol starts before the one before it has ended, and what none of them
covers is white space. -/
theorem symbols_tile (h : symbols source = .ok tokens) :
    (∀ token ∈ tokens,
      token.span.start < token.span.stop ∧
      Edge source.toList token.span.start ∧ Edge source.toList token.span.stop ∧
      symbols (token.span.slice source.toList) =
        .ok [⟨token.symbol, ⟨0, token.span.stop - token.span.start⟩⟩] ∧
      ∀ name, token.symbol = .path name →
        ∃ first rest, Path.segments name = first :: rest ∧ "" ∉ first :: rest ∧
          ∃ a ∈ first.toList.head?, isWordStart a = true) ∧
    tokens.Pairwise (·.span.stop ≤ ·.span.start) ∧
    ∀ before x after, source.toList = before ++ x :: after →
      (∀ token ∈ tokens, bytes before < token.span.start ∨ token.span.stop ≤ bytes before) →
      isBlank x = true := by
  have htiled := tiled_symbols h
  refine ⟨fun token htoken => ?_, htiled.pairwise, fun before x after hsource huncovered =>
    htiled.blank_of_uncovered hsource huncovered⟩
  obtain ⟨lexeme, hne, hlexeme, hholds⟩ := htiled.holds token htoken
  rw [List.nil_append] at hholds
  have hpositive : 0 < bytes lexeme := Nat.pos_of_ne_zero (mt bytes_eq_zero_iff.1 hne)
  have hlength : token.span.stop = token.span.start + bytes lexeme := by
    obtain ⟨_, _, _, hspan⟩ := hholds
    rw [hspan]
  refine ⟨by omega, hholds.edge_start, hholds.edge_stop, ?_, ?_⟩
  · rw [hholds.slice_eq, hlexeme.symbols_eq, hlength, Nat.add_sub_cancel_left]
  · rintro name hname
    rw [hname] at hlexeme
    exact segments_of_isPathName hlexeme.isPathName

end Expr

namespace Sample

/-- A path and a string of three bytes, the one next to an operator and the
other apart from it. -/
def query : String :=
  " user.name== 'é'"

theorem symbols_query :
    Expr.symbols query = .ok [⟨.path "user.name", ⟨1, 10⟩⟩, ⟨.operator .equal, ⟨10, 12⟩⟩,
      ⟨.string "é", ⟨13, 17⟩⟩] := by
  have hread : (Expr.symbols query).toOption = some [⟨.path "user.name", ⟨1, 10⟩⟩,
      ⟨.operator .equal, ⟨10, 12⟩⟩, ⟨.string "é", ⟨13, 17⟩⟩] := by decide +kernel
  cases hsymbols : Expr.symbols query with
  | error fault =>
    rw [hsymbols] at hread
    cases hread
  | ok tokens =>
    rw [hsymbols] at hread
    rw [Option.some.inj hread]

/-- The string is read by itself, from the four bytes that it covers, and the
path has two segments. -/
theorem symbols_tile_query :
    ∃ tokens, Expr.symbols query = .ok tokens ∧ tokens.length = 3 ∧
      Expr.symbols (Span.slice ⟨13, 17⟩ query.toList) = .ok [⟨.string "é", ⟨0, 4⟩⟩] ∧
      (∃ first rest, Path.segments "user.name" = first :: rest ∧ "" ∉ first :: rest) ∧
      tokens.Pairwise (·.span.stop ≤ ·.span.start) ∧ isBlank ' ' = true := by
  obtain ⟨htokens, hpairwise, hblank⟩ := Expr.symbols_tile symbols_query
  obtain ⟨-, -, -, -, hpath⟩ := htokens _ List.mem_cons_self
  obtain ⟨-, -, -, hstring, -⟩ := htokens ⟨.string "é", ⟨13, 17⟩⟩ (by decide)
  obtain ⟨first, rest, hsegments, hnone, -⟩ := hpath "user.name" rfl
  refine ⟨_, symbols_query, rfl, hstring, ⟨first, rest, hsegments, hnone⟩, hpairwise, ?_⟩
  exact hblank [] ' ' _ rfl (by decide)

end Sample

end PromptMarkup
