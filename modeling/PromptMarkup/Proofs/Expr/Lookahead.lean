import PromptMarkup.Proofs.Expr.Tiles
import PromptMarkup.Proofs.Source.InStep
/-!
# Expr — looking one character ahead

The readers of symbols look at whatever is left of a condition. One may as well
take its characters one by one and keep the one that was looked at before it is
read (`Window`). Looking leaves the place as it is, and what is read next is what
was looked at (`Window.Shows.peek`, `Window.Shows.bump`), so a reader that does
nothing else finds the same symbols, in the same places, or the same fault
(`Window.symbols_eq`).
-/

namespace PromptMarkup

open Text

namespace Expr

/-- A condition that is being read: the number of bytes that are read, the
character that was looked at and is not read yet, and the characters behind
it. -/
structure Window where
  offset : Nat
  peeked : Option Char
  chars : List Char

namespace Window

/-! ## Looking and reading -/

/-- What is left to read. -/
def rest (w : Window) : List Char :=
  w.peeked.toList ++ w.chars

/-- Looks at the next character, which is kept until it is read. -/
def peek (w : Window) : Option Char × Window :=
  match w.peeked, w.chars with
  | some ch, _ => (some ch, w)
  | none, [] => (none, w)
  | none, ch :: more => (some ch, { w with peeked := some ch, chars := more })

/-- Reads the next character: the one that is kept, if there is one. -/
def bump (w : Window) : Option Char × Window :=
  match w.peeked, w.chars with
  | some ch, _ => (some ch, { w with offset := w.offset + ch.utf8Size, peeked := none })
  | none, [] => (none, w)
  | none, ch :: more => (some ch, { w with offset := w.offset + ch.utf8Size, chars := more })

variable {w looked behind : Window} {c after next : Cursor} {ch : Char} {symbol : Symbol}

theorem peek_length (h : w.peek = (some ch, looked)) : looked.rest.length = w.rest.length := by
  obtain ⟨offset, _ | kept, _ | ⟨d, more⟩⟩ := w <;> cases h <;> rfl

theorem rest_of_bump (h : w.bump = (some ch, behind)) : w.rest = ch :: behind.rest := by
  obtain ⟨offset, _ | kept, _ | ⟨d, more⟩⟩ := w <;> cases h <;> rfl

theorem bump_length (h : w.bump = (some ch, behind)) :
    behind.rest.length + 1 = w.rest.length := by
  rw [rest_of_bump h, List.length_cons]

/-- What was looked at is read next. -/
theorem bump_peek (h : w.peek = (some ch, looked)) : looked.bump.1 = some ch := by
  obtain ⟨offset, _ | kept, _ | ⟨d, more⟩⟩ := w <;> cases h <;> rfl

/-- Reading what was looked at takes a character away. -/
theorem bump_peek_length (h : w.peek = (some ch, looked)) :
    looked.bump.2.rest.length < w.rest.length := by
  have hbump := bump_length (Prod.ext (bump_peek h) rfl : looked.bump = (some ch, looked.bump.2))
  have hpeek := peek_length h
  omega

/-! ## The readers -/

/-- Reads characters as long as they are of a kind. -/
def passWhile (kind : Char → Bool) (w : Window) : List Char × Window :=
  match _h : w.peek with
  | (none, looked) => ([], looked)
  | (some ch, looked) =>
    if kind ch then
      let (more, behind) := passWhile kind looked.bump.2
      (ch :: more, behind)
    else ([], looked)
termination_by w.rest.length
decreasing_by exact bump_peek_length _h

/-- Reads a string from behind its opening quote, up to and including the closing
one. -/
def readLiteral? (quote : Char) (w : Window) : Option (List Char × Window) :=
  match _h : w.bump with
  | (none, _) => none
  | (some ch, behind) =>
    if ch = quote then some ([], behind)
    else if ch = '\\' then
      match _h' : behind.bump with
      | (none, _) => none
      | (some d, last) =>
        (readLiteral? quote last).map fun (value, next) => (unescape d ++ value, next)
    else (readLiteral? quote behind).map fun (value, next) => (ch :: value, next)
termination_by w.rest.length
decreasing_by
  · have := bump_length _h
    have := bump_length _h'
    omega
  · have := bump_length _h
    omega

/-- Reads a sign from behind its first character: the one that goes on with this
second character, if it is next, or else the one that does not. -/
def readSign (second : Char) (long : Symbol) (short : Except ExprFault Symbol) (w : Window) :
    Except ExprFault (Symbol × Window) :=
  let (next, looked) := w.peek
  if next = some second then .ok (long, looked.bump.2) else short.map (·, looked)

/-- Reads a symbol that is not a sign from behind its first character. The next
one was looked at. -/
def readWord (start : Nat) (ch : Char) (next : Option Char) (w : Window) :
    Except ExprFault (Symbol × Window) :=
  if ch = '"' ∨ ch = '\'' then
    match w.readLiteral? ch with
    | some (value, behind) => .ok (.string (String.ofList value), behind)
    | none => .error (.unterminatedString start)
  else if ch.isDigit = true ∨ ch = '-' ∧ next.any Char.isDigit then
    let (more, behind) := w.passWhile isNumeralChar
    .ok (.numeral (String.ofList (ch :: more)), behind)
  else if isWordStart ch then
    let (more, behind) := w.passWhile isWordChar
    if (splitOn ['.'] (ch :: more)).any List.isEmpty then
      .error (.malformedPath (String.ofList (ch :: more)) start)
    else .ok (wordSymbol (String.ofList (ch :: more)), behind)
  else .error (.unexpectedCharacter ch start)

/-- Reads a symbol from behind its first character, which stands at `start`. -/
def readSymbol (start : Nat) (ch : Char) (w : Window) : Except ExprFault (Symbol × Window) :=
  let (next, looked) := w.peek
  match ch with
  | '(' => .ok (.leftParen, looked)
  | ')' => .ok (.rightParen, looked)
  | ',' => .ok (.comma, looked)
  | '=' => looked.readSign '=' (.operator .equal) (.error (.assignment start))
  | '!' => looked.readSign '=' (.operator .notEqual) (.ok .not)
  | '<' => looked.readSign '=' (.operator .lessOrEqual) (.ok (.operator .less))
  | '>' => looked.readSign '=' (.operator .greaterOrEqual) (.ok (.operator .greater))
  | '&' => looked.readSign '&' .and (.error (.singleAmpersand start))
  | '|' => looked.readSign '|' .or (.error (.singleBar start))
  | ch => looked.readWord start ch next

/-! ## In step with the cursor -/

/-- The window is open on what a cursor has left, in the same place. -/
structure Shows (w : Window) (c : Cursor) : Prop where
  rest : w.rest = c.rest
  offset : w.offset = c.offset

namespace Shows

/-- **Looking leaves the place as it is.** -/
theorem peek (h : w.Shows c) : ∃ looked, w.peek = (c.rest.head?, looked) ∧ looked.Shows c := by
  rw [← h.rest]
  obtain ⟨offset, _ | kept, _ | ⟨d, more⟩⟩ := w <;> exact ⟨_, rfl, h.rest, h.offset⟩

/-- **Reading goes on by the next character**, looked at or not. -/
theorem bump (h : w.Shows c) {rest : List Char} (hrest : c.rest = ch :: rest) :
    ∃ behind, w.bump = (some ch, behind) ∧ behind.Shows (c.past [ch] rest) := by
  have hleft := h.rest.trans hrest
  have hplace : w.offset + ch.utf8Size = (c.past [ch] rest).offset := by
    rw [h.offset]
    exact (Position.offset_advanceBy _ [ch]).symm
  obtain ⟨offset, _ | kept, _ | ⟨d, more⟩⟩ := w <;> cases hleft <;> exact ⟨_, rfl, rfl, hplace⟩

theorem bump_eq_none (h : w.Shows c) (hrest : c.rest = []) : w.bump = (none, w) := by
  have hleft := h.rest.trans hrest
  obtain ⟨offset, _ | kept, _ | ⟨d, more⟩⟩ := w <;> cases hleft
  rfl

theorem passWhile (h : w.Shows c) (kind : Char → Bool) :
    Besides Shows (w.passWhile kind) (c.run kind) := by
  generalize hrest : c.rest = cs
  induction cs generalizing w c with
  | nil =>
    obtain ⟨looked, hpeek, hlooked⟩ := h.peek
    rw [Window.passWhile, hpeek, hrest, Cursor.run_nil kind hrest]
    exact ⟨rfl, hlooked⟩
  | cons d rest ih =>
    obtain ⟨looked, hpeek, hlooked⟩ := h.peek
    obtain ⟨behind, hbump, hbehind⟩ := hlooked.bump hrest
    obtain ⟨hmore, hlast⟩ := ih hbehind rfl
    rw [Window.passWhile, hpeek, hrest, Cursor.run_cons kind hrest]
    cases hkind : kind d with
    | true =>
      simp only [List.head?_cons, hkind, if_true, hbump]
      exact ⟨congrArg (d :: ·) hmore, hlast⟩
    | false =>
      simp only [List.head?_cons, hkind, if_false, Bool.false_eq_true]
      exact ⟨rfl, hlooked⟩

theorem skipBlanks (h : w.Shows c) : (w.passWhile isBlank).2.Shows c.skipBlanks :=
  (h.passWhile isBlank).2

theorem readLiteral? {quote : Char} {p : Position} {cs : List Char} (h : w.Shows ⟨p, cs⟩) :
    Option.Rel (Besides Shows) (w.readLiteral? quote)
      (PromptMarkup.readLiteral? unescape quote p cs) := by
  fun_induction PromptMarkup.readLiteral? unescape quote p cs generalizing w with
  | case1 =>
    rw [Window.readLiteral?, h.bump_eq_none rfl]
    exact .none
  | case2 p rest =>
    obtain ⟨behind, hbump, hbehind⟩ := h.bump rfl
    rw [Window.readLiteral?, hbump]
    simp only [if_true]
    exact .some ⟨rfl, hbehind⟩
  | case3 p hquote =>
    obtain ⟨behind, hbump, hbehind⟩ := h.bump rfl
    rw [Window.readLiteral?, hbump]
    simp only [hquote, if_false, if_true]
    rw [hbehind.bump_eq_none rfl]
    exact .none
  | case4 p ch more hquote ih =>
    obtain ⟨behind, hbump, hbehind⟩ := h.bump rfl
    obtain ⟨last, hbump', hlast⟩ := hbehind.bump rfl
    rw [Window.readLiteral?, hbump]
    simp only [hquote, if_false, if_true]
    rw [hbump']
    exact rel_map (unescape ch ++ ·) (ih hlast)
  | case5 p ch rest hquote hescape ih =>
    obtain ⟨behind, hbump, hbehind⟩ := h.bump rfl
    rw [Window.readLiteral?, hbump]
    simp only [hquote, hescape, if_false]
    exact rel_map (ch :: ·) (ih hbehind)

/-- A sign with a second character is told from the one without it by looking. -/
theorem readSign (h : w.Shows after) {second : Char} {long : Symbol}
    {short : Except ExprFault Symbol} {read : Except ExprFault (Symbol × Cursor)}
    (hlong : ∀ more, after.rest = second :: more → read = .ok (long, after.past [second] more))
    (hshort : after.rest.head? ≠ some second → read = short.map (·, after)) :
    InStep (Besides Shows) (w.readSign second long short) read := by
  obtain ⟨looked, hpeek, hlooked⟩ := h.peek
  rw [Window.readSign, hpeek]
  by_cases hnext : after.rest.head? = some second
  · obtain ⟨more, hrest⟩ := List.head?_eq_some_iff.1 hnext
    obtain ⟨behind, hbump, hbehind⟩ := hlooked.bump hrest
    rw [hlong more hrest]
    simp only [hnext, if_true, hbump]
    exact .ok ⟨rfl, hbehind⟩
  · rw [hshort hnext]
    simp only [hnext, if_false]
    cases short with
    | error fault => exact .error fault
    | ok symbol => exact .ok ⟨rfl, hlooked⟩

/-- A symbol that is not a sign is read in step. -/
theorem readWord (h : w.Shows after) (hrest : c.rest = ch :: after.rest)
    (hothers : ch ≠ '=' ∧ ch ≠ '&' ∧ ch ≠ '|') :
    InStep (Besides Shows) (w.readWord c.offset ch after.rest.head?)
      (Expr.readWord c ch after) := by
  obtain ⟨hequals, hand, hor⟩ := hothers
  have hstarts : startsNumeral c.rest = true ↔
      ch.isDigit = true ∨ ch = '-' ∧ after.rest.head?.any Char.isDigit = true := by
    rw [hrest, startsNumeral_cons_iff, Option.any_eq_true]
    rfl
  rw [Window.readWord, Expr.readWord, if_neg hequals, if_neg hand, if_neg hor]
  by_cases hquote : ch = '"' ∨ ch = '\''
  · have hvalue : Option.Rel (Besides Shows) (w.readLiteral? ch)
        (PromptMarkup.readLiteral? unescape ch after.position after.rest) := h.readLiteral?
    rw [if_pos hquote, if_pos hquote]
    generalize w.readLiteral? ch = x at hvalue ⊢
    generalize PromptMarkup.readLiteral? unescape ch after.position after.rest = y at hvalue ⊢
    cases hvalue with
    | none => exact .error _
    | some hread =>
      exact .ok ⟨congrArg (fun value => Symbol.string (String.ofList value)) hread.1, hread.2⟩
  · rw [if_neg hquote, if_neg hquote]
    by_cases hnumeral : startsNumeral c.rest = true
    · obtain ⟨hmore, hlast⟩ := h.passWhile isNumeralChar
      rw [if_pos (hstarts.1 hnumeral), if_pos hnumeral]
      exact .ok ⟨congrArg (fun more => Symbol.numeral (String.ofList (ch :: more))) hmore, hlast⟩
    · obtain ⟨hmore, hlast⟩ := h.passWhile isWordChar
      rw [if_neg (mt hstarts.2 hnumeral), if_neg hnumeral]
      simp only [hmore]
      split
      · split
        · exact .error _
        · exact .ok ⟨rfl, hlast⟩
      · exact .error _

end Shows

/-! ## Signs -/

/-- A cursor reads a sign if what is behind does not make another one of it. -/
theorem readSymbol_sign (hrest : c.rest = ch :: after.rest) (hpast : after = c.past [ch] after.rest)
    (hsign : symbol ∈ signs.map Prod.snd) {more behind : List Char}
    (hspelled : symbol.spelled = ch :: more) (hafter : after.rest = more ++ behind)
    (hend : ∀ d ∈ behind.head?, symbol.runsOn d = false) :
    Expr.readSymbol c ch after = .ok (symbol, after.past more behind) := by
  obtain ⟨⟨sign, _⟩, hmem, rfl⟩ := List.mem_map.1 hsign
  have hwhole : c.rest = ch :: more ++ behind := by rw [hrest, hafter, List.cons_append]
  have hread := readSign?_spelled hmem (hspelled ▸ hwhole) hend
  rw [Expr.readSymbol, hread, hspelled, hpast, Cursor.past_past]
  rfl

/-- A sign that has to be doubled is none by itself. -/
theorem readSymbol_single (hrest : c.rest = ch :: after.rest)
    (hdouble : ch = '=' ∨ ch = '&' ∨ ch = '|') (hnext : after.rest.head? ≠ some ch) :
    Expr.readSymbol c ch after = Expr.readWord c ch after := by
  have hnone : readSign? c = none := by
    rw [readSign?_eq, hrest]
    cases hmore : after.rest with
    | nil => rcases hdouble with rfl | rfl | rfl <;> rfl
    | cons d more =>
      have hd : d ≠ ch := fun heq => hnext (by rw [hmore, heq, List.head?_cons])
      rcases hdouble with rfl | rfl | rfl <;> simp [signs, dropPrefix?, Ne.symm hd]
  rw [Expr.readSymbol, hnone]

/-- **A symbol is read in step** from behind its first character. -/
theorem Shows.readSymbol (h : w.Shows after) (hrest : c.rest = ch :: after.rest)
    (hpast : after = c.past [ch] after.rest) :
    InStep (Besides Shows) (w.readSymbol c.offset ch) (Expr.readSymbol c ch after) := by
  have hwhole (symbol : Symbol) (hsign : symbol ∈ signs.map Prod.snd)
      (hspelled : symbol.spelled = [ch]) (hend : ∀ d ∈ after.rest.head?, symbol.runsOn d = false) :
      Expr.readSymbol c ch after = .ok (symbol, after) :=
    readSymbol_sign hrest hpast hsign hspelled rfl hend
  have hlonger (symbol : Symbol) (second : Char) (hsign : symbol ∈ signs.map Prod.snd)
      (hspelled : symbol.spelled = [ch, second]) (hend : symbol.runsOn = fun _ => false)
      (more : List Char) (hmore : after.rest = second :: more) :
      Expr.readSymbol c ch after = .ok (symbol, after.past [second] more) :=
    readSymbol_sign hrest hpast hsign hspelled hmore fun d _ => congrFun hend d
  have hshorter (symbol : Symbol) (hsign : symbol ∈ signs.map Prod.snd)
      (hspelled : symbol.spelled = [ch]) (hend : symbol.runsOn = fun d => decide (d = '='))
      (hnext : after.rest.head? ≠ some '=') :
      Expr.readSymbol c ch after = .ok (symbol, after) := by
    refine hwhole symbol hsign hspelled fun d hd => ?_
    rw [hend, decide_eq_false_iff_not]
    exact fun heq => hnext (heq ▸ hd)
  obtain ⟨looked, hpeek, hlooked⟩ := h.peek
  rw [Window.readSymbol, hpeek]
  simp only
  split
  · rw [hwhole .leftParen (by decide) rfl fun _ _ => rfl]
    exact .ok ⟨rfl, hlooked⟩
  · rw [hwhole .rightParen (by decide) rfl fun _ _ => rfl]
    exact .ok ⟨rfl, hlooked⟩
  · rw [hwhole .comma (by decide) rfl fun _ _ => rfl]
    exact .ok ⟨rfl, hlooked⟩
  · exact hlooked.readSign (hlonger _ _ (by decide) rfl rfl)
      (readSymbol_single hrest (.inl rfl))
  · exact hlooked.readSign (hlonger _ _ (by decide) rfl rfl)
      (hshorter .not (by decide) rfl rfl)
  · exact hlooked.readSign (hlonger _ _ (by decide) rfl rfl)
      (hshorter (.operator .less) (by decide) rfl rfl)
  · exact hlooked.readSign (hlonger _ _ (by decide) rfl rfl)
      (hshorter (.operator .greater) (by decide) rfl rfl)
  · exact hlooked.readSign (hlonger _ _ (by decide) rfl rfl)
      (readSymbol_single hrest (.inr (.inl rfl)))
  · exact hlooked.readSign (hlonger _ _ (by decide) rfl rfl)
      (readSymbol_single hrest (.inr (.inr rfl)))
  · next hopen hclose hcomma hequals hnot hless hgreater hand hor =>
    have hnone : isSignStart ch = false := by
      simp only [isSignStart, List.contains_eq_mem, List.mem_cons, List.not_mem_nil, or_false,
        decide_eq_false_iff_not, not_or]
      exact ⟨hequals, hnot, hless, hgreater, hand, hor, hopen, hclose, hcomma⟩
    rw [Expr.readSymbol, readSign?_eq_none hrest hnone]
    exact hlooked.readWord hrest ⟨hequals, hand, hor⟩

/-- The next character is read, and with it the symbol that it begins. -/
theorem Shows.bump_readSymbol (h : w.Shows c) (hnext : c.next? = some (ch, after)) :
    ∃ behind, w.bump = (some ch, behind) ∧
      InStep (Besides Shows) (behind.readSymbol w.offset ch) (Expr.readSymbol c ch after) := by
  cases hrest : c.rest with
  | nil =>
    rw [Cursor.next?, hrest] at hnext
    cases hnext
  | cons d rest =>
    rw [Cursor.next?, hrest] at hnext
    cases hnext
    obtain ⟨behind, hbump, hbehind⟩ := h.bump hrest
    rw [h.offset]
    exact ⟨behind, hbump, hbehind.readSymbol hrest rfl⟩

/-! ## All symbols -/

/-- A cursor that has the same left to read, in the same place. -/
def cursor (w : Window) : Cursor :=
  ⟨⟨1, 1, w.offset⟩, w.rest⟩

theorem readSymbol_length (hbump : w.bump = (some ch, behind)) {last : Window}
    (h : behind.readSymbol w.offset ch = .ok (symbol, last)) :
    last.rest.length < w.rest.length := by
  have hnext : w.cursor.next? = some (ch, w.cursor.past [ch] behind.rest) := by
    rw [Cursor.next?, show w.cursor.rest = _ from rest_of_bump hbump]
  obtain ⟨found, hfound, hstep⟩ := Shows.bump_readSymbol ⟨rfl, rfl⟩ hnext
  cases hbump.symm.trans hfound
  cases hread : Expr.readSymbol w.cursor ch (w.cursor.past [ch] behind.rest) with
  | error fault =>
    rw [hread] at hstep
    cases h.symm.trans hstep.eq_error
  | ok found =>
    obtain ⟨symbol', next⟩ := found
    rw [hread] at hstep
    obtain ⟨last', hlast', hlast⟩ := hstep.eq_ok
    cases h.symm.trans hlast'
    have hafter := Cursor.next?_length hnext
    rw [hlast.rest]
    exact Expr.readSymbol_length (by omega) hread

/-- Reads symbols one after another. -/
def symbolsFrom (w : Window) : Except ExprFault (List Located) :=
  let here := (w.passWhile isBlank).2
  match _hb : here.bump with
  | (none, _) => .ok []
  | (some ch, behind) =>
    match _hs : behind.readSymbol here.offset ch with
    | .error fault => .error fault
    | .ok (symbol, last) =>
      match symbolsFrom last with
      | .error fault => .error fault
      | .ok more => .ok (⟨symbol, ⟨here.offset, last.offset⟩⟩ :: more)
termination_by w.rest.length
decreasing_by
  have hskip : (w.passWhile isBlank).2.Shows w.cursor.skipBlanks := Shows.skipBlanks ⟨rfl, rfl⟩
  have hle := w.cursor.skipBlanks_length_le
  rw [← hskip.rest] at hle
  exact Nat.lt_of_lt_of_le (readSymbol_length _hb _hs) hle

/-- The symbols of a condition. -/
def symbols (source : String) : Except ExprFault (List Located) :=
  symbolsFrom ⟨0, none, source.toList⟩

theorem symbolsFrom_eq (h : w.Shows c) : w.symbolsFrom = Expr.symbolsFrom c := by
  fun_induction Expr.symbolsFrom c generalizing w
  case case1 c here hnone =>
    have hend : c.skipBlanks.rest = [] := by
      rw [Cursor.next?] at hnone
      split at hnone
      · assumption
      · cases hnone
    rw [symbolsFrom, h.skipBlanks.bump_eq_none hend]
  case case2 c here ch after hnext fault hread =>
    obtain ⟨behind, hbump, hstep⟩ := h.skipBlanks.bump_readSymbol hnext
    rw [hread] at hstep
    rw [symbolsFrom, hbump]
    simp only
    rw [hstep.eq_error]
  case case3 c here ch after hnext symbol next hread fault hmore ih =>
    obtain ⟨behind, hbump, hstep⟩ := h.skipBlanks.bump_readSymbol hnext
    rw [hread] at hstep
    obtain ⟨last, hlast, hshows⟩ := hstep.eq_ok
    rw [symbolsFrom, hbump]
    simp only
    rw [hlast]
    simp only [ih hshows, hmore]
  case case4 c here ch after hnext symbol next hread more hmore ih =>
    obtain ⟨behind, hbump, hstep⟩ := h.skipBlanks.bump_readSymbol hnext
    rw [hread] at hstep
    obtain ⟨last, hlast, hshows⟩ := hstep.eq_ok
    rw [symbolsFrom, hbump]
    simp only
    rw [hlast]
    simp only [ih hshows, hmore, h.skipBlanks.offset, hshows.offset]
    rfl

/-- **Looking ahead changes nothing**: the symbols that are found, their places
and the fault are the same for every condition. -/
theorem symbols_eq (source : String) : symbols source = Expr.symbols source :=
  symbolsFrom_eq ⟨rfl, rfl⟩

end Window

end Expr

end PromptMarkup
