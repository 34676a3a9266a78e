import PromptMarkup.Expr.Grammar
import PromptMarkup.Proofs.Token.Written
/-!
# Expr — symbols are read as they were written

A symbol is written in one way (`Symbol.spelled`), a string in double quotes. A
reader that stands before it takes it back, if what is behind does not run on
with it (`yields_spelled`). Symbols are written one after another with a
blank wherever two of them would run together or a reader looks for one
(`spelledAll`), and are read back as they were (`symbols_spelledAll`).
-/

namespace PromptMarkup

open Text

namespace Expr

/-! ## How symbols are written -/

/-- How a symbol is written. -/
def Symbol.spelled : Symbol → List Char
  | .path name => name.toList
  | .string value => '"' :: (value.toList.flatMap Attributes.valueChar ++ ['"'])
  | .numeral text => text.toList
  | .leftParen => ['(']
  | .rightParen => [')']
  | .comma => [',']
  | .not => ['!']
  | .and => ['&', '&']
  | .or => ['|', '|']
  | .operator op => op.text.toList
  | .keyword word => word.text.toList

/-- A word that is read as a path: words without a dot too many between dots,
and no keyword. -/
def isPathName (name : String) : Bool :=
  match name.toList with
  | [] => false
  | first :: more =>
    isWordStart first && more.all isWordChar &&
      !(splitOn ['.'] (first :: more)).any List.isEmpty && wordSymbol name = .path name

/-- A text that is read as one numeral. -/
def isNumeral (text : String) : Bool :=
  startsNumeral text.toList && text.toList.tail.all isNumeralChar

/-- The symbol can be written. -/
def Symbol.isSpellable : Symbol → Bool
  | .path name => isPathName name
  | .numeral text => isNumeral text
  | _ => true

/-- The symbol, once written, runs on with this character. -/
def Symbol.runsOn : Symbol → Char → Bool
  | .path _ | .keyword _ => isWordChar
  | .numeral _ => isNumeralChar
  | .not | .operator .less | .operator .greater => fun c => c = '='
  | _ => fun _ => false

/-- What is between two symbols: nothing inside of parentheses and of a call,
before a comma and behind a negation, and else a blank. -/
def gap : Symbol → Symbol → List Char
  | .leftParen, _ | _, .rightParen | _, .comma | .path _, .leftParen => []
  | .not, .operator _ => [' ']
  | .not, _ => []
  | _, _ => [' ']

/-- Symbols one after another. -/
def spelledAll : List Symbol → List Char
  | [] => []
  | [symbol] => symbol.spelled
  | symbol :: next :: rest => symbol.spelled ++ (gap symbol next ++ spelledAll (next :: rest))

/-! ## One symbol -/

variable {c after : Cursor} {a : Char} {w : List Char}

/-- A sign stands where its characters do. -/
theorem readSign?_eq (c : Cursor) :
    readSign? c = signs.findSome? fun (sign, symbol) =>
      (dropPrefix? sign.toList c.rest).map fun rest => (symbol, c.past sign.toList rest) := by
  simp only [readSign?, Cursor.eat?, Option.map_map]
  rfl

/-- The characters that a sign begins with. -/
def isSignStart (a : Char) : Bool :=
  ['=', '!', '<', '>', '&', '|', '(', ')', ','].contains a

/-- A character of another kind than these does not begin a sign. -/
theorem isSignStart_eq_false {kind : Char → Bool}
    (hkind : ['=', '!', '<', '>', '&', '|', '(', ')', ','].all (fun b => !kind b) = true)
    (ha : kind a = true) : isSignStart a = false := by
  rw [← Bool.not_eq_true]
  intro hsign
  have hother := List.all_eq_true.1 hkind a (List.contains_iff_mem.1 hsign)
  rw [ha] at hother
  cases hother

theorem readSign?_eq_none (hrest : c.rest = a :: w) (ha : isSignStart a = false) :
    readSign? c = none := by
  rw [readSign?_eq, hrest]
  simp only [isSignStart, List.contains_eq_mem, List.mem_cons, List.not_mem_nil, or_false,
    decide_eq_false_iff_not, not_or] at ha
  obtain ⟨h₁, h₂, h₃, h₄, h₅, h₆, h₇, h₈, h₉⟩ := ha
  simp [signs, dropPrefix?, Ne.symm h₁, Ne.symm h₂, Ne.symm h₃, Ne.symm h₄, Ne.symm h₅, Ne.symm h₆,
    Ne.symm h₇, Ne.symm h₈, Ne.symm h₉]

/-- A sign is read, if what is behind does not make another one of it. -/
theorem readSign?_spelled {symbol : Symbol} {sign : String} (hsign : (sign, symbol) ∈ signs)
    (hrest : c.rest = symbol.spelled ++ w) (hend : ∀ a ∈ w.head?, symbol.runsOn a = false) :
    readSign? c = some (symbol, c.past symbol.spelled w) := by
  rw [readSign?_eq, hrest]
  simp only [signs, List.mem_cons, Prod.mk.injEq, List.not_mem_nil, or_false] at hsign
  rcases hsign with ⟨-, rfl⟩ | ⟨-, rfl⟩ | ⟨-, rfl⟩ | ⟨-, rfl⟩ | ⟨-, rfl⟩ | ⟨-, rfl⟩ | ⟨-, rfl⟩ |
    ⟨-, rfl⟩ | ⟨-, rfl⟩ | ⟨-, rfl⟩ | ⟨-, rfl⟩ | ⟨-, rfl⟩ <;>
    cases w with
    | nil => rfl
    | cons a w =>
      have ha := hend a rfl
      simp_all [signs, dropPrefix?, Symbol.spelled, Symbol.runsOn, Operator.text, eq_comm]

/-- A word that is read as a path begins like one, goes on like one and is no
keyword. -/
theorem of_isPathName {name : String} (h : isPathName name = true) :
    ∃ first more, name.toList = first :: more ∧ isWordStart first = true ∧
      (∀ a ∈ more, isWordChar a = true) ∧
      (splitOn ['.'] (first :: more)).any List.isEmpty = false ∧ wordSymbol name = .path name := by
  rw [isPathName] at h
  split at h
  · cases h
  · next first more heq =>
    simp only [Bool.and_eq_true, List.all_eq_true, Bool.not_eq_true', decide_eq_true_eq] at h
    obtain ⟨⟨⟨hfirst, hmore⟩, hparts⟩, hword⟩ := h
    exact ⟨first, more, heq, hfirst, hmore, hparts, hword⟩

/-- A word does not begin like a numeral. -/
theorem startsNumeral_of_isWordStart {first : Char} (h : isWordStart first = true) (w : List Char) :
    startsNumeral (first :: w) = false := by
  have hdigit : first.isDigit = false := by
    rw [← Bool.not_eq_true, isDigit_iff]
    intro hdigit
    simp only [isWordStart, Bool.or_eq_true, decide_eq_true_eq, isAlpha_iff] at h
    rcases h with h | rfl
    · omega
    · exact absurd hdigit (by decide)
  rw [startsNumeral.eq_def]
  split
  · next heq =>
    cases heq
    exact absurd h (by decide)
  · next heq =>
    cases heq
    exact hdigit
  · rfl

/-- A numeral begins with a digit or a minus, whatever is behind it. -/
theorem of_startsNumeral {t : List Char} (h : startsNumeral t = true) (w : List Char) :
    startsNumeral (t ++ w) = true ∧
      ∃ first more, t = first :: more ∧ (first = '-' ∨ first.isDigit = true) := by
  rw [startsNumeral.eq_def] at h
  split at h
  · next d more => exact ⟨h, '-', d :: more, rfl, .inl rfl⟩
  · next first more hminus =>
    refine ⟨?_, first, more, rfl, .inr h⟩
    have hne : first ≠ '-' := by
      rintro rfl
      cases h
    rw [List.cons_append, startsNumeral.eq_def]
    split
    · next heq => exact absurd (List.cons.inj heq).1 hne
    · next heq => exact (List.cons.inj heq).1 ▸ h
    · next heq => cases heq
  · cases h

/-- The digits of a number are a numeral, with a minus before them or without. -/
theorem isNumeral_toString (n : Int) : isNumeral (toString n) = true := by
  have hdigits : ∀ m, ∃ first more, Nat.toDigits 10 m = first :: more ∧ first.isDigit = true ∧
      ∀ a ∈ more, a.isDigit = true := by
    intro m
    obtain ⟨first, more, heq⟩ := List.exists_cons_of_ne_nil (@Nat.toDigits_ne_nil m 10)
    have hall : ∀ a ∈ first :: more, a.isDigit = true := fun a ha =>
      isDigit_of_mem_toDigits (heq ▸ ha)
    exact ⟨first, more, heq, hall first List.mem_cons_self,
      fun a ha => hall a (List.mem_cons_of_mem _ ha)⟩
  have hkept : ∀ a : Char, a.isDigit = true → isNumeralChar a = true := by
    intro a ha
    rw [isNumeralChar, ha, Bool.true_or]
  cases n with
  | ofNat m =>
    obtain ⟨first, more, heq, hfirst, hmore⟩ := hdigits m
    rw [isNumeral, toList_toString_ofNat, heq, Bool.and_eq_true, List.all_eq_true]
    refine ⟨?_, fun a ha => hkept a (hmore a ha)⟩
    rw [startsNumeral.eq_def]
    split
    · next hminus =>
      rw [(List.cons.inj hminus).1] at hfirst
      exact absurd hfirst (by decide)
    · next hother => exact (List.cons.inj hother).1 ▸ hfirst
    · next hnone => cases hnone
  | negSucc m =>
    obtain ⟨first, more, heq, hfirst, hmore⟩ := hdigits (m + 1)
    rw [isNumeral, toList_toString_negSucc, heq, Bool.and_eq_true, List.all_eq_true]
    refine ⟨hfirst, fun a ha => hkept a ?_⟩
    obtain rfl | ha := List.mem_cons.1 ha
    · exact hfirst
    · exact hmore a ha

/-- **A word is read** up to the first character of another kind. -/
theorem readWord_word {word : String} {first : Char} {more : List Char}
    (hword : word.toList = first :: more) (hfirst : isWordStart first = true)
    (hmore : ∀ a ∈ more, isWordChar a = true)
    (hparts : (splitOn ['.'] (first :: more)).any List.isEmpty = false)
    (hrest : c.rest = first :: (more ++ w)) (hafter : after.rest = more ++ w)
    (hend : ∀ a ∈ w.head?, isWordChar a = false) :
    readWord c first after = .ok (wordSymbol word, after.past more w) := by
  have hne : ∀ b : Char, isWordStart b = false → first ≠ b := by
    rintro b hb rfl
    rw [hfirst] at hb
    cases hb
  have hnumeral := startsNumeral_of_isWordStart hfirst (more ++ w)
  simp only [readWord, hne '=' (by decide), hne '&' (by decide), hne '|' (by decide),
    hne '"' (by decide), hne '\'' (by decide), hrest, hnumeral, hfirst,
    Cursor.run_eq hafter hmore hend, hparts, or_self, if_false, if_true, Bool.false_eq_true]
  rw [← hword, String.ofList_toList]

/-- **A numeral is read** up to the first character that is not of it. -/
theorem readWord_numeral {text : String} {first : Char} {more : List Char}
    (htext : text.toList = first :: more) (hnumeral : isNumeral text = true)
    (hrest : c.rest = first :: (more ++ w)) (hafter : after.rest = more ++ w)
    (hend : ∀ a ∈ w.head?, isNumeralChar a = false) :
    readWord c first after = .ok (.numeral text, after.past more w) := by
  rw [isNumeral, htext, Bool.and_eq_true, List.tail_cons, List.all_eq_true] at hnumeral
  obtain ⟨hstarts, hmore⟩ := hnumeral
  obtain ⟨hstarts, first', more', heq, hfirst⟩ := of_startsNumeral hstarts w
  cases heq
  have hne : ∀ b : Char, b ≠ '-' → b.isDigit = false → first ≠ b := by
    rintro b hminus hdigit rfl
    obtain hfirst | hfirst := hfirst
    · exact hminus hfirst
    · rw [hdigit] at hfirst
      cases hfirst
  rw [List.cons_append] at hstarts
  simp only [readWord, hne '=' (by decide) (by decide), hne '&' (by decide) (by decide),
    hne '|' (by decide) (by decide), hne '"' (by decide) (by decide),
    hne '\'' (by decide) (by decide), hrest, hstarts, Cursor.run_eq hafter hmore hend, or_self,
    if_false, if_true]
  rw [← htext, String.ofList_toList]

/-- **A string is read** up to its closing quote. -/
theorem readWord_string {value : String}
    (hafter : after.rest = value.toList.flatMap Attributes.valueChar ++ '"' :: w) :
    ∃ next, next.rest = w ∧ readWord c '"' after = .ok (.string value, next) := by
  obtain ⟨next, hnext, hread⟩ :=
    @Token.readLiteral?_written unescape rfl rfl value.toList after.position w
  refine ⟨next, hnext, ?_⟩
  rw [readWord, if_neg (by decide), if_neg (by decide), if_neg (by decide), if_pos (.inl rfl),
    hafter, hread]
  simp only [String.ofList_toList]

/-- The symbol stands before the reader, which takes it and leaves `w`. -/
def Yields (c : Cursor) (symbol : Symbol) (w : List Char) : Prop :=
  ∃ a after next, c.next? = some (a, after) ∧ isBlank a = false ∧
    readSymbol c a after = .ok (symbol, next) ∧ next.rest = w

/-- Where no sign begins a word is read. -/
theorem yields_of_readWord {symbol : Symbol} {v : List Char} {next : Cursor}
    (hrest : c.rest = a :: v) (hsign : isSignStart a = false) (hblank : isBlank a = false)
    (hread : readWord c a (c.past [a] v) = .ok (symbol, next)) (hnext : next.rest = w) :
    Yields c symbol w := by
  refine ⟨a, c.past [a] v, next, by rw [Cursor.next?, hrest], hblank, ?_, hnext⟩
  rw [readSymbol, readSign?_eq_none hrest hsign]
  exact hread

/-- Where a sign stands it is read. -/
theorem yields_sign {symbol : Symbol} (sign : String) {first : Char} {more : List Char}
    (hsign : (sign, symbol) ∈ signs) (hspelled : symbol.spelled = first :: more)
    (hblank : isBlank first = false) (hrest : c.rest = symbol.spelled ++ w)
    (hend : ∀ a ∈ w.head?, symbol.runsOn a = false) : Yields c symbol w := by
  have hread := readSign?_spelled hsign hrest hend
  rw [hspelled, List.cons_append] at hrest
  refine ⟨first, c.past [first] (more ++ w), c.past symbol.spelled w,
    by rw [Cursor.next?, hrest], hblank, ?_, rfl⟩
  rw [readSymbol, hread]

theorem yields_word (word : String) {first : Char} {more : List Char}
    (hword : word.toList = first :: more) (hfirst : isWordStart first = true)
    (hmore : ∀ a ∈ more, isWordChar a = true)
    (hparts : (splitOn ['.'] (first :: more)).any List.isEmpty = false)
    (hrest : c.rest = word.toList ++ w) (hend : ∀ a ∈ w.head?, isWordChar a = false) :
    Yields c (wordSymbol word) w := by
  rw [hword, List.cons_append] at hrest
  have hread := readWord_word hword hfirst hmore hparts hrest
    (show (c.past [first] (more ++ w)).rest = more ++ w from rfl) hend
  refine yields_of_readWord hrest (isSignStart_eq_false (by decide) hfirst) ?_ hread rfl
  simp only [isWordStart, Bool.or_eq_true, decide_eq_true_eq] at hfirst
  obtain hfirst | rfl := hfirst
  · exact isBlank_of_isAlphanum (by rw [Char.isAlphanum, hfirst, Bool.true_or])
  · decide

theorem yields_numeral {text : String} (hnumeral : isNumeral text = true)
    (hrest : c.rest = text.toList ++ w) (hend : ∀ a ∈ w.head?, isNumeralChar a = false) :
    Yields c (.numeral text) w := by
  obtain ⟨-, first, more, hchars, hfirst⟩ :=
    of_startsNumeral (Bool.and_eq_true_iff.1 hnumeral).1 w
  rw [hchars, List.cons_append] at hrest
  have hread := readWord_numeral hchars hnumeral hrest
    (show (c.past [first] (more ++ w)).rest = more ++ w from rfl) hend
  have hother : isSignStart first = false ∧ isBlank first = false := by
    obtain rfl | hdigit := hfirst
    · decide
    · exact ⟨isSignStart_eq_false (by decide) hdigit,
        isBlank_of_isAlphanum (isAlphanum_of_isDigit hdigit)⟩
  exact yields_of_readWord hrest hother.1 hother.2 hread rfl

theorem yields_string {value : String} (hrest : c.rest = (Symbol.string value).spelled ++ w) :
    Yields c (.string value) w := by
  simp only [Symbol.spelled, List.cons_append, List.append_assoc, List.nil_append] at hrest
  obtain ⟨next, hnext, hread⟩ := @readWord_string c (c.past ['"'] _) w value rfl
  exact yields_of_readWord hrest (by decide) (by decide) hread hnext

/-- **A symbol is read as it was written**, if what is behind does not run on with
it. -/
theorem yields_spelled {symbol : Symbol} (hsymbol : symbol.isSpellable = true)
    (hrest : c.rest = symbol.spelled ++ w) (hend : ∀ a ∈ w.head?, symbol.runsOn a = false) :
    Yields c symbol w := by
  cases symbol with
  | path name =>
    obtain ⟨first, more, hchars, hfirst, hmore, hparts, hpath⟩ := of_isPathName hsymbol
    exact hpath ▸ yields_word name hchars hfirst hmore hparts hrest hend
  | keyword word =>
    cases word with
    | true =>
      exact yields_word "true" rfl (by decide) (List.all_eq_true.1 (by decide))
        (by decide +kernel) hrest hend
    | false =>
      exact yields_word "false" rfl (by decide) (List.all_eq_true.1 (by decide))
        (by decide +kernel) hrest hend
    | nil =>
      exact yields_word "nil" rfl (by decide) (List.all_eq_true.1 (by decide))
        (by decide +kernel) hrest hend
  | numeral text => exact yields_numeral hsymbol hrest hend
  | string value => exact yields_string hrest
  | leftParen => exact yields_sign "(" (by decide) rfl (by decide) hrest hend
  | rightParen => exact yields_sign ")" (by decide) rfl (by decide) hrest hend
  | comma => exact yields_sign "," (by decide) rfl (by decide) hrest hend
  | not => exact yields_sign "!" (by decide) rfl (by decide) hrest hend
  | and => exact yields_sign "&&" (by decide) rfl (by decide) hrest hend
  | or => exact yields_sign "||" (by decide) rfl (by decide) hrest hend
  | operator op =>
    cases op with
    | equal => exact yields_sign "==" (by decide) rfl (by decide) hrest hend
    | notEqual => exact yields_sign "!=" (by decide) rfl (by decide) hrest hend
    | less => exact yields_sign "<" (by decide) rfl (by decide) hrest hend
    | lessOrEqual => exact yields_sign "<=" (by decide) rfl (by decide) hrest hend
    | greater => exact yields_sign ">" (by decide) rfl (by decide) hrest hend
    | greaterOrEqual => exact yields_sign ">=" (by decide) rfl (by decide) hrest hend

/-! ## One symbol after another -/

/-- A symbol begins with a character, and only operators with an equals sign. -/
theorem spelled_eq_cons {symbol : Symbol} (hsymbol : symbol.isSpellable = true) :
    ∃ first more, symbol.spelled = first :: more ∧
      ((∀ op, symbol ≠ .operator op) → first ≠ '=') := by
  cases symbol with
  | path name =>
    obtain ⟨first, more, hchars, hfirst, -⟩ := of_isPathName hsymbol
    refine ⟨first, more, hchars, ?_⟩
    rintro - rfl
    exact absurd hfirst (by decide)
  | numeral text =>
    obtain ⟨-, first, more, hchars, hfirst⟩ :=
      of_startsNumeral (Bool.and_eq_true_iff.1 hsymbol).1 []
    refine ⟨first, more, hchars, ?_⟩
    rintro - rfl
    exact absurd hfirst (by decide)
  | operator op => cases op <;> exact ⟨_, _, rfl, fun h => absurd rfl (h _)⟩
  | keyword word => cases word <;> exact ⟨_, _, rfl, fun _ => by decide⟩
  | _ => exact ⟨_, _, rfl, fun _ => by decide⟩

/-- Symbols begin with their first symbol. -/
theorem head?_spelledAll {symbol : Symbol} (hsymbol : symbol.isSpellable = true)
    (rest : List Symbol) : (spelledAll (symbol :: rest)).head? = symbol.spelled.head? := by
  cases rest with
  | nil => rfl
  | cons next rest =>
    obtain ⟨first, more, hspelled, -⟩ := spelled_eq_cons hsymbol
    rw [spelledAll, hspelled]
    rfl

/-- What is in no word and no equals sign separates symbols. -/
theorem runsOn_eq_false (symbol : Symbol) {a : Char} (hword : isWordChar a = false)
    (hequals : a ≠ '=') : symbol.runsOn a = false := by
  have hnumeral : isNumeralChar a = false := by
    simp only [isWordChar, isNumeralChar, Char.isAlphanum, Bool.or_eq_false_iff] at hword ⊢
    exact ⟨hword.1.1.2, hword.2⟩
  have hother : decide (a = '=') = false := decide_eq_false hequals
  cases symbol with
  | path name => exact hword
  | keyword word => exact hword
  | numeral text => exact hnumeral
  | not => exact hother
  | operator op => cases op <;> first | exact hother | rfl
  | _ => rfl

/-- **No two symbols run together** with the gap between them. -/
theorem runsOn_gap (symbol : Symbol) {next : Symbol} (hnext : next.isSpellable = true)
    (rest : List Symbol) :
    ∀ a ∈ (gap symbol next ++ spelledAll (next :: rest)).head?, symbol.runsOn a = false := by
  have hblank : ∀ t : List Char, ∀ a ∈ ([' '] ++ t).head?, symbol.runsOn a = false := by
    rintro t a ⟨⟩
    exact runsOn_eq_false symbol (by decide) (by decide)
  rw [gap.eq_def]
  split
  · exact fun a _ => rfl
  · rw [List.nil_append, head?_spelledAll hnext]
    rintro a ⟨⟩
    exact runsOn_eq_false symbol (by decide) (by decide)
  · rw [List.nil_append, head?_spelledAll hnext]
    rintro a ⟨⟩
    exact runsOn_eq_false symbol (by decide) (by decide)
  · next name =>
    rw [List.nil_append, head?_spelledAll hnext]
    rintro a ⟨⟩
    exact runsOn_eq_false (.path name) (by decide) (by decide)
  · exact hblank _
  · next _ _ hoperator =>
    obtain ⟨first, more, hspelled, hfirst⟩ := spelled_eq_cons hnext
    rw [List.nil_append, head?_spelledAll hnext, hspelled]
    rintro a ⟨⟩
    exact decide_eq_false (hfirst hoperator)
  · exact hblank _

theorem isBlank_of_mem_gap {symbol next : Symbol} : ∀ a ∈ gap symbol next, isBlank a = true := by
  rw [gap.eq_def]
  split <;> exact List.all_eq_true.1 (by decide)

/-- Behind white space a reader takes the symbol that it stands before. -/
theorem symbolsFrom_of_yields {symbol : Symbol} {blanks v : List Char}
    (hblanks : ∀ a ∈ blanks, isBlank a = true) (hrest : c.rest = blanks ++ v)
    (h : Yields (c.past blanks v) symbol w) :
    ∃ a after next, (c.past blanks v).next? = some (a, after) ∧
      readSymbol (c.past blanks v) a after = .ok (symbol, next) ∧ next.rest = w ∧
      symbolsFrom c =
        (symbolsFrom next).map (⟨symbol, ⟨(c.past blanks v).offset, next.offset⟩⟩ :: ·) := by
  obtain ⟨a, after, next, hnext, hblank, hread, hw⟩ := h
  have hhead : ∀ x ∈ v.head?, isBlank x = false := by
    intro x hx
    rw [Cursor.next?] at hnext
    split at hnext
    · cases hnext
    · next heq =>
      have heq : v = _ := heq
      rw [heq] at hx
      cases hx
      cases hnext
      exact hblank
  have hskip : c.skipBlanks = c.past blanks v := by
    rw [Cursor.skipBlanks, Cursor.run_eq hrest hblanks hhead]
  refine ⟨a, after, next, hnext, hread, hw, ?_⟩
  rw [symbolsFrom]
  split
  · next hn =>
    rw [hskip, hnext] at hn
    cases hn
  · next a' after' hn =>
    rw [hskip, hnext] at hn
    cases hn
    split
    · next hs =>
      rw [hskip, hread] at hs
      cases hs
    · next hs =>
      rw [hskip, hread] at hs
      cases hs
      rw [hskip]
      cases symbolsFrom next <;> rfl

/-- A reader that stands before symbols takes the first one. -/
theorem symbolsFrom_cons {symbol : Symbol} (hsymbol : symbol.isSpellable = true)
    {blanks : List Char} (hblanks : ∀ a ∈ blanks, isBlank a = true)
    (hrest : c.rest = blanks ++ (symbol.spelled ++ w))
    (hend : ∀ a ∈ w.head?, symbol.runsOn a = false) :
    ∃ span next, next.rest = w ∧
      symbolsFrom c = (symbolsFrom next).map (⟨symbol, span⟩ :: ·) := by
  obtain ⟨_, _, next, -, -, hw, hsymbols⟩ :=
    symbolsFrom_of_yields hblanks hrest (yields_spelled hsymbol rfl hend)
  exact ⟨_, next, hw, hsymbols⟩

/-- A reader that stands before white space alone finds no symbols. -/
theorem symbolsFrom_nil {blanks : List Char} (hblanks : ∀ a ∈ blanks, isBlank a = true)
    (hrest : c.rest = blanks) : symbolsFrom c = .ok [] := by
  have hall : c.rest = blanks ++ [] := by rw [hrest, List.append_nil]
  have hskip : c.skipBlanks = c.past blanks [] := by
    rw [Cursor.skipBlanks, Cursor.run_eq hall hblanks fun _ h => absurd h (Option.not_mem_none _)]
  rw [symbolsFrom]
  split
  · rfl
  · next hn =>
    rw [hskip] at hn
    cases hn

/-- A reader that stands before symbols finds them, and white space before them is
passed over. -/
theorem symbolsFrom_spelledAll {ss : List Symbol}
    (hss : ∀ symbol ∈ ss, symbol.isSpellable = true) {blanks : List Char}
    (hblanks : ∀ a ∈ blanks, isBlank a = true) (hrest : c.rest = blanks ++ spelledAll ss) :
    ∃ located, symbolsFrom c = .ok located ∧ located.map Located.symbol = ss := by
  induction ss generalizing c blanks with
  | nil => exact ⟨[], symbolsFrom_nil hblanks (hrest.trans (List.append_nil blanks)), rfl⟩
  | cons symbol rest ih =>
    have hsymbol := hss symbol List.mem_cons_self
    have hmore : ∀ s ∈ rest, s.isSpellable = true := fun s hs => hss s (List.mem_cons_of_mem _ hs)
    cases rest with
    | nil =>
      obtain ⟨span, next, hnext, hread⟩ := symbolsFrom_cons (w := []) hsymbol hblanks
        (by rw [hrest, spelledAll, List.append_nil]) nofun
      rw [hread, symbolsFrom_nil (List.forall_mem_nil _) hnext]
      exact ⟨[⟨symbol, span⟩], rfl, rfl⟩
    | cons second rest =>
      obtain ⟨span, next, hnext, hread⟩ := symbolsFrom_cons hsymbol hblanks hrest
        (runsOn_gap symbol (hmore second List.mem_cons_self) rest)
      obtain ⟨located, hlocated, hsymbols⟩ := ih hmore isBlank_of_mem_gap hnext
      rw [hread, hlocated]
      exact ⟨⟨symbol, span⟩ :: located, rfl, congrArg (symbol :: ·) hsymbols⟩

/-- **Symbols are read as they were written.** -/
theorem symbols_spelledAll {ss : List Symbol} (hss : ∀ symbol ∈ ss, symbol.isSpellable = true) :
    ∃ located, symbols (String.ofList (spelledAll ss)) = .ok located ∧
      located.map Located.symbol = ss := by
  have hrest : (Cursor.ofSource (String.ofList (spelledAll ss))).rest = [] ++ spelledAll ss := by
    rw [Cursor.ofSource, String.toList_ofList, List.nil_append]
  exact symbolsFrom_spelledAll hss (List.forall_mem_nil _) hrest

/-! ## Paths that are read -/

theorem wordSymbol_eq_path {word name : String} (h : wordSymbol word = .path name) :
    word = name := by
  rw [wordSymbol] at h
  repeat' split at h
  all_goals cases h
  rfl

/-- **Where no sign stands a string is read, a numeral or a word.** -/
theorem readWord_cases {symbol : Symbol} {next : Cursor}
    (h : readWord c a after = .ok (symbol, next)) :
    (∃ value, (a = '"' ∨ a = '\'') ∧
      readLiteral? unescape a after.position after.rest = some (value, next) ∧
      symbol = .string (String.ofList value)) ∨
    (startsNumeral c.rest = true ∧ next = (after.run isNumeralChar).2 ∧
      symbol = .numeral (String.ofList (a :: (after.run isNumeralChar).1))) ∨
    isWordStart a = true ∧ next = (after.run isWordChar).2 ∧
      (splitOn ['.'] (a :: (after.run isWordChar).1)).any List.isEmpty = false ∧
      symbol = wordSymbol (String.ofList (a :: (after.run isWordChar).1)) := by
  simp only [readWord] at h
  split at h
  · cases h
  split at h
  · cases h
  split at h
  · cases h
  split at h
  · next hquote =>
    split at h
    · next value _ hvalue =>
      cases h
      exact .inl ⟨value, hquote, hvalue, rfl⟩
    · cases h
  split at h
  · next hstarts =>
    cases h
    exact .inr (.inl ⟨hstarts, rfl, rfl⟩)
  split at h
  · next hstart =>
    split at h
    · cases h
    · next hparts =>
      cases h
      exact .inr (.inr ⟨hstart, rfl, Bool.not_eq_true _ ▸ hparts, rfl⟩)
  · cases h

/-- Only words are read as paths. -/
theorem isPathName_of_readWord {name : String} {next : Cursor}
    (h : readWord c a after = .ok (.path name, next)) : isPathName name = true := by
  obtain ⟨_, -, -, hstring⟩ | ⟨-, -, hnumeral⟩ | ⟨hstart, -, hparts, hword⟩ := readWord_cases h
  · cases hstring
  · cases hnumeral
  · obtain rfl := wordSymbol_eq_path hword.symm
    obtain ⟨more, rest, -, hmore, -, hrun⟩ := after.run_spec isWordChar
    rw [hrun] at hword hparts ⊢
    simp only [isPathName, String.toList_ofList, Bool.and_eq_true, List.all_eq_true,
      Bool.not_eq_true', decide_eq_true_eq]
    exact ⟨⟨⟨hstart, hmore⟩, hparts⟩, hword.symm⟩

theorem ne_path_of_readSign? {symbol : Symbol} {next : Cursor} {name : String}
    (h : readSign? c = some (symbol, next)) : symbol ≠ .path name := by
  obtain ⟨⟨sign, s⟩, hmem, hfound⟩ := List.exists_of_findSome?_eq_some h
  simp only [Option.map_eq_some_iff, Prod.mk.injEq] at hfound
  obtain ⟨_, -, rfl, -⟩ := hfound
  rintro rfl
  simp [signs] at hmem

theorem isPathName_of_readSymbol {name : String} {next : Cursor}
    (h : readSymbol c a after = .ok (.path name, next)) : isPathName name = true := by
  rw [readSymbol] at h
  split at h
  · next hsign =>
    cases h
    exact absurd rfl (ne_path_of_readSign? hsign)
  · exact isPathName_of_readWord h

/-- **The paths that are read are those that can be written**: a word is read as
one path, and no other symbol, just where it is the name of a path. -/
theorem isPathName_iff {name : String} :
    isPathName name = true ↔ ∃ span, symbols name = .ok [⟨.path name, span⟩] := by
  constructor
  · intro h
    have hspellable : (Symbol.path name).isSpellable = true := h
    obtain ⟨located, hread, hsymbols⟩ :=
      symbols_spelledAll (List.forall_mem_singleton.2 hspellable)
    obtain ⟨⟨_, span⟩, _, rfl, rfl, hnil⟩ := List.map_eq_cons_iff.1 hsymbols
    rw [List.map_eq_nil_iff.1 hnil, spelledAll, Symbol.spelled, String.ofList_toList] at hread
    exact ⟨span, hread⟩
  · rintro ⟨span, h⟩
    rw [symbols, symbolsFrom] at h
    split at h
    · cases h
    · split at h
      · cases h
      · next symbol next hread =>
        split at h
        · cases h
        · cases h
          exact isPathName_of_readSymbol hread

end Expr

end PromptMarkup
