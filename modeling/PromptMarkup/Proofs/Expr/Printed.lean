import PromptMarkup.Proofs.Expr.Arranged
import PromptMarkup.Proofs.Expr.Spelled
/-!
# Expr — conditions are printed with the parentheses they need

A condition is printed as its parts around its sign, and a part is put in
parentheses only where a closer level is due than its own (`enclosed`). What is
printed has a derivation that means the condition (`derived_printed`), and none
that does has fewer symbols (`length_printed_le`). Every condition whose
literals and names can be written is parsed back from its text, which completes
what there is to say of the grammar (`parse_grammar`).
-/

namespace PromptMarkup

namespace Expr

/-! ## Printing -/

/-- The level that a condition is derived at. -/
def level : Expr → Level
  | .or _ _ => .chain .or
  | .and _ _ => .chain .and
  | .compare _ _ _ => .comparison
  | .not _ => .operand
  | .literal _ | .path _ | .call _ _ => .primary

/-- The levels from the loosest to the closest. -/
def Level.rank : Level → Nat
  | .chain .or => 0
  | .chain .and => 1
  | .comparison => 2
  | .operand => 3
  | .primary => 4

/-- The symbols of a condition where a level is due: in parentheses if the
condition is of a looser one. -/
def enclosed (due : Level) (e : Expr) (symbols : List Symbol) : List Symbol :=
  if e.level.rank < due.rank then .leftParen :: (symbols ++ [.rightParen]) else symbols

/-- The symbol of a literal. Lists and records have none of their own. -/
def literalSymbol : Value → Symbol
  | .text s => .string s
  | .number n => .numeral n.text
  | .boolean true => .keyword .true
  | .boolean false => .keyword .false
  | .null | .list _ | .record _ => .keyword .nil

mutual

/-- The symbols of a condition, with the parentheses that the levels require. -/
def printed : Expr → List Symbol
  | .literal value => [literalSymbol value]
  | .path name => [.path name]
  | .call name args => .path name :: .leftParen :: (printedAll args ++ [.rightParen])
  | .not inner => .not :: enclosed .operand inner inner.printed
  | .and left right =>
    enclosed (.chain .and) left left.printed ++ .and :: enclosed .comparison right right.printed
  | .or left right =>
    enclosed (.chain .or) left left.printed ++ .or :: enclosed (.chain .and) right right.printed
  | .compare op left right =>
    enclosed .operand left left.printed ++ .operator op :: enclosed .operand right right.printed

/-- The symbols of arguments, with commas between them. -/
def printedAll : List Expr → List Symbol
  | [] => []
  | [e] => e.printed
  | e :: second :: rest => e.printed ++ .comma :: printedAll (second :: rest)

end

/-- The text of a condition. -/
def text (e : Expr) : String :=
  String.ofList (spelledAll e.printed)

/-- A literal that can be written: a string, a truth value, nothing, or an
integer that sixty-four bits hold. -/
def isWritable : Value → Bool
  | .text _ | .boolean _ | .null => true
  | .number (.integer n) => -2 ^ 63 ≤ n && n < 2 ^ 64
  | .number (.real _) | .list _ | .record _ => false

mutual

/-- Every literal and every name of a condition can be written. -/
def isPrintable : Expr → Bool
  | .literal value => isWritable value
  | .path name => isPathName name
  | .call name args => isPathName name && !name.toList.contains '.' && isPrintableAll args
  | .not inner => inner.isPrintable
  | .and left right | .or left right | .compare _ left right =>
    left.isPrintable && right.isPrintable

/-- Every literal and every name of several conditions can be written. -/
def isPrintableAll : List Expr → Bool
  | [] => true
  | e :: rest => e.isPrintable && isPrintableAll rest

end

/-! ## What is printed has a derivation -/

/-- A condition has a derivation at a level with these symbols. -/
def Derived (level : Level) (e : Expr) (symbols : List Symbol) : Prop :=
  ∃ d : Derivation (.level level), d.symbols = symbols ∧ d.meaning = e

variable {e left right : Expr} {ss ss' : List Symbol}

/-- The next looser level. -/
def Level.looser : Level → Level
  | .primary => .operand
  | .operand => .comparison
  | .comparison => .chain .and
  | .chain _ => .chain .or

theorem Derived.looser {level : Level} (h : Derived level e ss) : Derived level.looser e ss := by
  obtain ⟨d, rfl, rfl⟩ := h
  cases level with
  | primary => exact ⟨.plain d, rfl, rfl⟩
  | operand => exact ⟨.single d, rfl, rfl⟩
  | comparison => exact ⟨.chain d .done, List.append_nil _, rfl⟩
  | chain op =>
    cases op with
    | or => exact ⟨d, rfl, rfl⟩
    | and => exact ⟨.chain d .done, List.append_nil _, rfl⟩

/-- What is derived at a level is derived at all looser ones. -/
theorem Derived.loosen {level due : Level} (h : Derived level e ss) (hdue : due.rank ≤ level.rank) :
    Derived due e ss := by
  have hstep : ∀ n (level : Level), level.rank = due.rank + n → Derived level e ss →
      Derived due e ss := by
    intro n
    induction n with
    | zero =>
      intro level hrank h
      have heq : level = due := by
        rcases level with (_ | _) | _ | _ | _ <;> rcases due with (_ | _) | _ | _ | _ <;>
          first | rfl | exact absurd hrank (by decide)
      exact heq ▸ h
    | succ n ih =>
      intro level hrank h
      refine ih level.looser ?_ h.looser
      rcases level with (_ | _) | _ | _ | _ <;> simp only [Level.looser, Level.rank] at hrank ⊢ <;>
        omega
  exact hstep (level.rank - due.rank) level (by omega) h

/-- Parentheses make up for a level that is too loose. -/
theorem Derived.enclosed (h : Derived e.level e ss) (due : Level) :
    Derived due e (enclosed due e ss) := by
  rw [Expr.enclosed]
  split
  · obtain ⟨d, hsymbols, hmeaning⟩ : Derived (.chain .or) e ss := h.loosen (Nat.zero_le _)
    have hgroup : Derived .primary e (.leftParen :: (ss ++ [.rightParen])) :=
      ⟨.group d, by rw [Derivation.symbols, hsymbols], hmeaning⟩
    exact hgroup.loosen (by rcases due with (_ | _) | _ | _ | _ <;> decide)
  · next hrank => exact h.loosen (Nat.le_of_not_lt hrank)

/-- The further members of a chain with one more at their end. -/
def Derivation.snoc {op : Connective} :
    Derivation (.more op) → Derivation (.level op.member) → Derivation (.more op)
  | .done, last => .member last .done
  | .member next more, last => .member next (more.snoc last)

theorem Derivation.symbols_snoc {op : Connective} :
    ∀ (more : Derivation (.more op)) (last : Derivation (.level op.member)),
      (more.snoc last).symbols = more.symbols ++ op.symbol :: last.symbols
  | .done, last => by
    simp only [snoc, symbols, List.append_nil, List.nil_append]
  | .member next more, last => by
    simp only [snoc, symbols, symbols_snoc more last, List.cons_append, List.append_assoc]

theorem Derivation.meaning_snoc {op : Connective} :
    ∀ (more : Derivation (.more op)) (last : Derivation (.level op.member)) (left : Expr),
      (more.snoc last).meaning left = op.join (more.meaning left) last.meaning
  | .done, last, left => by
    simp only [snoc, meaning, id]
  | .member next more, last, left => by
    simp only [snoc, meaning, meaning_snoc more last]

/-- A chain takes one more member to its right. -/
theorem Derived.join {op : Connective} (hleft : Derived (.chain op) left ss)
    (hright : Derived op.member right ss') :
    Derived (.chain op) (op.join left right) (ss ++ op.symbol :: ss') := by
  obtain ⟨dleft, rfl, rfl⟩ := hleft
  obtain ⟨dright, rfl, rfl⟩ := hright
  cases dleft with
  | chain first more =>
    refine ⟨.chain first (more.snoc dright), ?_, ?_⟩
    · rw [Derivation.symbols, Derivation.symbols, Derivation.symbols_snoc, List.append_assoc]
    · exact Derivation.meaning_snoc more dright first.meaning

theorem Derived.not (h : Derived .operand e ss) : Derived .operand (.not e) (.not :: ss) := by
  obtain ⟨d, rfl, rfl⟩ := h
  exact ⟨.not d, rfl, rfl⟩

theorem Derived.compare (hleft : Derived .operand left ss) (hright : Derived .operand right ss')
    (op : Operator) : Derived .comparison (.compare op left right) (ss ++ .operator op :: ss') := by
  obtain ⟨dleft, rfl, rfl⟩ := hleft
  obtain ⟨dright, rfl, rfl⟩ := hright
  exact ⟨.compare dleft op dright, rfl, rfl⟩

/-- A call is derived from the arguments, if it has any. -/
theorem derived_call {name : String} {args : List Expr}
    (hplain : name.toList.contains '.' = false)
    (hargs : args = [] ∧ ss = [] ∨
      ∃ d : Derivation .argumentList, d.symbols = ss ∧ d.meaning = args) :
    Derived .primary (.call name args) (.path name :: .leftParen :: (ss ++ [.rightParen])) := by
  obtain ⟨rfl, rfl⟩ | ⟨d, rfl, rfl⟩ := hargs
  · exact ⟨.call name hplain .noArguments, rfl, rfl⟩
  · exact ⟨.call name hplain (.someArguments d), rfl, rfl⟩

/-- A literal that can be written has a derivation from its symbol. -/
theorem derived_literal {value : Value} (h : isWritable value = true) :
    Derived .primary (.literal value) [literalSymbol value] := by
  cases value with
  | text s => exact ⟨.string s, rfl, rfl⟩
  | boolean b =>
    cases b with
    | true => exact ⟨.keyword .true, rfl, rfl⟩
    | false => exact ⟨.keyword .false, rfl, rfl⟩
  | null => exact ⟨.keyword .nil, rfl, rfl⟩
  | number n =>
    cases n with
    | integer n =>
      rw [isWritable, Bool.and_eq_true, decide_eq_true_eq, decide_eq_true_eq] at h
      exact ⟨.numeral (toString n) (.integer n) (Number.read?_toString h.1 h.2), rfl, rfl⟩
    | real x => cases h
  | list items => cases h
  | record fields => cases h

mutual

/-- **What is printed has a derivation** at the level of the condition. -/
theorem derived_printed : ∀ e : Expr, e.isPrintable = true → Derived e.level e e.printed
  | .literal value, h => derived_literal h
  | .path name, _ => ⟨.path name, rfl, rfl⟩
  | .call name args, h => by
    simp only [isPrintable, Bool.and_eq_true, Bool.not_eq_true'] at h
    obtain ⟨⟨-, hplain⟩, hargs⟩ := h
    rw [printed]
    exact derived_call hplain (derived_printedAll args hargs)
  | .not inner, h => by
    rw [printed]
    exact ((derived_printed inner h).enclosed .operand).not
  | .and left right, h => by
    rw [isPrintable, Bool.and_eq_true] at h
    have hleft := (derived_printed left h.1).enclosed (.chain .and)
    have hright := (derived_printed right h.2).enclosed .comparison
    rw [printed]
    exact @Derived.join _ _ _ _ .and hleft hright
  | .or left right, h => by
    rw [isPrintable, Bool.and_eq_true] at h
    have hleft := (derived_printed left h.1).enclosed (.chain .or)
    have hright := (derived_printed right h.2).enclosed (.chain .and)
    rw [printed]
    exact @Derived.join _ _ _ _ .or hleft hright
  | .compare op left right, h => by
    rw [isPrintable, Bool.and_eq_true] at h
    have hleft := (derived_printed left h.1).enclosed .operand
    have hright := (derived_printed right h.2).enclosed .operand
    rw [printed]
    exact hleft.compare hright op

theorem derived_printedAll : ∀ args : List Expr, isPrintableAll args = true →
    args = [] ∧ printedAll args = [] ∨
      ∃ d : Derivation .argumentList, d.symbols = printedAll args ∧ d.meaning = args
  | [], _ => .inl ⟨rfl, by rw [printedAll]⟩
  | [e], h => by
    rw [isPrintableAll, Bool.and_eq_true] at h
    obtain ⟨d, hsymbols, hmeaning⟩ : Derived (.chain .or) e e.printed :=
      (derived_printed e h.1).loosen (Nat.zero_le _)
    refine .inr ⟨.lastArgument d, ?_, ?_⟩
    · rw [Derivation.symbols, hsymbols, printedAll]
    · rw [Derivation.meaning, hmeaning]
  | e :: second :: rest, h => by
    rw [isPrintableAll, Bool.and_eq_true] at h
    obtain ⟨d, hsymbols, hmeaning⟩ : Derived (.chain .or) e e.printed :=
      (derived_printed e h.1).loosen (Nat.zero_le _)
    obtain ⟨hnil, -⟩ | ⟨list, hmore, hrest⟩ := derived_printedAll (second :: rest) h.2
    · cases hnil
    · refine .inr ⟨.argument d list, ?_, ?_⟩
      · rw [Derivation.symbols, hsymbols, hmore, printedAll]
      · rw [Derivation.meaning, hmeaning, hrest]

end

/-! ## What is printed can be read -/

theorem mem_enclosed {due : Level} {symbol : Symbol} (h : symbol ∈ enclosed due e ss) :
    symbol = .leftParen ∨ symbol = .rightParen ∨ symbol ∈ ss := by
  rw [enclosed] at h
  split at h
  · simp only [List.mem_cons, List.mem_append, List.not_mem_nil, or_false] at h
    tauto
  · exact .inr (.inr h)

theorem isSpellable_enclosed {due : Level} (h : ∀ symbol ∈ ss, symbol.isSpellable = true) :
    ∀ symbol ∈ enclosed due e ss, symbol.isSpellable = true := by
  intro symbol hsymbol
  obtain rfl | rfl | hsymbol := mem_enclosed hsymbol
  · rfl
  · rfl
  · exact h symbol hsymbol

theorem isSpellable_literalSymbol {value : Value} (h : isWritable value = true) :
    (literalSymbol value).isSpellable = true := by
  cases value with
  | number n =>
    cases n with
    | integer n => exact isNumeral_toString n
    | real x => cases h
  | boolean b => cases b <;> rfl
  | _ => rfl

/-- Symbols around a sign can be written where the sign and they can. -/
theorem isSpellable_append_cons {symbol : Symbol} (hsymbol : symbol.isSpellable = true)
    (h : ∀ s ∈ ss, s.isSpellable = true) (h' : ∀ s ∈ ss', s.isSpellable = true) :
    ∀ s ∈ ss ++ symbol :: ss', s.isSpellable = true := by
  intro s hs
  obtain hs | hs := List.mem_append.1 hs
  · exact h s hs
  · obtain rfl | hs := List.mem_cons.1 hs
    · exact hsymbol
    · exact h' s hs

mutual

/-- **Every symbol that is printed can be written.** -/
theorem isSpellable_printed : ∀ e : Expr, e.isPrintable = true →
    ∀ symbol ∈ e.printed, symbol.isSpellable = true
  | .literal value, h => by
    rw [printed]
    exact List.forall_mem_singleton.2 (isSpellable_literalSymbol h)
  | .path name, h => by
    rw [printed]
    exact List.forall_mem_singleton.2 h
  | .call name args, h => by
    simp only [isPrintable, Bool.and_eq_true] at h
    have hargs := isSpellable_printedAll args h.2
    rw [printed]
    exact List.forall_mem_cons.2 ⟨h.1.1, List.forall_mem_cons.2 ⟨rfl,
      isSpellable_append_cons rfl hargs (List.forall_mem_nil _)⟩⟩
  | .not inner, h => by
    rw [printed]
    exact List.forall_mem_cons.2 ⟨rfl, isSpellable_enclosed (isSpellable_printed inner h)⟩
  | .and left right, h => by
    rw [isPrintable, Bool.and_eq_true] at h
    rw [printed]
    exact isSpellable_append_cons rfl (isSpellable_enclosed (isSpellable_printed left h.1))
      (isSpellable_enclosed (isSpellable_printed right h.2))
  | .or left right, h => by
    rw [isPrintable, Bool.and_eq_true] at h
    rw [printed]
    exact isSpellable_append_cons rfl (isSpellable_enclosed (isSpellable_printed left h.1))
      (isSpellable_enclosed (isSpellable_printed right h.2))
  | .compare op left right, h => by
    rw [isPrintable, Bool.and_eq_true] at h
    rw [printed]
    exact isSpellable_append_cons rfl (isSpellable_enclosed (isSpellable_printed left h.1))
      (isSpellable_enclosed (isSpellable_printed right h.2))

theorem isSpellable_printedAll : ∀ args : List Expr, isPrintableAll args = true →
    ∀ symbol ∈ printedAll args, symbol.isSpellable = true
  | [], _ => by
    rw [printedAll]
    exact List.forall_mem_nil _
  | [e], h => by
    rw [isPrintableAll, Bool.and_eq_true] at h
    rw [printedAll]
    exact isSpellable_printed e h.1
  | e :: second :: rest, h => by
    rw [isPrintableAll, Bool.and_eq_true] at h
    rw [printedAll]
    exact isSpellable_append_cons rfl (isSpellable_printed e h.1)
      (isSpellable_printedAll (second :: rest) h.2)

end

/-- **A printed condition is parsed back.** -/
theorem parse_text (h : e.isPrintable = true) : parse e.text = .ok e := by
  obtain ⟨located, hread, hsymbols⟩ := symbols_spelledAll (isSpellable_printed e h)
  have hderived : Derived (.chain .or) e e.printed :=
    (derived_printed e h).loosen (Nat.zero_le _)
  obtain ⟨d, hd, hmeaning⟩ := hderived
  exact parse_eq_ok_iff.2 ⟨located, hread, d, hd.trans hsymbols.symm, hmeaning⟩

/-! ## No parentheses without need -/

/-- The symbols of a condition where a level is due. -/
def printedAt (due : Level) (e : Expr) : List Symbol :=
  enclosed due e e.printed

/-- A looser level asks for no more parentheses. -/
theorem length_printedAt_mono {due due' : Level} (h : due.rank ≤ due'.rank) (e : Expr) :
    (printedAt due e).length ≤ (printedAt due' e).length := by
  rw [printedAt, printedAt, enclosed, enclosed]
  split
  · rw [if_pos (by omega)]
  · split
    · simp only [List.length_cons, List.length_append]
      omega
    · exact Nat.le_refl _

theorem printedAt_eq {due : Level} (h : due.rank ≤ e.level.rank) : printedAt due e = e.printed :=
  if_neg (Nat.not_lt.2 h)

theorem printedAt_level (e : Expr) : printedAt e.level e = e.printed :=
  printedAt_eq (Nat.le_refl _)

theorem length_printedAt_le (due : Level) (e : Expr) :
    (printedAt due e).length ≤ e.printed.length + 2 := by
  rw [printedAt, enclosed]
  split
  · simp only [List.length_cons, List.length_append, List.length_nil]
    omega
  · omega

theorem length_printedAt_join (op : Connective) (left right : Expr) :
    (printedAt (.chain op) (op.join left right)).length =
      (printedAt (.chain op) left).length + 1 + (printedAt op.member right).length := by
  have hprinted : printedAt (.chain op) (op.join left right) =
      printedAt (.chain op) left ++ op.symbol :: printedAt op.member right := by
    cases op with
    | or => exact (printedAt_level (.or left right)).trans (by rw [printed]; rfl)
    | and => exact (printedAt_level (.and left right)).trans (by rw [printed]; rfl)
  rw [hprinted, List.length_append, List.length_cons]
  omega

theorem length_printedAt_compare (op : Operator) (left right : Expr) :
    (printedAt .comparison (.compare op left right)).length =
      (printedAt .operand left).length + 1 + (printedAt .operand right).length := by
  show (printedAt (level (.compare op left right)) _).length = _
  rw [printedAt_level, printed, List.length_append, List.length_cons, printedAt, printedAt]
  omega

theorem length_printedAt_not (inner : Expr) :
    (printedAt .operand (.not inner)).length = (printedAt .operand inner).length + 1 := by
  show (printedAt (level (.not inner)) _).length = _
  rw [printedAt_level, printed, List.length_cons, printedAt]

theorem length_printedAt_call (name : String) (args : List Expr) :
    (printedAt .primary (.call name args)).length = (printedAll args).length + 3 := by
  show (printedAt (level (.call name args)) _).length = _
  rw [printedAt_level, printed]
  simp only [List.length_cons, List.length_append, List.length_nil]

theorem length_printedAt_literal (value : Value) :
    (printedAt .primary (.literal value)).length = 1 := by
  show (printedAt (level (.literal value)) _).length = _
  rw [printedAt_level, printed, List.length_singleton]

theorem length_printedAt_path (name : String) :
    (printedAt .primary (.path name)).length = 1 := by
  show (printedAt (level (.path name)) _).length = _
  rw [printedAt_level, printed, List.length_singleton]

theorem length_printedAll_le (e : Expr) (rest : List Expr) :
    (printedAll (e :: rest)).length ≤ e.printed.length + 1 + (printedAll rest).length := by
  cases rest with
  | nil =>
    rw [printedAll, printedAll]
    omega
  | cons second rest =>
    rw [printedAll, List.length_append, List.length_cons]
    omega

/-- So many symbols are enough to print what a derivation of the category means. -/
def Suffices : (k : Category) → k.Meaning → Nat → Prop
  | .level due, e, n => (printedAt due e).length ≤ n
  | .more op, joined, n => ∀ left,
      (printedAt (.chain op) (joined left)).length ≤ (printedAt (.chain op) left).length + n
  | .arguments, args, n | .argumentList, args, n => (printedAll args).length ≤ n

/-- **The symbols of a derivation are enough to print what it means.** -/
theorem suffices_symbols {k : Category} (d : Derivation k) :
    Suffices k d.meaning d.symbols.length := by
  induction d with
  | @chain op first more hfirst hmore =>
    have hchain := hmore first.meaning
    have hleft : (printedAt op.member first.meaning).length ≤ first.symbols.length := hfirst
    have hmember : (printedAt (.chain op) first.meaning).length ≤
        (printedAt op.member first.meaning).length :=
      length_printedAt_mono (by cases op <;> decide) first.meaning
    show (printedAt (.chain op) (more.meaning first.meaning)).length ≤ _
    rw [Derivation.symbols, List.length_append]
    omega
  | done => exact fun _ => Nat.le_refl _
  | @member op next more hnext hmore =>
    intro left
    have hchain := hmore (op.join left next.meaning)
    have hright : (printedAt op.member next.meaning).length ≤ next.symbols.length := hnext
    rw [length_printedAt_join] at hchain
    show (printedAt (.chain op) (more.meaning (op.join left next.meaning))).length ≤ _
    rw [Derivation.symbols, List.length_cons, List.length_append]
    omega
  | single operand ih =>
    have hoperand : (printedAt .operand operand.meaning).length ≤ operand.symbols.length := ih
    exact Nat.le_trans (length_printedAt_mono (by decide) _) hoperand
  | compare left op right hleft hright =>
    have hfirst : (printedAt .operand left.meaning).length ≤ left.symbols.length := hleft
    have hsecond : (printedAt .operand right.meaning).length ≤ right.symbols.length := hright
    show (printedAt .comparison (.compare op left.meaning right.meaning)).length ≤ _
    rw [length_printedAt_compare, Derivation.symbols, List.length_append, List.length_cons]
    omega
  | not inner ih =>
    have hinner : (printedAt .operand inner.meaning).length ≤ inner.symbols.length := ih
    show (printedAt .operand (.not inner.meaning)).length ≤ _
    rw [length_printedAt_not, Derivation.symbols, List.length_cons]
    omega
  | plain primary ih =>
    have hprimary : (printedAt .primary primary.meaning).length ≤ primary.symbols.length := ih
    exact Nat.le_trans (length_printedAt_mono (by decide) _) hprimary
  | string | numeral | keyword => exact Nat.le_of_eq (length_printedAt_literal _)
  | path => exact Nat.le_of_eq (length_printedAt_path _)
  | call name hplain args ih =>
    have hargs : (printedAll args.meaning).length ≤ args.symbols.length := ih
    show (printedAt .primary (.call name args.meaning)).length ≤ _
    rw [length_printedAt_call, Derivation.symbols]
    simp only [List.length_cons, List.length_append, List.length_nil]
    omega
  | group inner ih =>
    have hinner : (printedAt (.chain .or) inner.meaning).length ≤ inner.symbols.length := ih
    rw [printedAt_eq (Nat.zero_le _)] at hinner
    have hgroup := length_printedAt_le .primary inner.meaning
    show (printedAt .primary inner.meaning).length ≤ _
    rw [Derivation.symbols, List.length_cons, List.length_append, List.length_singleton]
    omega
  | noArguments =>
    show (printedAll []).length ≤ 0
    rw [printedAll]
    exact Nat.le_refl 0
  | someArguments list ih => exact ih
  | lastArgument arg ih =>
    have harg : (printedAt (.chain .or) arg.meaning).length ≤ arg.symbols.length := ih
    rw [printedAt_eq (Nat.zero_le _)] at harg
    show (printedAll [arg.meaning]).length ≤ _
    rw [printedAll]
    exact harg
  | argument arg more harg hmore =>
    have hfirst : (printedAt (.chain .or) arg.meaning).length ≤ arg.symbols.length := harg
    rw [printedAt_eq (Nat.zero_le _)] at hfirst
    have hrest : (printedAll more.meaning).length ≤ more.symbols.length := hmore
    have hall := length_printedAll_le arg.meaning more.meaning
    show (printedAll (arg.meaning :: more.meaning)).length ≤ _
    rw [Derivation.symbols, List.length_append, List.length_cons]
    omega

/-- **No parentheses are printed without need**: whatever derives a condition has
as many symbols. -/
theorem length_printed_le (d : Derivation .condition) (h : d.meaning = e) :
    e.printed.length ≤ d.symbols.length := by
  have hlength : (printedAt (.chain .or) d.meaning).length ≤ d.symbols.length := suffices_symbols d
  rwa [printedAt_eq (Nat.zero_le _), h] at hlength

/-! ## The grammar -/

/-- **The parser accepts the grammar.** A text is parsed as a condition if and only
if its symbols, all of them, have a derivation that means the condition. No
symbols have two derivations. And a condition whose literals and names can be
written is parsed back from its text, in which parentheses stand only where the
levels require them: no text of the condition has fewer symbols. The names are
all that are read as one path. -/
theorem parse_grammar :
    (∀ (source : String) (e : Expr), parse source = .ok e ↔
      ∃ ss, symbols source = .ok ss ∧
        ∃ d : Derivation .condition, d.symbols = bare ss ∧ d.meaning = e) ∧
    (∀ (k : Category) (d d' : Derivation k), d.symbols = d'.symbols → d = d') ∧
    (∀ e : Expr, e.isPrintable = true → parse e.text = .ok e ∧
      ∀ d : Derivation .condition, d.meaning = e → e.printed.length ≤ d.symbols.length) ∧
    ∀ name : String, isPathName name = true ↔
      ∃ span, symbols name = .ok [⟨.path name, span⟩] := by
  refine ⟨fun source e => parse_eq_ok_iff, fun k d d' h => Derivation.eq_of_symbols h,
    fun e h => ⟨parse_text h, fun d hd => length_printed_le d hd⟩, fun name => isPathName_iff⟩

end Expr

/-! ## A condition with parentheses -/

namespace Sample

open PromptMarkup.Expr

/-- Neither blocked nor on trial, and enough items. -/
def screening : Expr :=
  .and (.not (.or (.path "user.blocked") (.path "trial")))
    (.compare .greaterOrEqual (.call "len" [.path "items", .literal (.text "a\"b")])
      (.literal (.number (.integer (-2)))))

/-- The disjunction needs its parentheses under the negation, and nothing else
needs any. -/
theorem parse_grammar_screening :
    parse "!(user.blocked || trial) && len(items, \"a\\\"b\") >= -2" = .ok screening ∧
      (∀ d : Derivation .condition, d.meaning = screening → 15 ≤ d.symbols.length) ∧
      ∃ d : Derivation .condition, d.meaning = screening ∧
        ∀ d' : Derivation .condition, d'.symbols = d.symbols → d' = d := by
  obtain ⟨hparse, hunique, hprint, -⟩ := Expr.parse_grammar
  have hprintable : screening.isPrintable = true := by decide +kernel
  have htext : screening.text = "!(user.blocked || trial) && len(items, \"a\\\"b\") >= -2" := by
    decide +kernel
  have hlength : screening.printed.length = 15 := by decide +kernel
  obtain ⟨hback, hshortest⟩ := hprint screening hprintable
  rw [htext] at hback
  obtain ⟨ss, -, d, -, hmeaning⟩ := (hparse _ screening).1 hback
  exact ⟨hback, fun d hd => hlength ▸ hshortest d hd, d, hmeaning,
    fun d' h => hunique .condition d' d h⟩

end Sample

end PromptMarkup
