import PromptMarkup.Expr.Grammar
/-!
# Expr — derivations in the grammar of conditions

The grammar that conditions are documented to have, as the trees that derive
symbols in it (`Derivation`):

* `or := and ('||' and)*` and `and := cmp ('&&' cmp)*`, both read from the left;
* `cmp := unary (operator unary)?`;
* `unary := '!' unary | primary`;
* `primary := literal | path | path '(' (or (',' or)*)? ')' | '(' or ')'`.

A derivation has the symbols that it derives and the condition that it means.
What may stand behind it is bounded by its place in the grammar (`Loose`), and
that is why symbols are derived in one way at most (`Derivation.eq_of_symbols`).
-/

namespace PromptMarkup

namespace Expr

/-- The connectives that join any number of conditions. -/
inductive Connective where
  | or
  | and
  deriving DecidableEq

/-- The levels of the grammar, loosest first. -/
inductive Level where
  | chain (op : Connective)
  | comparison
  | operand
  | primary
  deriving DecidableEq

/-- What the grammar has rules for: the levels, the further members of a chain
and the arguments of a call. -/
inductive Category where
  | level (level : Level)
  | more (op : Connective)
  | arguments
  | argumentList

/-- What a whole condition is. -/
abbrev Category.condition : Category :=
  .level (.chain .or)

namespace Connective

/-- How a connective is written. -/
def symbol : Connective → Symbol
  | or => .or
  | and => .and

/-- What it makes of the conditions to its sides. -/
def join : Connective → Expr → Expr → Expr
  | or => .or
  | and => .and

/-- The level of the conditions that it joins. -/
def member : Connective → Level
  | or => .chain .and
  | and => .comparison

end Connective

/-- The value of a keyword. -/
def valueOfKeyword : Keyword → Value
  | .true => .boolean true
  | .false => .boolean false
  | .nil => .null

/-- **The grammar of conditions**: what symbols are derived from. -/
inductive Derivation : Category → Type where
  | chain {op : Connective} (first : Derivation (.level op.member))
      (more : Derivation (.more op)) : Derivation (.level (.chain op))
  /-- A chain ends with its last member. -/
  | done {op : Connective} : Derivation (.more op)
  | member {op : Connective} (next : Derivation (.level op.member))
      (more : Derivation (.more op)) : Derivation (.more op)
  | single (operand : Derivation (.level .operand)) : Derivation (.level .comparison)
  | compare (left : Derivation (.level .operand)) (op : Operator)
      (right : Derivation (.level .operand)) : Derivation (.level .comparison)
  | not (inner : Derivation (.level .operand)) : Derivation (.level .operand)
  | plain (primary : Derivation (.level .primary)) : Derivation (.level .operand)
  | string (value : String) : Derivation (.level .primary)
  /-- A numeral counts where it is read as a number. -/
  | numeral (text : String) (n : Number) (hread : Number.read? text = some n) :
      Derivation (.level .primary)
  | keyword (word : Keyword) : Derivation (.level .primary)
  | path (name : String) : Derivation (.level .primary)
  /-- The name of a function has no points. -/
  | call (name : String) (hplain : name.toList.contains '.' = false)
      (args : Derivation .arguments) : Derivation (.level .primary)
  | group (inner : Derivation .condition) : Derivation (.level .primary)
  | noArguments : Derivation .arguments
  | someArguments (list : Derivation .argumentList) : Derivation .arguments
  | lastArgument (arg : Derivation .condition) : Derivation .argumentList
  | argument (arg : Derivation .condition) (more : Derivation .argumentList) :
      Derivation .argumentList

/-- What the derivations of a category mean: the further members of a chain are
joined to what is before them. -/
abbrev Category.Meaning : Category → Type
  | .level _ => Expr
  | .more _ => Expr → Expr
  | .arguments | .argumentList => List Expr

namespace Derivation

variable {k : Category}

/-- The symbols that are derived. -/
def symbols : {k : Category} → Derivation k → List Symbol
  | _, chain first more => first.symbols ++ more.symbols
  | _, done => []
  | _, @member op next more => op.symbol :: (next.symbols ++ more.symbols)
  | _, single operand => operand.symbols
  | _, compare left op right => left.symbols ++ .operator op :: right.symbols
  | _, not inner => .not :: inner.symbols
  | _, plain primary => primary.symbols
  | _, string value => [.string value]
  | _, numeral text _ _ => [.numeral text]
  | _, keyword word => [.keyword word]
  | _, path name => [.path name]
  | _, call name _ args => .path name :: .leftParen :: (args.symbols ++ [.rightParen])
  | _, group inner => .leftParen :: (inner.symbols ++ [.rightParen])
  | _, noArguments => []
  | _, someArguments list => list.symbols
  | _, lastArgument arg => arg.symbols
  | _, argument arg more => arg.symbols ++ .comma :: more.symbols

/-- The condition that is derived. -/
def meaning : {k : Category} → Derivation k → k.Meaning
  | _, chain first more => more.meaning first.meaning
  | _, done => id
  | _, @member op next more => fun left => more.meaning (op.join left next.meaning)
  | _, single operand => operand.meaning
  | _, compare left op right => .compare op left.meaning right.meaning
  | _, not inner => .not inner.meaning
  | _, plain primary => primary.meaning
  | _, string value => .literal (.text value)
  | _, numeral _ n _ => .literal (.number n)
  | _, keyword word => .literal (valueOfKeyword word)
  | _, path name => .path name
  | _, call name _ args => .call name args.meaning
  | _, group inner => inner.meaning
  | _, noArguments => []
  | _, someArguments list => list.meaning
  | _, lastArgument arg => [arg.meaning]
  | _, argument arg more => arg.meaning :: more.meaning

end Derivation

/-! ## What may stand behind a derivation -/

/-- How closely a symbol joins what is behind it to what is before it. Symbols
that begin a condition join nothing. -/
def Symbol.bond : Symbol → Nat
  | .rightParen => 0
  | .comma => 1
  | .or => 2
  | .and => 3
  | .operator _ => 4
  | _ => 5

/-- The closest bond that the symbol behind a derivation may have. -/
def Category.bond : Category → Nat
  | .arguments | .argumentList => 0
  | .level (.chain .or) | .more .or => 1
  | .level (.chain .and) | .more .and => 2
  | .level .comparison => 3
  | .level .operand | .level .primary => 4

/-- The symbols do not go on with what a derivation of the category began. -/
def Loose (k : Category) (rest : List Symbol) : Prop :=
  ∀ symbol ∈ rest.head?, symbol.bond ≤ k.bond

theorem loose_nil (k : Category) : Loose k [] := nofun

theorem loose_cons {k : Category} {symbol : Symbol} {rest : List Symbol} :
    Loose k (symbol :: rest) ↔ symbol.bond ≤ k.bond := by
  simp [Loose]

theorem Loose.imp {k k' : Category} {rest : List Symbol} (h : Loose k rest)
    (hbond : k.bond ≤ k'.bond) : Loose k' rest :=
  fun symbol hsymbol => Nat.le_trans (h symbol hsymbol) hbond

/-- A connective ends what it joins and continues the chain. -/
theorem Connective.bond_symbol (op : Connective) :
    op.symbol.bond = (Category.more op).bond + 1 ∧
      op.symbol.bond ≤ (Category.level op.member).bond := by
  cases op <;> decide

/-- A connective continues its chain. -/
theorem not_loose_connective (op : Connective) (rest : List Symbol) :
    ¬ Loose (.more op) (op.symbol :: rest) := by
  intro h
  have hbond := loose_cons.1 h
  rw [op.bond_symbol.1] at hbond
  omega

/-- An operator ends the operand before it and continues a comparison. -/
theorem loose_operator (op : Operator) (rest : List Symbol) :
    Loose (.level .operand) (.operator op :: rest) :=
  loose_cons.2 (show 4 ≤ 4 from Nat.le_refl 4)

theorem not_loose_operator (op : Operator) (rest : List Symbol) :
    ¬ Loose (.level .comparison) (.operator op :: rest) :=
  fun h => absurd (loose_cons.1 h) (show ¬ 4 ≤ 3 by decide)

/-- An opening parenthesis continues the name of a function, -/
theorem not_loose_leftParen (rest : List Symbol) :
    ¬ Loose (.level .primary) (.leftParen :: rest) :=
  fun h => absurd (loose_cons.1 h) (show ¬ 5 ≤ 4 by decide)

/-- and a closing one ends everything. -/
theorem loose_rightParen (k : Category) (rest : List Symbol) : Loose k (.rightParen :: rest) :=
  loose_cons.2 (Nat.zero_le _)

/-- A comma ends an argument and continues the list of them. -/
theorem loose_comma (rest : List Symbol) : Loose .condition (.comma :: rest) :=
  loose_cons.2 (show 1 ≤ 1 from Nat.le_refl 1)

theorem not_loose_comma (rest : List Symbol) : ¬ Loose .argumentList (.comma :: rest) :=
  fun h => absurd (loose_cons.1 h) (show ¬ 1 ≤ 0 by decide)

theorem Connective.bond_le_member (op : Connective) :
    (Category.more op).bond ≤ (Category.level op.member).bond := by
  cases op <;> decide

theorem Connective.bond_chain (op : Connective) :
    (Category.level (.chain op)).bond = (Category.more op).bond := by
  cases op <;> rfl

/-- The categories whose derivations derive at least one symbol. -/
def Category.isFilled : Category → Bool
  | .level _ | .argumentList => true
  | .more _ | .arguments => false

namespace Derivation

/-- **What has to be there begins with a symbol that joins nothing.** -/
theorem exists_symbols_eq_cons {k : Category} (d : Derivation k) (hk : k.isFilled = true) :
    ∃ symbol rest, d.symbols = symbol :: rest ∧ symbol.bond = 5 := by
  induction d with
  | chain first more hfirst _ =>
    obtain ⟨symbol, rest, hsymbols, hbond⟩ := hfirst rfl
    exact ⟨symbol, rest ++ more.symbols, by rw [symbols, hsymbols, List.cons_append], hbond⟩
  | compare left op right hleft _ =>
    obtain ⟨symbol, rest, hsymbols, hbond⟩ := hleft rfl
    exact ⟨symbol, _, by rw [symbols, hsymbols, List.cons_append], hbond⟩
  | argument arg more harg _ =>
    obtain ⟨symbol, rest, hsymbols, hbond⟩ := harg rfl
    exact ⟨symbol, _, by rw [symbols, hsymbols, List.cons_append], hbond⟩
  | done | member | noArguments | someArguments => cases hk
  | single operand ih => exact ih rfl
  | plain primary ih => exact ih rfl
  | lastArgument arg ih => exact ih rfl
  | not inner => exact ⟨.not, _, rfl, rfl⟩
  | string value => exact ⟨.string value, _, rfl, rfl⟩
  | numeral text => exact ⟨.numeral text, _, rfl, rfl⟩
  | keyword word => exact ⟨.keyword word, _, rfl, rfl⟩
  | path name => exact ⟨.path name, _, rfl, rfl⟩
  | call name => exact ⟨.path name, _, rfl, rfl⟩
  | group inner => exact ⟨.leftParen, _, rfl, rfl⟩

/-- What is behind a member of a chain, be it the next one or what is behind the
chain, does not go on with the member. -/
theorem loose_member {op : Connective} (more : Derivation (.more op)) {rest : List Symbol}
    (hrest : Loose (.more op) rest) : Loose (.level op.member) (more.symbols ++ rest) := by
  cases more with
  | done => exact hrest.imp op.bond_le_member
  | member next more =>
    rw [symbols, List.cons_append]
    exact loose_cons.2 op.bond_symbol.2

/-- What has to be there cannot be missing where arguments end. -/
theorem not_loose_symbols {k : Category} (d : Derivation k) (hk : k.isFilled = true)
    (rest : List Symbol) : ¬ Loose .arguments (d.symbols ++ rest) := by
  obtain ⟨symbol, more, hsymbols, hbond⟩ := d.exists_symbols_eq_cons hk
  intro h
  rw [hsymbols, List.cons_append, loose_cons, hbond] at h
  exact absurd h (show ¬ 5 ≤ 0 by decide)

/-- **Derivations of one category are the same where their symbols are**, up to
what is behind them and does not go on with either. -/
theorem eq_of_append {k : Category} (d : Derivation k) (d' : Derivation k)
    {rest rest' : List Symbol} (hrest : Loose k rest) (hrest' : Loose k rest')
    (h : d.symbols ++ rest = d'.symbols ++ rest') : d = d' ∧ rest = rest' := by
  induction d generalizing rest rest' with
  | @chain op first more hfirst hmore =>
    cases d' with
    | chain first' more' =>
      rw [symbols, symbols, List.append_assoc, List.append_assoc] at h
      rw [Loose, op.bond_chain] at hrest hrest'
      obtain ⟨rfl, hmores⟩ := hfirst first' (loose_member more hrest) (loose_member more' hrest') h
      obtain ⟨rfl, hbehind⟩ := hmore more' hrest hrest' hmores
      exact ⟨rfl, hbehind⟩
  | @done op =>
    cases d' with
    | done => exact ⟨rfl, h⟩
    | member next more =>
      rw [symbols, symbols, List.nil_append, List.cons_append] at h
      exact absurd (h ▸ hrest) (not_loose_connective op _)
  | @member op next more hnext hmore =>
    cases d' with
    | done =>
      rw [symbols, symbols, List.nil_append, List.cons_append] at h
      exact absurd (h ▸ hrest') (not_loose_connective op _)
    | member next' more' =>
      simp only [symbols, List.cons_append, List.append_assoc, List.cons.injEq, true_and] at h
      obtain ⟨rfl, hmores⟩ := hnext next' (loose_member more hrest) (loose_member more' hrest') h
      obtain ⟨rfl, hbehind⟩ := hmore more' hrest hrest' hmores
      exact ⟨rfl, hbehind⟩
  | single operand ih =>
    cases d' with
    | single operand' =>
      obtain ⟨rfl, hbehind⟩ := ih operand' (hrest.imp (by decide)) (hrest'.imp (by decide)) h
      exact ⟨rfl, hbehind⟩
    | compare left op right =>
      rw [symbols, symbols, List.append_assoc, List.cons_append] at h
      obtain ⟨-, hbehind⟩ := ih left (hrest.imp (by decide)) (loose_operator op _) h
      exact absurd (hbehind ▸ hrest) (not_loose_operator op _)
  | compare left op right hleft hright =>
    cases d' with
    | single operand =>
      rw [symbols, symbols, List.append_assoc, List.cons_append] at h
      obtain ⟨-, hbehind⟩ := hleft operand (loose_operator op _) (hrest'.imp (by decide)) h
      exact absurd (hbehind ▸ hrest') (not_loose_operator op _)
    | compare left' op' right' =>
      simp only [symbols, List.append_assoc, List.cons_append] at h
      obtain ⟨rfl, hsides⟩ := hleft left' (loose_operator op _) (loose_operator op' _) h
      simp only [List.cons.injEq, Symbol.operator.injEq] at hsides
      obtain ⟨rfl, hrights⟩ := hsides
      obtain ⟨rfl, hbehind⟩ :=
        hright right' (hrest.imp (by decide)) (hrest'.imp (by decide)) hrights
      exact ⟨rfl, hbehind⟩
  | not inner ih =>
    cases d' with
    | not inner' =>
      simp only [symbols, List.cons_append, List.cons.injEq, true_and] at h
      obtain ⟨rfl, hbehind⟩ := ih inner' hrest hrest' h
      exact ⟨rfl, hbehind⟩
    | plain primary => cases primary <;> cases h
  | plain primary ih =>
    cases d' with
    | not inner => cases primary <;> cases h
    | plain primary' =>
      obtain ⟨rfl, hbehind⟩ := ih primary' hrest hrest' h
      exact ⟨rfl, hbehind⟩
  | string value =>
    cases d' <;> cases h
    exact ⟨rfl, rfl⟩
  | numeral text n hread =>
    cases d' <;> cases h
    next n' hread' =>
      obtain rfl : n = n' := Option.some.inj (hread.symm.trans hread')
      exact ⟨rfl, rfl⟩
  | keyword word =>
    cases d' <;> cases h
    exact ⟨rfl, rfl⟩
  | path name =>
    cases d' with
    | path name' =>
      cases h
      exact ⟨rfl, rfl⟩
    | call name' _ args =>
      -- A parenthesis behind a path makes it the name of a function.
      simp only [symbols, List.cons_append, List.nil_append, List.cons.injEq] at h
      exact absurd (h.2 ▸ hrest) (not_loose_leftParen _)
    | _ => cases h
  | call name hplain args ih =>
    cases d' with
    | path name' =>
      simp only [symbols, List.cons_append, List.nil_append, List.cons.injEq] at h
      exact absurd (h.2 ▸ hrest') (not_loose_leftParen _)
    | call name' _ args' =>
      simp only [symbols, List.cons_append, List.append_assoc, List.nil_append, List.cons.injEq,
        Symbol.path.injEq, true_and] at h
      obtain ⟨rfl, hargs⟩ := h
      obtain ⟨rfl, hclosing⟩ := ih args' (loose_rightParen _ _) (loose_rightParen _ _) hargs
      exact ⟨rfl, (List.cons.inj hclosing).2⟩
    | _ => cases h
  | group inner ih =>
    cases d' with
    | group inner' =>
      simp only [symbols, List.cons_append, List.append_assoc, List.nil_append, List.cons.injEq,
        true_and] at h
      obtain ⟨rfl, hclosing⟩ := ih inner' (loose_rightParen _ _) (loose_rightParen _ _) h
      exact ⟨rfl, (List.cons.inj hclosing).2⟩
    | _ => cases h
  | noArguments =>
    cases d' with
    | noArguments => exact ⟨rfl, h⟩
    | someArguments list =>
      rw [symbols, symbols, List.nil_append] at h
      exact absurd (h ▸ hrest) (not_loose_symbols list rfl _)
  | someArguments list ih =>
    cases d' with
    | noArguments =>
      rw [symbols, symbols, List.nil_append] at h
      exact absurd (h ▸ hrest') (not_loose_symbols list rfl _)
    | someArguments list' =>
      obtain ⟨rfl, hbehind⟩ := ih list' hrest hrest' h
      exact ⟨rfl, hbehind⟩
  | lastArgument arg ih =>
    cases d' with
    | lastArgument arg' =>
      obtain ⟨rfl, hbehind⟩ := ih arg' (hrest.imp (by decide)) (hrest'.imp (by decide)) h
      exact ⟨rfl, hbehind⟩
    | argument arg' more =>
      rw [symbols, symbols, List.append_assoc, List.cons_append] at h
      obtain ⟨-, hbehind⟩ := ih arg' (hrest.imp (by decide)) (loose_comma _) h
      exact absurd (hbehind ▸ hrest) (not_loose_comma _)
  | argument arg more harg hmore =>
    cases d' with
    | lastArgument arg' =>
      rw [symbols, symbols, List.append_assoc, List.cons_append] at h
      obtain ⟨-, hbehind⟩ := harg arg' (loose_comma _) (hrest'.imp (by decide)) h
      exact absurd (hbehind ▸ hrest') (not_loose_comma _)
    | argument arg' more' =>
      simp only [symbols, List.append_assoc, List.cons_append] at h
      obtain ⟨rfl, hmores⟩ := harg arg' (loose_comma _) (loose_comma _) h
      obtain ⟨rfl, hbehind⟩ := hmore more' hrest hrest' (List.cons.inj hmores).2
      exact ⟨rfl, hbehind⟩

/-- **The grammar is unambiguous**: symbols have one derivation at most. -/
theorem eq_of_symbols {k : Category} {d d' : Derivation k} (h : d.symbols = d'.symbols) :
    d = d' := by
  have happend : d.symbols ++ [] = d'.symbols ++ [] := by rw [h]
  exact (eq_of_append d d' (loose_nil k) (loose_nil k) happend).1

end Derivation

end Expr

end PromptMarkup
