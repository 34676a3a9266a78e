import PromptMarkup.Proofs.Expr.Derivation
/-!
# Expr — what the readers accept

Each reader takes from the front of the symbols what has a derivation of its
category, and yields what the derivation means (`ReadsDerived`). Whatever has a
derivation is read so, where what is behind does not go on with it and the calls
allowed are enough for its symbols (`reads_of_derivation`). So a text is a
condition just where its symbols have a derivation (`parse_eq_ok_iff`).
-/

namespace PromptMarkup

namespace Expr

variable {n : Nat} {ss rest : List Located} {e : Expr}

/-- The symbols without their places. -/
def bare (ss : List Located) : List Symbol :=
  ss.map Located.symbol

/-- These symbols stand in `ss` before the rest of it. -/
def Before (ss : List Located) (symbols : List Symbol) (rest : List Located) : Prop :=
  ∃ taken, ss = taken ++ rest ∧ bare taken = symbols

theorem before_nil : Before ss [] rest ↔ ss = rest := by
  constructor
  · rintro ⟨taken, rfl, htaken⟩
    rw [List.map_eq_nil_iff.1 htaken, List.nil_append]
  · rintro rfl
    exact ⟨[], rfl, rfl⟩

theorem before_cons {symbol : Symbol} {more : List Symbol} :
    Before ss (symbol :: more) rest ↔
      ∃ span ss', ss = ⟨symbol, span⟩ :: ss' ∧ Before ss' more rest := by
  constructor
  · rintro ⟨taken, rfl, htaken⟩
    obtain ⟨⟨_, span⟩, taken', rfl, rfl, hmore⟩ := List.map_eq_cons_iff.1 htaken
    exact ⟨span, taken' ++ rest, rfl, taken', rfl, hmore⟩
  · rintro ⟨span, _, rfl, taken, rfl, hmore⟩
    exact ⟨⟨symbol, span⟩ :: taken, rfl, congrArg (symbol :: ·) hmore⟩

theorem before_append {symbols more : List Symbol} :
    Before ss (symbols ++ more) rest ↔ ∃ mid, Before ss symbols mid ∧ Before mid more rest := by
  constructor
  · rintro ⟨taken, rfl, htaken⟩
    obtain ⟨taken₁, taken₂, rfl, h₁, h₂⟩ := List.map_eq_append_iff.1 htaken
    exact ⟨taken₂ ++ rest, ⟨taken₁, List.append_assoc _ _ _, h₁⟩, taken₂, rfl, h₂⟩
  · rintro ⟨_, ⟨taken₁, rfl, h₁⟩, taken₂, rfl, h₂⟩
    refine ⟨taken₁ ++ taken₂, (List.append_assoc _ _ _).symm, ?_⟩
    rw [bare, List.map_append, ← h₁, ← h₂, bare, bare]

theorem before_singleton {symbol : Symbol} :
    Before ss [symbol] rest ↔ ∃ span, ss = ⟨symbol, span⟩ :: rest := by
  simp only [before_cons, before_nil]
  constructor
  · rintro ⟨span, _, rfl, rfl⟩
    exact ⟨span, rfl⟩
  · rintro ⟨span, rfl⟩
    exact ⟨span, rest, rfl, rfl⟩

/-- What is before the rest is behind it in the symbols. -/
theorem Before.bare_eq {symbols : List Symbol} (h : Before ss symbols rest) :
    bare ss = symbols ++ bare rest := by
  obtain ⟨taken, rfl, rfl⟩ := h
  exact List.map_append

/-! ## The readers by their levels -/

/-- Reads a condition of a level. -/
def readLevel : Level → Nat → List Located → Reading Expr
  | .chain .or => readOr
  | .chain .and => readAnd
  | .comparison => readComparison
  | .operand => readOperand
  | .primary => readPrimary

/-- Reads the further members of a chain. -/
def readMore : Connective → Nat → Expr → List Located → Reading Expr
  | .or => readOrMore
  | .and => readAndMore

theorem readLevel_zero (level : Level) : readLevel level 0 ss = .error .unexpectedEnd := by
  rcases level with (_ | _) | _ | _ | _ <;> rfl

theorem readMore_zero (op : Connective) : readMore op 0 e ss = .error .unexpectedEnd := by
  cases op <;> rfl

/-- A chain is its first member and those that are joined to it. -/
theorem readChain_eq (op : Connective) :
    readLevel (.chain op) (n + 1) ss =
      match readLevel op.member n ss with
      | .error fault => .error fault
      | .ok (left, rest) => readMore op n left rest := by
  cases op with
  | or =>
    rw [readLevel, readOr]
    rfl
  | and =>
    rw [readLevel, readAnd]
    rfl

/-- Behind a connective there is a further member. -/
theorem readMore_symbol (op : Connective) (left : Expr) (span : Span) :
    readMore op (n + 1) left (⟨op.symbol, span⟩ :: ss) =
      match readLevel op.member n ss with
      | .error fault => .error fault
      | .ok (right, rest) => readMore op n (op.join left right) rest := by
  cases op with
  | or =>
    rw [readMore, Connective.symbol, readOrMore]
    rfl
  | and =>
    rw [readMore, Connective.symbol, readAndMore]
    rfl

/-- Anything else ends the chain. -/
theorem readMore_other (op : Connective) (left : Expr)
    (hss : ∀ symbol ∈ (bare ss).head?, symbol ≠ op.symbol) :
    readMore op (n + 1) left ss = .ok (left, ss) := by
  rcases ss with _ | ⟨⟨symbol, span⟩, ss⟩
  · cases op <;> simp only [readMore, readOrMore, readAndMore]
  · have hsymbol : symbol ≠ op.symbol := hss symbol rfl
    cases op <;> cases symbol <;>
      first
      | exact absurd rfl hsymbol
      | simp only [readMore, readOrMore, readAndMore]

/-! ## What is read has a derivation -/

/-- With so many calls the readers take symbols that have a derivation and yield
what it means. -/
structure ReadsDerived (n : Nat) : Prop where
  level : ∀ (level : Level) {ss e rest}, readLevel level n ss = .ok (e, rest) →
    ∃ d : Derivation (.level level), Before ss d.symbols rest ∧ d.meaning = e
  more : ∀ (op : Connective) {left ss e rest}, readMore op n left ss = .ok (e, rest) →
    ∃ d : Derivation (.more op), Before ss d.symbols rest ∧ d.meaning left = e
  arguments : ∀ {ss args rest}, readArguments n ss = .ok (args, rest) →
    ∃ (d : Derivation .arguments) (span : Span),
      Before ss d.symbols (⟨.rightParen, span⟩ :: rest) ∧ d.meaning = args
  argumentList : ∀ {ss args rest}, readArgumentList n ss = .ok (args, rest) →
    ∃ (d : Derivation .argumentList) (span : Span),
      Before ss d.symbols (⟨.rightParen, span⟩ :: rest) ∧ d.meaning = args

namespace ReadsDerived

theorem chain (ih : ReadsDerived n) {op : Connective}
    (h : readLevel (.chain op) (n + 1) ss = .ok (e, rest)) :
    ∃ d : Derivation (.level (.chain op)), Before ss d.symbols rest ∧ d.meaning = e := by
  rw [readChain_eq] at h
  split at h
  · cases h
  · next left mid hfirst =>
    obtain ⟨first, hbefore, rfl⟩ := ih.level op.member hfirst
    obtain ⟨more, hmore, rfl⟩ := ih.more op h
    exact ⟨.chain first more, before_append.2 ⟨mid, hbefore, hmore⟩, rfl⟩

theorem further (ih : ReadsDerived n) {op : Connective} {left : Expr}
    (h : readMore op (n + 1) left ss = .ok (e, rest)) :
    ∃ d : Derivation (.more op), Before ss d.symbols rest ∧ d.meaning left = e := by
  by_cases hss : ∀ symbol ∈ (bare ss).head?, symbol ≠ op.symbol
  · rw [readMore_other op left hss] at h
    cases h
    exact ⟨.done, before_nil.2 rfl, rfl⟩
  · rcases ss with _ | ⟨⟨symbol, span⟩, ss⟩
    · exact absurd nofun hss
    · obtain rfl : symbol = op.symbol := by
        simpa [bare] using hss
      rw [readMore_symbol] at h
      split at h
      · cases h
      · next right mid hright =>
        obtain ⟨next, hnext, rfl⟩ := ih.level op.member hright
        obtain ⟨more, hmore, rfl⟩ := ih.more op h
        exact ⟨.member next more,
          before_cons.2 ⟨span, ss, rfl, before_append.2 ⟨mid, hnext, hmore⟩⟩, rfl⟩

theorem comparison (ih : ReadsDerived n) (h : readComparison (n + 1) ss = .ok (e, rest)) :
    ∃ d : Derivation (.level .comparison), Before ss d.symbols rest ∧ d.meaning = e := by
  rw [readComparison] at h
  split at h
  · cases h
  · next left op span mid hleft =>
    obtain ⟨left, hbefore, rfl⟩ := ih.level .operand hleft
    split at h
    · cases h
    · cases h
    · next right rest' _ hright =>
      obtain ⟨right, hbehind, rfl⟩ := ih.level .operand hright
      cases h
      exact ⟨.compare left op right,
        before_append.2 ⟨_, hbefore, before_cons.2 ⟨span, mid, rfl, hbehind⟩⟩, rfl⟩
  · next left mid _ hleft =>
    obtain ⟨left, hbefore, rfl⟩ := ih.level .operand hleft
    cases h
    exact ⟨.single left, hbefore, rfl⟩

theorem operand (ih : ReadsDerived n) (h : readOperand (n + 1) ss = .ok (e, rest)) :
    ∃ d : Derivation (.level .operand), Before ss d.symbols rest ∧ d.meaning = e := by
  unfold readOperand at h
  split at h
  · next heq => cases heq
  · next n' span ss' heq =>
    cases heq
    split at h
    · cases h
    · next inner rest' hinner =>
      obtain ⟨inner, hbefore, rfl⟩ := ih.level .operand hinner
      cases h
      exact ⟨.not inner, before_cons.2 ⟨span, ss', rfl, hbefore⟩, rfl⟩
  · next heq _ =>
    cases heq
    obtain ⟨primary, hprimary, rfl⟩ := ih.level .primary h
    exact ⟨.plain primary, hprimary, rfl⟩

/-- A symbol that stands for a value by itself is a primary of this value. -/
theorem of_literal? {symbol : Symbol} {value : Value}
    (h : symbol.literal? = some (.ok value)) :
    ∃ d : Derivation (.level .primary), d.symbols = [symbol] ∧ d.meaning = .literal value := by
  cases symbol with
  | string text =>
    cases h
    exact ⟨.string text, rfl, rfl⟩
  | numeral text =>
    rw [Symbol.literal?] at h
    split at h
    · next n hread =>
      cases h
      exact ⟨.numeral text n hread, rfl, rfl⟩
    · cases h
  | keyword word =>
    refine ⟨.keyword word, rfl, ?_⟩
    cases word <;> cases h <;> rfl
  | _ => cases h

theorem primary (ih : ReadsDerived n) (h : readPrimary (n + 1) ss = .ok (e, rest)) :
    ∃ d : Derivation (.level .primary), Before ss d.symbols rest ∧ d.meaning = e := by
  unfold readPrimary at h
  split at h
  · cases h
  · cases h
  · next n' name span span' behind heq =>
    -- a call
    cases heq
    split at h
    · cases h
    · next hplain =>
      split at h
      · cases h
      · next args rest' hargs =>
        obtain ⟨args, close, hbefore, rfl⟩ := ih.arguments hargs
        cases h
        refine ⟨.call name (Bool.eq_false_iff.2 hplain) args, ?_, rfl⟩
        exact before_cons.2 ⟨span, _, rfl, before_cons.2 ⟨span', behind, rfl,
          before_append.2 ⟨_, hbefore, before_singleton.2 ⟨close, rfl⟩⟩⟩⟩
  · next n' name span behind _ heq =>
    cases heq
    cases h
    exact ⟨.path name, before_singleton.2 ⟨span, rfl⟩, rfl⟩
  · next n' span behind heq =>
    -- parentheses
    cases heq
    split at h
    · cases h
    · next inner close rest' hinner =>
      obtain ⟨inner, hbefore, rfl⟩ := ih.level (.chain .or) hinner
      cases h
      exact ⟨.group inner, before_cons.2 ⟨span, behind, rfl,
        before_append.2 ⟨_, hbefore, before_singleton.2 ⟨close, rfl⟩⟩⟩, rfl⟩
    · cases h
  · next n' symbol span behind _ _ _ heq =>
    split at h
    · next value hvalue =>
      obtain ⟨d, hsymbols, hmeaning⟩ := of_literal? hvalue
      cases h
      exact ⟨d, hsymbols ▸ before_singleton.2 ⟨span, rfl⟩, hmeaning⟩
    · cases h
    · cases h

theorem nextArguments (ih : ReadsDerived n) {args : List Expr}
    (h : readArgumentList (n + 1) ss = .ok (args, rest)) :
    ∃ (d : Derivation .argumentList) (span : Span),
      Before ss d.symbols (⟨.rightParen, span⟩ :: rest) ∧ d.meaning = args := by
  rw [readArgumentList] at h
  split at h
  · cases h
  · next arg close rest' harg =>
    obtain ⟨arg, hbefore, rfl⟩ := ih.level (.chain .or) harg
    cases h
    exact ⟨.lastArgument arg, close, hbefore, rfl⟩
  · next arg span behind harg =>
    obtain ⟨arg, hbefore, rfl⟩ := ih.level (.chain .or) harg
    split at h
    · cases h
    · next more rest' hmore =>
      obtain ⟨more, close, hbehind, rfl⟩ := ih.argumentList hmore
      cases h
      exact ⟨.argument arg more, close,
        before_append.2 ⟨_, hbefore, before_cons.2 ⟨span, behind, rfl, hbehind⟩⟩, rfl⟩
  · cases h

theorem allArguments (ih : ReadsDerived n) {args : List Expr}
    (h : readArguments (n + 1) ss = .ok (args, rest)) :
    ∃ (d : Derivation .arguments) (span : Span),
      Before ss d.symbols (⟨.rightParen, span⟩ :: rest) ∧ d.meaning = args := by
  unfold readArguments at h
  split at h
  · next heq => cases heq
  · next n' close behind heq =>
    cases h
    exact ⟨.noArguments, close, before_nil.2 rfl, rfl⟩
  · next heq _ =>
    cases heq
    obtain ⟨list, close, hbefore, rfl⟩ := ih.argumentList h
    exact ⟨.someArguments list, close, hbefore, rfl⟩

end ReadsDerived

/-- **What a reader accepts has a derivation**, however many calls it may
make. -/
theorem readsDerived (n : Nat) : ReadsDerived n := by
  induction n with
  | zero =>
    refine ⟨fun level _ _ _ h => ?_, fun op _ _ _ _ h => ?_, nofun, nofun⟩
    · rw [readLevel_zero] at h
      cases h
    · rw [readMore_zero] at h
      cases h
  | succ n ih =>
    refine ⟨fun level _ _ _ h => ?_, fun op _ _ _ _ h => ih.further h, ih.allArguments,
      ih.nextArguments⟩
    cases level with
    | chain op => exact ih.chain h
    | comparison => exact ih.comparison h
    | operand => exact ih.operand h
    | primary => exact ih.primary h

/-! ## What has a derivation is read -/

/-- The calls that a reader of the category may make besides eight for each
symbol that it takes. -/
def Category.calls : Category → Nat
  | .arguments => 6
  | .argumentList => 5
  | .level (.chain .or) => 4
  | .level (.chain .and) => 3
  | .level .comparison => 2
  | .level .operand => 1
  | .level .primary => 0
  | .more _ => 1

/-- The reader of the category takes what is before the rest and yields this
meaning. The closing parenthesis of a call is taken with its arguments. -/
def Reads : (k : Category) → Nat → List Located → k.Meaning → List Located → Prop
  | .level level, n, ss, e, rest => readLevel level n ss = .ok (e, rest)
  | .more op, n, ss, joined, rest => ∀ left, readMore op n left ss = .ok (joined left, rest)
  | .arguments, n, ss, args, rest => ∀ span behind, rest = ⟨.rightParen, span⟩ :: behind →
      readArguments n ss = .ok (args, behind)
  | .argumentList, n, ss, args, rest => ∀ span behind, rest = ⟨.rightParen, span⟩ :: behind →
      readArgumentList n ss = .ok (args, behind)

/-- A level is read with a call more than its members. -/
theorem Connective.calls_chain (op : Connective) :
    (Category.level (.chain op)).calls = (Category.level op.member).calls + 1 ∧
      3 ≤ (Category.level (.chain op)).calls ∧ (Category.level op.member).calls ≤ 3 := by
  cases op <;> decide

theorem Derivation.one_le_length {k : Category} (d : Derivation k) (hk : k.isFilled = true) :
    1 ≤ d.symbols.length := by
  obtain ⟨symbol, more, hsymbols, -⟩ := d.exists_symbols_eq_cons hk
  rw [hsymbols, List.length_cons]
  omega

/-! ### One rule of the grammar each -/

namespace Reads

variable {op : Connective} {mid : List Located} {left right : Expr} {args : List Expr}
  {joined : Expr → Expr} {span : Span}

theorem chain (hfirst : Reads (.level op.member) n ss left mid)
    (hmore : Reads (.more op) n mid joined rest) :
    Reads (.level (.chain op)) (n + 1) ss (joined left) rest := by
  have hleft : readLevel op.member n ss = .ok (left, mid) := hfirst
  show readLevel (.chain op) (n + 1) ss = _
  rw [readChain_eq, hleft]
  exact hmore left

theorem done (hrest : Loose (.more op) (bare rest)) : Reads (.more op) (n + 1) rest id rest := by
  intro left
  refine readMore_other op left fun symbol hsymbol heq => ?_
  have hbond := hrest symbol hsymbol
  rw [heq, op.bond_symbol.1] at hbond
  omega

theorem member (hnext : Reads (.level op.member) n ss right mid)
    (hmore : Reads (.more op) n mid joined rest) :
    Reads (.more op) (n + 1) (⟨op.symbol, span⟩ :: ss) (fun left => joined (op.join left right))
      rest := by
  intro left
  have hright : readLevel op.member n ss = .ok (right, mid) := hnext
  rw [readMore_symbol, hright]
  exact hmore (op.join left right)

theorem single (hoperand : Reads (.level .operand) n ss left rest)
    (hrest : Loose (.level .comparison) (bare rest)) :
    Reads (.level .comparison) (n + 1) ss left rest := by
  have hleft : readOperand n ss = .ok (left, rest) := hoperand
  show readComparison (n + 1) ss = _
  rw [readComparison, hleft]
  split
  · next heq => cases heq
  · next heq =>
    cases heq
    exact absurd hrest (not_loose_operator _ _)
  · next heq => exact heq.symm

theorem compare {op : Operator}
    (hleft : Reads (.level .operand) n ss left (⟨.operator op, span⟩ :: mid))
    (hright : Reads (.level .operand) n mid right rest)
    (hrest : Loose (.level .comparison) (bare rest)) :
    Reads (.level .comparison) (n + 1) ss (.compare op left right) rest := by
  have hfirst : readOperand n ss = .ok (left, ⟨.operator op, span⟩ :: mid) := hleft
  have hsecond : readOperand n mid = .ok (right, rest) := hright
  show readComparison (n + 1) ss = _
  rw [readComparison, hfirst]
  simp only [hsecond]
  split
  · next heq => cases heq
  · next heq =>
    cases heq
    exact absurd hrest (not_loose_operator _ _)
  · next heq =>
    cases heq
    rfl

theorem not (hinner : Reads (.level .operand) n ss left rest) :
    Reads (.level .operand) (n + 1) (⟨.not, span⟩ :: ss) (.not left) rest := by
  have hoperand : readOperand n ss = .ok (left, rest) := hinner
  show readOperand (n + 1) _ = _
  rw [readOperand, hoperand]

/-- What does not begin with a negation is a primary. -/
theorem plain (hprimary : Reads (.level .primary) n ss left rest)
    (hss : ∀ symbol ∈ (bare ss).head?, symbol ≠ .not) :
    Reads (.level .operand) (n + 1) ss left rest := by
  have hread : readPrimary n ss = .ok (left, rest) := hprimary
  show readOperand (n + 1) ss = _
  rw [← hread]
  rcases ss with _ | ⟨⟨symbol, span⟩, ss⟩
  · simp only [readOperand]
  · have hsymbol : symbol ≠ .not := hss symbol rfl
    cases symbol <;> first | exact absurd rfl hsymbol | simp only [readOperand]

theorem literal {symbol : Symbol} {value : Value} (h : symbol.literal? = some (.ok value)) :
    Reads (.level .primary) (n + 1) (⟨symbol, span⟩ :: rest) (.literal value) rest := by
  have hread : readPrimary (n + 1) (⟨symbol, span⟩ :: rest) = .ok (.literal value, rest) := by
    cases symbol <;> first | cases h; done | simp only [readPrimary, h]
  exact hread

/-- A path without a parenthesis behind it is a path, -/
theorem path {name : String} (hrest : Loose (.level .primary) (bare rest)) :
    Reads (.level .primary) (n + 1) (⟨.path name, span⟩ :: rest) (.path name) rest := by
  have hread : readPrimary (n + 1) (⟨.path name, span⟩ :: rest) = .ok (.path name, rest) := by
    rcases rest with _ | ⟨⟨symbol, span'⟩, rest⟩
    · simp only [readPrimary]
    · cases symbol <;>
        first
        | exact absurd hrest (not_loose_leftParen _)
        | simp only [readPrimary]
  exact hread

/-- and one with a parenthesis the name of a function. -/
theorem call {name : String} (hplain : name.toList.contains '.' = false) {span' close : Span}
    (hargs : Reads .arguments n ss args (⟨.rightParen, close⟩ :: rest)) :
    Reads (.level .primary) (n + 1) (⟨.path name, span⟩ :: ⟨.leftParen, span'⟩ :: ss)
      (.call name args) rest := by
  have hread : readPrimary (n + 1) (⟨.path name, span⟩ :: ⟨.leftParen, span'⟩ :: ss) =
      .ok (.call name args, rest) := by
    rw [readPrimary, if_neg (by rw [hplain]; exact Bool.false_ne_true), hargs close rest rfl]
  exact hread

theorem group {close : Span}
    (hinner : Reads .condition n ss left (⟨.rightParen, close⟩ :: rest)) :
    Reads (.level .primary) (n + 1) (⟨.leftParen, span⟩ :: ss) left rest := by
  have hor : readOr n ss = .ok (left, ⟨.rightParen, close⟩ :: rest) := hinner
  have hread : readPrimary (n + 1) (⟨.leftParen, span⟩ :: ss) = .ok (left, rest) := by
    simp only [readPrimary, hor]
  exact hread

theorem noArguments : Reads .arguments (n + 1) rest [] rest := by
  rintro span behind rfl
  rw [readArguments]

/-- What begins otherwise than with the end of the arguments is an argument. -/
theorem someArguments (hlist : Reads .argumentList n ss args rest)
    (hss : ∀ symbol ∈ (bare ss).head?, symbol ≠ .rightParen) :
    Reads .arguments (n + 1) ss args rest := by
  intro close behind hclose
  rw [← hlist close behind hclose]
  rcases ss with _ | ⟨⟨symbol, span⟩, ss⟩
  · simp only [readArguments]
  · have hsymbol : symbol ≠ .rightParen := hss symbol rfl
    cases symbol <;> first | exact absurd rfl hsymbol | simp only [readArguments]

theorem lastArgument (harg : Reads .condition n ss left rest) :
    Reads .argumentList (n + 1) ss [left] rest := by
  rintro close behind rfl
  have hor : readOr n ss = .ok (left, ⟨.rightParen, close⟩ :: behind) := harg
  rw [readArgumentList, hor]

theorem argument (harg : Reads .condition n ss left (⟨.comma, span⟩ :: mid))
    (hmore : Reads .argumentList n mid args rest) :
    Reads .argumentList (n + 1) ss (left :: args) rest := by
  intro close behind hclose
  have hor : readOr n ss = .ok (left, ⟨.comma, span⟩ :: mid) := harg
  rw [readArgumentList, hor]
  simp only [hmore close behind hclose]

end Reads

/-- **Whatever has a derivation is read**, with its meaning and up to what is
behind it, if that does not go on with it. -/
theorem reads_of_derivation {k : Category} (d : Derivation k) (hss : Before ss d.symbols rest)
    (hrest : Loose k (bare rest)) (hn : 8 * d.symbols.length + k.calls ≤ n) :
    Reads k n ss d.meaning rest := by
  induction d generalizing n ss rest with
  | @chain op first more hfirst hmore =>
    have hlength := first.one_le_length rfl
    obtain ⟨hcalls, hthree, -⟩ := op.calls_chain
    rw [Derivation.symbols, List.length_append] at hn
    obtain ⟨n, rfl⟩ : ∃ m, n = m + 1 := ⟨n - 1, by omega⟩
    obtain ⟨mid, hbefore, hbehind⟩ := before_append.1 hss
    rw [Loose, op.bond_chain] at hrest
    have hfuel : 8 * more.symbols.length + 1 ≤ n := by omega
    exact .chain (hfirst hbefore (hbehind.bare_eq ▸ more.loose_member hrest) (by omega))
      (hmore hbehind hrest hfuel)
  | done =>
    obtain ⟨n, rfl⟩ : ∃ m, n = m + 1 := ⟨n - 1, by simp only [Category.calls] at hn; omega⟩
    obtain rfl := before_nil.1 hss
    exact .done hrest
  | @member op next more hnext hmore =>
    obtain ⟨-, -, hthree⟩ := op.calls_chain
    simp only [Derivation.symbols, List.length_cons, List.length_append, Category.calls] at hn
    obtain ⟨n, rfl⟩ : ∃ m, n = m + 1 := ⟨n - 1, by omega⟩
    obtain ⟨span, ss, rfl, hafter⟩ := before_cons.1 hss
    obtain ⟨mid, hbefore, hbehind⟩ := before_append.1 hafter
    have hfuel : 8 * more.symbols.length + 1 ≤ n := by omega
    exact .member (hnext hbefore (hbehind.bare_eq ▸ more.loose_member hrest) (by omega))
      (hmore hbehind hrest hfuel)
  | single operand ih =>
    simp only [Derivation.symbols, Category.calls] at hn ih
    obtain ⟨n, rfl⟩ : ∃ m, n = m + 1 := ⟨n - 1, by omega⟩
    exact .single (ih hss (hrest.imp (by decide)) (by omega)) hrest
  | compare left op right hleft hright =>
    simp only [Derivation.symbols, List.length_cons, List.length_append, Category.calls] at hn
    simp only [Category.calls] at hleft hright
    obtain ⟨n, rfl⟩ : ∃ m, n = m + 1 := ⟨n - 1, by omega⟩
    obtain ⟨_, hbefore, hafter⟩ := before_append.1 hss
    obtain ⟨span, mid, rfl, hbehind⟩ := before_cons.1 hafter
    exact .compare (hleft hbefore (loose_operator op _) (by omega))
      (hright hbehind (hrest.imp (by decide)) (by omega)) hrest
  | not inner ih =>
    simp only [Derivation.symbols, List.length_cons, Category.calls] at hn ih
    obtain ⟨n, rfl⟩ : ∃ m, n = m + 1 := ⟨n - 1, by omega⟩
    obtain ⟨span, ss, rfl, hbefore⟩ := before_cons.1 hss
    exact .not (ih hbefore hrest (by omega))
  | plain primary ih =>
    simp only [Derivation.symbols, Category.calls] at hn ih
    obtain ⟨n, rfl⟩ : ∃ m, n = m + 1 := ⟨n - 1, by omega⟩
    have hfirst : ∀ symbol ∈ (bare ss).head?, symbol ≠ .not := by
      rw [hss.bare_eq]
      cases primary <;> simp [Derivation.symbols]
    exact .plain (ih hss hrest (by omega)) hfirst
  | string value =>
    simp only [Derivation.symbols, List.length_singleton] at hn
    obtain ⟨n, rfl⟩ : ∃ m, n = m + 1 := ⟨n - 1, by omega⟩
    obtain ⟨span, rfl⟩ := before_singleton.1 hss
    exact .literal rfl
  | numeral text number hnumber =>
    simp only [Derivation.symbols, List.length_singleton] at hn
    obtain ⟨n, rfl⟩ : ∃ m, n = m + 1 := ⟨n - 1, by omega⟩
    obtain ⟨span, rfl⟩ := before_singleton.1 hss
    exact .literal (by simp only [Symbol.literal?, hnumber])
  | keyword word =>
    simp only [Derivation.symbols, List.length_singleton] at hn
    obtain ⟨n, rfl⟩ : ∃ m, n = m + 1 := ⟨n - 1, by omega⟩
    obtain ⟨span, rfl⟩ := before_singleton.1 hss
    exact .literal (by cases word <;> rfl)
  | path name =>
    simp only [Derivation.symbols, List.length_singleton] at hn
    obtain ⟨n, rfl⟩ : ∃ m, n = m + 1 := ⟨n - 1, by omega⟩
    obtain ⟨span, rfl⟩ := before_singleton.1 hss
    exact .path hrest
  | call name hplain args ih =>
    simp only [Derivation.symbols, List.length_cons, List.length_append, Category.calls] at hn ih
    obtain ⟨n, rfl⟩ : ∃ m, n = m + 1 := ⟨n - 1, by omega⟩
    obtain ⟨span, _, rfl, hafter⟩ := before_cons.1 hss
    obtain ⟨span', ss, rfl, hinside⟩ := before_cons.1 hafter
    obtain ⟨_, hbefore, hclose⟩ := before_append.1 hinside
    obtain ⟨close, rfl⟩ := before_singleton.1 hclose
    exact .call hplain (ih hbefore (loose_rightParen _ _) (by omega))
  | group inner ih =>
    simp only [Derivation.symbols, List.length_cons, List.length_append, Category.calls] at hn ih
    obtain ⟨n, rfl⟩ : ∃ m, n = m + 1 := ⟨n - 1, by omega⟩
    obtain ⟨span, ss, rfl, hinside⟩ := before_cons.1 hss
    obtain ⟨_, hbefore, hclose⟩ := before_append.1 hinside
    obtain ⟨close, rfl⟩ := before_singleton.1 hclose
    exact .group (ih hbefore (loose_rightParen _ _) (by omega))
  | noArguments =>
    simp only [Category.calls] at hn
    obtain ⟨n, rfl⟩ : ∃ m, n = m + 1 := ⟨n - 1, by omega⟩
    obtain rfl := before_nil.1 hss
    exact .noArguments
  | someArguments list ih =>
    simp only [Derivation.symbols, Category.calls] at hn ih
    obtain ⟨n, rfl⟩ : ∃ m, n = m + 1 := ⟨n - 1, by omega⟩
    have hfirst : ∀ symbol ∈ (bare ss).head?, symbol ≠ .rightParen := by
      obtain ⟨first, more, hsymbols, hbond⟩ := list.exists_symbols_eq_cons rfl
      rw [hss.bare_eq, Derivation.symbols, hsymbols]
      rintro symbol hsymbol rfl
      cases hsymbol
      cases hbond
    exact .someArguments (ih hss hrest (by omega)) hfirst
  | lastArgument arg ih =>
    simp only [Derivation.symbols, Category.calls] at hn ih
    obtain ⟨n, rfl⟩ : ∃ m, n = m + 1 := ⟨n - 1, by omega⟩
    exact .lastArgument (ih hss (hrest.imp (by decide)) (by omega))
  | argument arg more harg hmore =>
    simp only [Derivation.symbols, List.length_cons, List.length_append, Category.calls] at hn
    simp only [Category.calls] at harg hmore
    obtain ⟨n, rfl⟩ : ∃ m, n = m + 1 := ⟨n - 1, by omega⟩
    obtain ⟨_, hbefore, hafter⟩ := before_append.1 hss
    obtain ⟨span, mid, rfl, hbehind⟩ := before_cons.1 hafter
    exact .argument (harg hbefore (loose_comma _) (by omega)) (hmore hbehind hrest (by omega))

/-! ## Whole conditions -/

/-- **Symbols are arranged by their derivation.** -/
theorem arrange_eq_ok_iff :
    arrange ss = .ok e ↔ ∃ d : Derivation .condition, d.symbols = bare ss ∧ d.meaning = e := by
  rw [arrange]
  constructor
  · intro h
    split at h
    · cases h
    · split at h
      · cases h
      · next e' hread =>
        cases h
        obtain ⟨d, ⟨taken, rfl, htaken⟩, hmeaning⟩ :=
          (readsDerived (8 * (ss.length + 1))).level (.chain .or) hread
        exact ⟨d, by rw [List.append_nil, htaken], hmeaning⟩
      · cases h
  · rintro ⟨d, hsymbols, rfl⟩
    have hlength : d.symbols.length = ss.length := by rw [hsymbols, bare, List.length_map]
    have hfilled := d.one_le_length rfl
    have hfuel : 8 * d.symbols.length + Category.condition.calls ≤ 8 * (ss.length + 1) := by
      simp only [Category.calls]
      omega
    have hread : Reads .condition (8 * (ss.length + 1)) ss d.meaning [] :=
      reads_of_derivation d ⟨ss, (List.append_nil ss).symm, hsymbols.symm⟩ (loose_nil _) hfuel
    have hor : readOr (8 * (ss.length + 1)) ss = .ok (d.meaning, []) := hread
    rw [if_neg, hor]
    rw [List.isEmpty_iff_length_eq_zero]
    omega

/-- **A text is a condition just where its symbols have a derivation**, and it is
the condition that the derivation means. -/
theorem parse_eq_ok_iff {source : String} :
    parse source = .ok e ↔ ∃ ss, symbols source = .ok ss ∧
      ∃ d : Derivation .condition, d.symbols = bare ss ∧ d.meaning = e := by
  rw [parse]
  cases hsymbols : symbols source with
  | error fault =>
    constructor
    · exact nofun
    · rintro ⟨_, hok, _⟩
      cases hok
  | ok ss =>
    constructor
    · exact fun h => ⟨ss, rfl, arrange_eq_ok_iff.1 h⟩
    · rintro ⟨_, hok, hd⟩
      cases hok
      exact arrange_eq_ok_iff.2 hd

end Expr

end PromptMarkup
