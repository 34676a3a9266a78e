import PromptMarkup.Expr.Eval
import PromptMarkup.Proofs.Value.Lookup
/-!
# Expr — equality and order in conditions

Equality and order are two walks over the same operands, and where a number
takes part both read a text as one. Here they are shown to agree: values that
can be ordered at all (`Value.Comparable`) have one order, of which `==` is the
middle case and which turns round with the operands (`Value.order_spec`). All
others make the four comparisons that ask for an order fail, whichever stands
first.

`Operator.Gives` and `Operator.Fails` say what a comparison comes to wherever
a condition makes it, whatever its sides are written as.
-/

namespace PromptMarkup

/-! ## Numbers -/

namespace Binary64.Extended

/-- Only `nan` has no order to any value. -/
theorem compare?_eq_none_iff {x y : Extended} : x.compare? y = none ↔ x = .nan ∨ y = .nan := by
  cases x <;> cases y <;> simp [compare?]

/-- The order of two numbers turns round with them. -/
theorem compare?_swap (x y : Extended) : y.compare? x = (x.compare? y).map Ordering.swap := by
  have hint : ∀ m n : Int, compare n m = (compare m n).swap :=
    fun _ _ => Std.OrientedCmp.eq_swap
  have hnat : ∀ m n : Nat, compare n m = (compare m n).swap :=
    fun _ _ => Std.OrientedCmp.eq_swap
  cases x with
  | nan => cases y <;> rfl
  | finite x =>
    cases y with
    | nan => rfl
    | finite y => exact congrArg some (hint x.signed y.signed)
    | infinite s => cases s <;> rfl
  | infinite s =>
    cases y with
    | nan => rfl
    | finite y => cases s <;> rfl
    | infinite t => exact congrArg some (hnat t.toNat s.toNat)

/-- A finite number has its own place in the order. -/
theorem compare?_finite_self (x : Binary64) : (finite x).compare? (finite x) = some .eq :=
  congrArg some (Std.LawfulEqCmp.compare_eq_iff_eq.2 rfl)

theorem same_comm (x y : Extended) : x.same y = y.same x := by
  rw [same, same, compare?_swap x y]
  cases x.compare? y with
  | none => rfl
  | some o => cases o <;> rfl

end Binary64.Extended

theorem Number.same_self (n : Number) : n.same n = true := by
  cases n <;> simp [same]

theorem Number.same_comm (m n : Number) : m.same n = n.same m := by
  cases m <;> cases n <;> simp [same, Bool.beq_comm]

/-! ## Values -/

namespace Value

/-! Equality of data goes through lists and records. -/

mutual

theorem same_self : ∀ v : Value, v.same v = true
  | .null => rfl
  | .boolean b => by simp [same]
  | .number n => n.same_self
  | .text s => by simp [same]
  | .list items => sameItems_self items
  | .record fields => sameFields_self fields

theorem sameItems_self : ∀ items : List Value, sameItems items items = true
  | [] => rfl
  | v :: rest => by rw [sameItems, same_self v, sameItems_self rest]; rfl

theorem sameFields_self : ∀ fields : List (String × Value), sameFields fields fields = true
  | [] => rfl
  | (k, v) :: rest => by rw [sameFields, same_self v, sameFields_self rest]; simp

end

mutual

theorem same_comm : ∀ v w : Value, v.same w = w.same v
  | .null, w => by cases w <;> rfl
  | .boolean a, w => by
    cases w with
    | boolean b => exact Bool.beq_comm
    | _ => rfl
  | .number m, w => by
    cases w with
    | number n => exact m.same_comm n
    | _ => rfl
  | .text s, w => by
    cases w with
    | text t => exact Bool.beq_comm
    | _ => rfl
  | .list xs, w => by
    cases w with
    | list ys => exact sameItems_comm xs ys
    | _ => rfl
  | .record fs, w => by
    cases w with
    | record gs => exact sameFields_comm fs gs
    | _ => rfl

theorem sameItems_comm : ∀ xs ys : List Value, sameItems xs ys = sameItems ys xs
  | [], [] | [], _ :: _ | _ :: _, [] => rfl
  | x :: xs, y :: ys => by rw [sameItems, sameItems, same_comm x y, sameItems_comm xs ys]

theorem sameFields_comm : ∀ fs gs : List (String × Value), sameFields fs gs = sameFields gs fs
  | [], [] | [], _ :: _ | _ :: _, [] => rfl
  | (k, x) :: fs, (l, y) :: gs => by
    rw [sameFields, sameFields, same_comm x y, sameFields_comm fs gs, Bool.beq_comm]

end

/-! ## Equality and order -/

/-- Two values have an order. -/
inductive Comparable : Value → Value → Prop
  /-- One of them is a number, and both stand for one. -/
  | numbers {v w : Value} {x y : Binary64.Extended} (hnumber : v.isNumber || w.isNumber)
      (hv : v.quantity? = some x) (hw : w.quantity? = some y) (hx : x ≠ .nan) (hy : y ≠ .nan) :
      Comparable v w
  /-- Both are texts. -/
  | texts (s t : String) : Comparable (.text s) (.text t)

variable {v w : Value}

theorem Comparable.symm (h : v.Comparable w) : w.Comparable v := by
  cases h with
  | numbers hnumber hv hw hx hy => exact .numbers (by rwa [Bool.or_comm]) hw hv hy hx
  | texts s t => exact .texts t s

theorem equals_self (v : Value) : v.equals v = true := by
  cases v with
  | number n => simp [equals, isNumber, quantity?, Binary64.Extended.same,
      Binary64.Extended.compare?_finite_self]
  | _ => exact same_self _

theorem equals_comm (v w : Value) : v.equals w = w.equals v := by
  rw [equals, equals, Bool.or_comm w.isNumber]
  split
  · cases v.quantity? with
    | none => cases w.quantity? <;> rfl
    | some x =>
      cases w.quantity? with
      | none => rfl
      | some y => exact x.same_comm y
  · exact same_comm v w

/-- Two values of which one is a number have the order of their numbers. -/
theorem order_of_quantities {x y : Binary64.Extended} {o : Ordering}
    (hnumber : v.isNumber || w.isNumber) (hv : v.quantity? = some x) (hw : w.quantity? = some y)
    (hcompare : x.compare? y = some o) : v.order w = .ok o ∧ v.equals w = (o == .eq) := by
  simp only [order, equals, hnumber, if_true, hv, hw, Binary64.Extended.same, hcompare, true_and]
  cases o <;> rfl

/-- **Equality and order are one order** of two values that have one. -/
theorem Comparable.exists_order (h : v.Comparable w) :
    ∃ o, v.order w = .ok o ∧ w.order v = .ok o.swap ∧ v.equals w = (o == .eq) := by
  cases h with
  | @numbers _ _ x y hnumber hv hw hx hy =>
    have hnumber' : (w.isNumber || v.isNumber) = true := by rwa [Bool.or_comm]
    have hsome : x.compare? y ≠ none :=
      fun hnone => (Binary64.Extended.compare?_eq_none_iff.1 hnone).elim hx hy
    obtain ⟨o, ho⟩ := Option.ne_none_iff_exists'.1 hsome
    have hswap : y.compare? x = some o.swap := by
      rw [Binary64.Extended.compare?_swap, ho, Option.map_some]
    obtain ⟨horder, hequals⟩ := order_of_quantities hnumber hv hw ho
    exact ⟨o, horder, (order_of_quantities hnumber' hw hv hswap).1, hequals⟩
  | texts s t =>
    have hswap : compare t s = (compare s t).swap := Std.OrientedCmp.eq_swap
    have hequal : compare s t = .eq ↔ s = t := Std.LawfulEqCmp.compare_eq_iff_eq
    refine ⟨compare s t, rfl, congrArg Except.ok hswap, ?_⟩
    rw [Bool.eq_iff_iff, beq_iff_eq, hequal]
    exact beq_iff_eq

/-- All others cannot be put into any. -/
theorem exists_fault_of_not_comparable (h : ¬ v.Comparable w) :
    ∃ fault, v.order w = .error fault := by
  rw [order.eq_def]
  split
  · next hnumber =>
    split
    · next x y hv hw =>
      split
      · next o hcompare =>
        have hnan : ¬ (x = .nan ∨ y = .nan) := by
          rw [← Binary64.Extended.compare?_eq_none_iff, hcompare]
          simp
        rw [not_or] at hnan
        exact absurd (.numbers hnumber hv hw hnan.1 hnan.2) h
      · exact ⟨_, rfl⟩
    · exact ⟨_, rfl⟩
  · split
    · next s t _ => exact absurd (.texts s t) h
    · exact ⟨_, rfl⟩

end Value

/-! ## Comparisons -/

namespace Expr

/-- The comparisons that ask for an order. -/
def Operator.orders : List Operator := [.less, .lessOrEqual, .greater, .greaterOrEqual]

/-- Every condition that compares conditions of these two values comes to this
truth. -/
def Operator.Gives (op : Operator) (a b : Operand) (verdict : Bool) : Prop :=
  ∀ ctx fs left right, eval ctx fs left = .ok a → eval ctx fs right = .ok b →
    eval ctx fs (.compare op left right) = .ok (truth verdict)

/-- Every condition that compares conditions of these two values fails in its
evaluation. -/
def Operator.Fails (op : Operator) (a b : Operand) : Prop :=
  ∀ ctx fs left right, eval ctx fs left = .ok a → eval ctx fs right = .ok b →
    ∃ fault, eval ctx fs (.compare op left right) = .error (.eval fault none)

variable {op : Operator} {a b : Operand}

/-- Every value, and the absence of one, is that of some condition. -/
theorem exists_eval_eq (a : Operand) : ∃ e, ∀ ctx fs, eval ctx fs e = .ok a := by
  cases a with
  | present v => exact ⟨.literal v, fun _ _ => rfl⟩
  | absent =>
    have hempty : ∀ ctx : Context, ctx.lookup? "" = none := by
      intro ctx
      rw [Context.lookup?, Path.segments_empty]
      rfl
    exact ⟨.path "", fun ctx fs => by rw [eval, hempty, Operand.ofOption]⟩

/-- What a comparison gives depends on the operands alone. -/
theorem gives_iff {verdict : Bool} :
    op.Gives a b verdict ↔ compareOperands op a b = .ok verdict := by
  constructor
  · intro h
    obtain ⟨left, hleft⟩ := exists_eval_eq a
    obtain ⟨right, hright⟩ := exists_eval_eq b
    have heval := h { root := .null } [] left right (hleft _ _) (hright _ _)
    simp only [eval, hleft, hright] at heval
    split at heval
    · next verdict' hverdict =>
      cases verdict <;> cases verdict' <;> first | exact hverdict | cases heval
    · cases heval
  · intro h ctx fs left right hleft hright
    simp only [eval, hleft, hright, h]

/-- And so does whether it fails. -/
theorem fails_iff : op.Fails a b ↔ ∃ fault, compareOperands op a b = .error fault := by
  constructor
  · intro h
    obtain ⟨left, hleft⟩ := exists_eval_eq a
    obtain ⟨right, hright⟩ := exists_eval_eq b
    obtain ⟨fault, heval⟩ := h { root := .null } [] left right (hleft _ _) (hright _ _)
    simp only [eval, hleft, hright] at heval
    split at heval
    · cases heval
    · next fault' hfault => exact ⟨fault', hfault⟩
  · rintro ⟨fault, h⟩ ctx fs left right hleft hright
    exact ⟨fault, by simp only [eval, hleft, hright, h]⟩

/-- The comparisons of two operands are those of an order in which they stand
like this. -/
structure Ordered (a b : Operand) (o : Ordering) : Prop where
  less : Operator.less.Gives a b (o == .lt)
  equal : Operator.equal.Gives a b (o == .eq)
  greater : Operator.greater.Gives a b (o == .gt)
  lessOrEqual : Operator.lessOrEqual.Gives a b (!(o == .gt))
  greaterOrEqual : Operator.greaterOrEqual.Gives a b (!(o == .lt))

/-- Comparisons that ask for an order are answered by it. -/
theorem compareOperands_of_mem_orders (hop : op ∈ Operator.orders) (v w : Value) :
    compareOperands op (.present v) (.present w) = (v.order w).map op.accepts := by
  simp only [Operator.orders, List.mem_cons, List.not_mem_nil, or_false] at hop
  obtain rfl | rfl | rfl | rfl := hop <;> rfl

theorem ordered_of_order {v w : Value} {o : Ordering} (horder : v.order w = .ok o)
    (hequals : v.equals w = (o == .eq)) : Ordered (.present v) (.present w) o := by
  have hasked : ∀ op ∈ Operator.orders, op.Gives (.present v) (.present w) (op.accepts o) := by
    intro op hop
    rw [gives_iff, compareOperands_of_mem_orders hop, horder]
    rfl
  simp only [Operator.orders, List.forall_mem_cons] at hasked
  exact ⟨hasked.1, gives_iff.2 (congrArg Except.ok hequals), hasked.2.2.1, hasked.2.1,
    hasked.2.2.2.1⟩

theorem fails_of_order {v w : Value} {fault : EvalFault} (horder : v.order w = .error fault) :
    ∀ op ∈ Operator.orders, op.Fails (.present v) (.present w) := by
  intro op hop
  rw [fails_iff, compareOperands_of_mem_orders hop, horder]
  exact ⟨fault, rfl⟩

/-- Equality is symmetric. -/
theorem compareOperands_equal_comm (a b : Operand) :
    compareOperands .equal a b = compareOperands .equal b a := by
  cases a with
  | absent => cases b <;> rfl
  | present v =>
    cases b with
    | absent => rfl
    | present w => exact congrArg Except.ok (v.equals_comm w)

/-- Equality always has an answer, and inequality the other one. -/
theorem exists_equal (a b : Operand) :
    ∃ same, compareOperands .equal a b = .ok same ∧
      compareOperands .notEqual a b = .ok (!same) := by
  cases a with
  | absent => cases b <;> exact ⟨_, rfl, rfl⟩
  | present v => cases b <;> exact ⟨_, rfl, rfl⟩

/-- What is absent stands before nothing and behind nothing. -/
theorem compareOperands_absent (habsent : a = .absent ∨ b = .absent) (hop : op ∈ Operator.orders) :
    compareOperands op a b = .ok false := by
  simp only [Operator.orders, List.mem_cons, List.not_mem_nil, or_false] at hop
  obtain rfl | rfl := habsent
  · cases b <;> obtain rfl | rfl | rfl | rfl := hop <;> rfl
  · cases a <;> obtain rfl | rfl | rfl | rfl := hop <;> rfl

/-- **The laws of comparison.** Equality is reflexive and symmetric, and `!=` is
its negation. What is absent stands in no order to anything, and to ask for one
is no failure. Of two values that are present there may be an order: then the
comparisons that ask for it agree with `==` and turn round with the values. If
there is none these comparisons fail, whichever value stands first. -/
theorem comparison_laws (a b : Operand) :
    Operator.equal.Gives a a true ∧
    (∃ same, Operator.equal.Gives a b same ∧ Operator.equal.Gives b a same ∧
      Operator.notEqual.Gives a b (!same)) ∧
    (a = .absent ∨ b = .absent → ∀ op ∈ Operator.orders, op.Gives a b false) ∧
    ∀ v w, a = .present v → b = .present w →
      (v.Comparable w → ∃ o, Ordered a b o ∧ Ordered b a o.swap) ∧
      (¬ v.Comparable w → ∀ op ∈ Operator.orders, op.Fails a b ∧ op.Fails b a) := by
  refine ⟨?_, ?_, ?_, ?_⟩
  · rw [gives_iff]
    cases a with
    | absent => rfl
    | present v => exact congrArg Except.ok v.equals_self
  · obtain ⟨same, hequal, hunequal⟩ := exists_equal a b
    exact ⟨same, gives_iff.2 hequal, gives_iff.2 (compareOperands_equal_comm a b ▸ hequal),
      gives_iff.2 hunequal⟩
  · exact fun habsent op hop => gives_iff.2 (compareOperands_absent habsent hop)
  · rintro v w rfl rfl
    constructor
    · intro h
      obtain ⟨o, horder, hswap, hequals⟩ := h.exists_order
      refine ⟨o, ordered_of_order horder hequals, ordered_of_order hswap ?_⟩
      rw [Value.equals_comm, hequals]
      cases o <;> rfl
    · intro h op hop
      obtain ⟨fault, hfault⟩ := Value.exists_fault_of_not_comparable h
      obtain ⟨fault', hfault'⟩ := Value.exists_fault_of_not_comparable (mt Value.Comparable.symm h)
      exact ⟨fails_of_order hfault op hop, fails_of_order hfault' op hop⟩

end Expr

namespace Sample

/-- A text that denotes a number, and one that denotes none though it can be
read as one. -/
def score : Value := .text " 21 "

def noScore : Value := .text "nan"

/-- The integer `18`. -/
def pass : Value := .number (.integer 18)

/-- The text comes behind the number, what is no number cannot be put before or
behind it, and nothing is put before or behind what is absent. -/
theorem comparison_laws_scores :
    Expr.Ordered (.present score) (.present pass) .gt ∧
      (∀ op ∈ Expr.Operator.orders, op.Fails (.present noScore) (.present pass)) ∧
      ∀ op ∈ Expr.Operator.orders, op.Gives .absent (.present noScore) false := by
  have hscore : score.quantity? = some (.finite (.ofInt 21)) := by decide +kernel
  have hnone : noScore.quantity? = some .nan := by decide +kernel
  have hgreater : (Binary64.Extended.finite (.ofInt 21)).compare? (.finite (.ofInt 18)) =
      some .gt := by decide +kernel
  have hlaws := fun a => Expr.comparison_laws (.present a) (.present pass)
  refine ⟨?_, fun op hop => ?_, ?_⟩
  · obtain ⟨o, hordered, -⟩ := ((hlaws score).2.2.2 _ _ rfl rfl).1
      (.numbers rfl hscore rfl (by simp) (by simp))
    -- which order it is can be told from one of the comparisons
    have horder := (@Value.order_of_quantities score pass _ _ _ rfl hscore rfl hgreater).1
    have hless := Expr.gives_iff.1 hordered.greater
    rw [Expr.compareOperands_of_mem_orders (by decide), horder] at hless
    cases o with
    | gt => exact hordered
    | _ => cases hless
  · refine (((hlaws noScore).2.2.2 _ _ rfl rfl).2 ?_ op hop).1
    intro h
    cases h with
    | numbers _ hv _ hx _ => exact hx (Option.some.inj (hv.symm.trans hnone))
  · exact (Expr.comparison_laws .absent (.present noScore)).2.2.1 (.inl rfl)

end Sample

end PromptMarkup
