import PromptMarkup.Expr.Eval
/-!
# Expr — functions that fail

What a function fails with is what the condition fails with that calls it
(`CallFails.eval_eq`): nothing on the way changes the failure or goes on
without the value. A condition itself only ever fails to evaluate, so a
failure of any other kind comes from a function (`eval_eq_error_iff`).
-/

namespace PromptMarkup

/-- A failure of a kind that neither conditions nor nodes raise themselves. -/
def Failure.isForeign : Failure → Bool
  | .parse .. | .invalid _ | .inheritance _ | .registration _ => true
  | .eval .. | .render .. => false

namespace Expr

/-- While a condition is evaluated, a function that it calls fails. -/
inductive CallFails (ctx : Context) (fs : Functions) : Expr → Failure → Prop
  /-- The function fails on the values of its arguments. -/
  | own {name : String} {args : List Expr} {values : List Value} {f : Function} {failure : Failure}
      (hargs : evalAll ctx fs args = .ok values) (hfind : Keyed.find? fs name = some f)
      (htakes : f.takes values.length = true) (hbody : f.body values = .error failure) :
      CallFails ctx fs (.call name args) failure
  | argument {name : String} {before after : List Expr} {arg : Expr} {values : List Value}
      {failure : Failure} (hbefore : evalAll ctx fs before = .ok values)
      (harg : CallFails ctx fs arg failure) :
      CallFails ctx fs (.call name (before ++ arg :: after)) failure
  | not {inner : Expr} {failure : Failure} (hinner : CallFails ctx fs inner failure) :
      CallFails ctx fs (.not inner) failure
  | andLeft {left right : Expr} {failure : Failure} (hleft : CallFails ctx fs left failure) :
      CallFails ctx fs (.and left right) failure
  /-- The right side counts only if the left does not settle the truth. -/
  | andRight {left right : Expr} {operand : Operand} {failure : Failure}
      (hleft : left.eval ctx fs = .ok operand) (hopen : operand.isTruthy = true)
      (hright : CallFails ctx fs right failure) : CallFails ctx fs (.and left right) failure
  | orLeft {left right : Expr} {failure : Failure} (hleft : CallFails ctx fs left failure) :
      CallFails ctx fs (.or left right) failure
  | orRight {left right : Expr} {operand : Operand} {failure : Failure}
      (hleft : left.eval ctx fs = .ok operand) (hopen : operand.isTruthy = false)
      (hright : CallFails ctx fs right failure) : CallFails ctx fs (.or left right) failure
  | compareLeft {op : Operator} {left right : Expr} {failure : Failure}
      (hleft : CallFails ctx fs left failure) : CallFails ctx fs (.compare op left right) failure
  | compareRight {op : Operator} {left right : Expr} {operand : Operand} {failure : Failure}
      (hleft : left.eval ctx fs = .ok operand) (hright : CallFails ctx fs right failure) :
      CallFails ctx fs (.compare op left right) failure

variable {ctx : Context} {fs : Functions} {c : Expr} {failure : Failure}

/-- Arguments fail where one does after those before it. -/
theorem evalAll_eq_error {before after : List Expr} {arg : Expr} {values : List Value}
    (hbefore : evalAll ctx fs before = .ok values) (harg : arg.eval ctx fs = .error failure) :
    evalAll ctx fs (before ++ arg :: after) = .error failure := by
  induction before generalizing values with
  | nil => simp only [List.nil_append, evalAll, harg]
  | cons first rest ih =>
    rw [evalAll] at hbefore
    rw [List.cons_append, evalAll]
    cases hfirst : first.eval ctx fs with
    | error failure => rw [hfirst] at hbefore; cases hbefore
    | ok operand =>
      rw [hfirst] at hbefore
      cases hrest : evalAll ctx fs rest with
      | error failure => rw [hrest] at hbefore; cases hbefore
      | ok more => rw [ih hrest]; rfl

/-- **A condition fails with what a function fails with that it calls.** -/
theorem CallFails.eval_eq (h : CallFails ctx fs c failure) : c.eval ctx fs = .error failure := by
  induction h with
  | own hargs hfind htakes hbody =>
    simp only [eval, hargs, Functions.call, hfind, Function.apply, htakes, if_true, hbody,
      Except.map]
  | argument hbefore _ ih => simp only [eval, evalAll_eq_error hbefore ih]
  | not _ ih | andLeft _ ih | orLeft _ ih | compareLeft _ ih => simp only [eval, ih]
  | andRight hleft hopen _ ih =>
    simp only [eval, hleft, hopen, if_true, ih, Except.map]
  | orRight hleft hopen _ ih =>
    simp only [eval, hleft, hopen, Bool.false_eq_true, if_false, ih, Except.map]
  | compareRight hleft _ ih => simp only [eval, hleft, ih]

/-- Only the function itself fails a call in a foreign way. -/
theorem of_call_eq_error {name : String} {values : List Value}
    (hforeign : failure.isForeign = true) (h : fs.call name values = .error failure) :
    ∃ f, Keyed.find? fs name = some f ∧ f.takes values.length = true ∧
      f.body values = .error failure := by
  rw [Functions.call] at h
  split at h
  · next f hfind =>
    rw [Function.apply] at h
    split at h
    · next htakes => exact ⟨f, hfind, htakes, h⟩
    · cases h
      cases hforeign
  · cases h
    cases hforeign

mutual

/-- A condition fails in a foreign way only because a function does, -/
theorem callFails_of_eval (hforeign : failure.isForeign = true) (c : Expr)
    (h : c.eval ctx fs = .error failure) : CallFails ctx fs c failure := by
  cases c with
  | literal value => cases h
  | path p => cases h
  | call name args =>
    cases hargs : evalAll ctx fs args with
    | error own =>
      simp only [eval, hargs] at h
      cases h
      obtain ⟨before, arg, after, values, rfl, hbefore, harg⟩ :=
        callFails_of_evalAll hforeign args hargs
      exact .argument hbefore harg
    | ok values =>
      simp only [eval, hargs] at h
      cases hcall : fs.call name values with
      | ok value => rw [hcall] at h; cases h
      | error own =>
        rw [hcall] at h
        cases h
        obtain ⟨f, hfind, htakes, hbody⟩ := of_call_eq_error hforeign hcall
        exact .own hargs hfind htakes hbody
  | not inner =>
    cases hinner : inner.eval ctx fs with
    | ok operand => simp only [eval, hinner] at h; cases h
    | error own =>
      simp only [eval, hinner] at h
      cases h
      exact .not (callFails_of_eval hforeign inner hinner)
  -- a connective fails with its left side, or with the right one where that is evaluated at all
  | and left right =>
    cases hleft : left.eval ctx fs with
    | error own =>
      simp only [eval, hleft] at h
      cases h
      exact .andLeft (callFails_of_eval hforeign left hleft)
    | ok operand =>
      simp only [eval, hleft] at h
      split at h
      · next hopen =>
        cases hright : right.eval ctx fs with
        | ok last => rw [hright] at h; cases h
        | error own =>
          rw [hright] at h
          cases h
          exact .andRight hleft hopen (callFails_of_eval hforeign right hright)
      · cases h
  | or left right =>
    cases hleft : left.eval ctx fs with
    | error own =>
      simp only [eval, hleft] at h
      cases h
      exact .orLeft (callFails_of_eval hforeign left hleft)
    | ok operand =>
      simp only [eval, hleft] at h
      split at h
      · cases h
      · next hopen =>
        cases hright : right.eval ctx fs with
        | ok last => rw [hright] at h; cases h
        | error own =>
          rw [hright] at h
          cases h
          exact .orRight hleft (Bool.eq_false_iff.2 hopen) (callFails_of_eval hforeign right hright)
  | compare op left right =>
    cases hleft : left.eval ctx fs with
    | error own =>
      simp only [eval, hleft] at h
      cases h
      exact .compareLeft (callFails_of_eval hforeign left hleft)
    | ok a =>
      cases hright : right.eval ctx fs with
      | error own =>
        simp only [eval, hleft, hright] at h
        cases h
        exact .compareRight hleft (callFails_of_eval hforeign right hright)
      | ok b =>
        -- what remains is the comparison's own failure, which is one of evaluation
        simp only [eval, hleft, hright] at h
        split at h <;> cases h
        cases hforeign

/-- and so do the arguments of a call. -/
theorem callFails_of_evalAll (hforeign : failure.isForeign = true) (args : List Expr)
    (h : evalAll ctx fs args = .error failure) :
    ∃ before arg after values, args = before ++ arg :: after ∧
      evalAll ctx fs before = .ok values ∧ CallFails ctx fs arg failure := by
  cases args with
  | nil => cases h
  | cons first rest =>
    cases hfirst : first.eval ctx fs with
    | error own =>
      simp only [evalAll, hfirst] at h
      cases h
      exact ⟨[], first, rest, [], rfl, rfl, callFails_of_eval hforeign first hfirst⟩
    | ok operand =>
      simp only [evalAll, hfirst] at h
      cases hrest : evalAll ctx fs rest with
      | ok values => rw [hrest] at h; cases h
      | error own =>
        rw [hrest] at h
        cases h
        obtain ⟨before, arg, after, values, rfl, hbefore, harg⟩ :=
          callFails_of_evalAll hforeign rest hrest
        refine ⟨first :: before, arg, after, operand.toValue :: values, rfl, ?_, harg⟩
        simp only [evalAll, hfirst, hbefore, Except.map]

end

/-- **A condition fails in a foreign way exactly where a function does that
it calls**, and then with the same failure. -/
theorem eval_eq_error_iff (hforeign : failure.isForeign = true) :
    c.eval ctx fs = .error failure ↔ CallFails ctx fs c failure :=
  ⟨callFails_of_eval hforeign c, CallFails.eval_eq⟩

end Expr

end PromptMarkup
