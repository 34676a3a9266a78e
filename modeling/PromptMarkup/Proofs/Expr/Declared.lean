import PromptMarkup.Expr.Eval
/-!
# Expr — what a condition depends on

The value of a condition depends on nothing but what its paths lead to and
what comes of the calls that it names (`eval_congr`). The paths it does not
name may lead anywhere, and the functions that it does not name may be any
others. That holds of its failures too: two tables that have the same
functions under the names it calls, or none in either (`Functions.Alike`), and
two contexts in which its paths lead to the same, give it one value or one
failure (`eval_eq_of_declared`).
-/

namespace PromptMarkup

namespace Functions

/-- Two tables have the same under a name: no function in either, or functions
that take the same counts of arguments and compute the same of as many. -/
inductive Alike (fs fs' : Functions) (name : String) : Prop
  | absent (hnone : Keyed.find? fs name = none) (hnone' : Keyed.find? fs' name = none)
  | bound {f f' : Function} (hfind : Keyed.find? fs name = some f)
      (hfind' : Keyed.find? fs' name = some f') (hname : f.name = f'.name)
      (hleast : f.least = f'.least) (hmost : f.most = f'.most)
      (hbody : ∀ args : List Value, f.takes args.length = true → f.body args = f'.body args)

variable {fs fs' : Functions} {name : String}

/-- **A call of what two tables have alike** comes to the same, also where it
fails: for want of the function, for the count of its arguments, or in the
function itself. -/
theorem Alike.call_eq (h : fs.Alike fs' name) (args : List Value) :
    fs.call name args = fs'.call name args := by
  cases h with
  | absent hnone hnone' => rw [call, call, hnone, hnone']
  | @bound f f' hfind hfind' hname hleast hmost hbody =>
    have htakes : f'.takes args.length = f.takes args.length := by
      rw [Function.takes, Function.takes, hleast, hmost]
    rw [call, call, hfind, hfind']
    change f.apply args = f'.apply args
    rw [Function.apply, Function.apply, htakes]
    by_cases hcount : f.takes args.length = true
    · rw [if_pos hcount, if_pos hcount, hbody args hcount]
    · rw [if_neg hcount, if_neg hcount, hname, hleast, hmost]

end Functions

namespace Expr

variable {ctx ctx' : Context} {fs fs' : Functions}

mutual

/-- **Where its paths lead to the same and its calls come to the same**, a
condition has the same value, -/
theorem eval_congr (c : Expr) (hpaths : ∀ path ∈ c.paths, ctx.lookup? path = ctx'.lookup? path)
    (hcalls : ∀ name ∈ c.calls, ∀ values, fs.call name values = fs'.call name values) :
    c.eval ctx fs = c.eval ctx' fs' := by
  cases c with
  | literal value => rfl
  | path p => simp only [eval, hpaths p (List.mem_singleton_self p)]
  | call name args =>
    have hname := hcalls name List.mem_cons_self
    have hargs := evalAll_congr args hpaths fun f hf => hcalls f (List.mem_cons_of_mem _ hf)
    simp only [eval, hargs, hname]
  | not inner => simp only [eval, eval_congr inner hpaths hcalls]
  | and left right | or left right | compare op left right =>
    obtain ⟨hleft, hright⟩ := List.forall_mem_append.1 hpaths
    obtain ⟨hleft', hright'⟩ := List.forall_mem_append.1 hcalls
    simp only [eval, eval_congr left hleft hleft', eval_congr right hright hright']

/-- and so have the arguments of a call. -/
theorem evalAll_congr (args : List Expr)
    (hpaths : ∀ path ∈ pathsOfAll args, ctx.lookup? path = ctx'.lookup? path)
    (hcalls : ∀ name ∈ callsOfAll args, ∀ values, fs.call name values = fs'.call name values) :
    evalAll ctx fs args = evalAll ctx' fs' args := by
  cases args with
  | nil => rfl
  | cons first rest =>
    obtain ⟨hfirst, hrest⟩ := List.forall_mem_append.1 hpaths
    obtain ⟨hfirst', hrest'⟩ := List.forall_mem_append.1 hcalls
    simp only [evalAll, eval_congr first hfirst hfirst', evalAll_congr rest hrest hrest']

end

/-- **A condition depends on what it declares**: contexts in which each of its
paths leads to the same value or in neither anywhere, and tables that are alike
in each of the functions it calls, give it the same value or the same
failure. -/
theorem eval_eq_of_declared {c : Expr}
    (hpaths : ∀ path ∈ c.paths, ctx.lookup? path = ctx'.lookup? path)
    (hcalls : ∀ name ∈ c.calls, fs.Alike fs' name) : c.eval ctx fs = c.eval ctx' fs' :=
  c.eval_congr hpaths fun name hname => (hcalls name hname).call_eq

end Expr

namespace Sample

/-- A function that tells how many arguments it got, of two at most. -/
def tally : Function where
  name := "tally"
  least := 0
  most := some 2
  body args := .ok (.ofNat args.length)

/-- The same for the counts that it takes. -/
def tallied : Function where
  name := "tally"
  least := 0
  most := some 2
  body args := if args.length ≤ 2 then .ok (.ofNat args.length) else .ok .null

/-- A condition that a missing function makes fail if the first part holds. -/
def inquiry : Expr :=
  .and (.call "tally" [.path "user.name", .path "user.age"]) (.call "ghost" [.path "user.age"])

/-- A user in the data alone. -/
def plainly : Context where
  root := .record [("user", .record [("name", .text "Ann")])]

/-- The same name in a scope above other data, with something else beside it. -/
def shadowed : Context where
  root := .record [("user", .null)]
  scopes := [[("user", .record [("id", .ofNat 7), ("name", .text "Ann")])]]

/-- Neither what stands beside the paths nor a function beside those called makes
a difference. The condition fails for the one that both tables lack. -/
theorem eval_eq_of_declared_inquiry :
    inquiry.eval plainly [("tally", tally)] =
        inquiry.eval shadowed [("spare", { tally with name := "spare" }), ("tally", tallied)] ∧
      inquiry.eval plainly [("tally", tally)] =
        .error (.eval (.unknownFunction "ghost") none) := by
  have hname : Path.segments "user.name" = ["user", "name"] := by decide +kernel
  have hage : Path.segments "user.age" = ["user", "age"] := by decide +kernel
  have hfound : plainly.lookup? "user.name" = some (.text "Ann") := by
    rw [Context.lookup?, hname]
    rfl
  have habsent : plainly.lookup? "user.age" = none := by
    rw [Context.lookup?, hage]
    rfl
  have hfound' : shadowed.lookup? "user.name" = some (.text "Ann") := by
    rw [Context.lookup?, hname]
    rfl
  have habsent' : shadowed.lookup? "user.age" = none := by
    rw [Context.lookup?, hage]
    rfl
  constructor
  · refine Expr.eval_eq_of_declared ?_ ?_
    · intro path hpath
      obtain rfl | rfl | rfl : path = "user.name" ∨ path = "user.age" ∨ path = "user.age" := by
        simpa [inquiry, Expr.paths, Expr.pathsOfAll] using hpath
      · rw [hfound, hfound']
      · rw [habsent, habsent']
      · rw [habsent, habsent']
    · intro name hname
      obtain rfl | rfl : name = "tally" ∨ name = "ghost" := by
        simpa [inquiry, Expr.calls, Expr.callsOfAll] using hname
      · refine @Functions.Alike.bound _ _ _ tally tallied rfl rfl rfl rfl rfl fun args hargs => ?_
        have hle : args.length ≤ 2 := by
          simpa [Function.takes, tally] using hargs
        exact (if_pos hle).symm
      · exact .absent rfl rfl
  · simp only [inquiry, Expr.eval, Expr.evalAll, hfound, habsent]
    rfl

end Sample

end PromptMarkup
