import PromptMarkup.Failure
import PromptMarkup.Text.Blank
/-!
# Attributes — the named values of a tag

Attributes keep the order in which their names first appear, and of two
values of one name the later counts (`get?_set`): `set` overwrites in place
or appends (`names_put`).
-/

namespace PromptMarkup

/-- The attributes of a tag, in the order of their names' first
appearance. -/
structure Attributes where
  entries : List (String × String)
  deriving DecidableEq, Repr, Inhabited

namespace Attributes

/-- No attributes. -/
def empty : Attributes := ⟨[]⟩

/-- The entries with `value` under `name`, in its old place or at the end. -/
def put (name value : String) : List (String × String) → List (String × String)
  | [] => [(name, value)]
  | (k, v) :: rest => if k = name then (k, value) :: rest else (k, v) :: put name value rest

/-- The attributes with `value` under `name`. -/
def set (a : Attributes) (name value : String) : Attributes :=
  ⟨put name value a.entries⟩

/-- The attributes of a list of names and values, set one after another. -/
def ofPairs (pairs : List (String × String)) : Attributes :=
  pairs.foldl (fun a pair => a.set pair.1 pair.2) empty

/-- The value under a name. -/
def get? (a : Attributes) (name : String) : Option String :=
  a.entries.lookup name

/-- The value under a name, or another if there is none. -/
def getD (a : Attributes) (name fallback : String) : String :=
  (a.get? name).getD fallback

/-- There is an attribute of this name. -/
def has (a : Attributes) (name : String) : Bool :=
  (a.get? name).isSome

/-- The number of attributes. -/
def size (a : Attributes) : Nat :=
  a.entries.length

/-- The value under a name if it is not blank. -/
def filled? (a : Attributes) (name : String) : Option String :=
  (a.get? name).filter (!Text.isBlankText ·)

/-- The value under a name, read from its text without surrounding white
space. A value that cannot be read is a failure to render. -/
def read {α : Type} (a : Attributes) (reader : List Char → Option α) (name : String) :
    Except Failure (Option α) :=
  match a.get? name with
  | none => .ok none
  | some raw =>
    match reader (Text.trim raw.toList) with
    | some value => .ok (some value)
    | none => .error (.render (.invalidAttribute name raw) none none)

/-- A truth value, written out. -/
def boolean? (cs : List Char) : Option Bool :=
  if cs = "true".toList then some true
  else if cs = "false".toList then some false
  else none

/-! ## Setting and getting -/

/-- **An attribute has the value last set**, and the others keep theirs. -/
theorem get?_set (a : Attributes) (name value other : String) :
    (a.set name value).get? other = if other = name then some value else a.get? other := by
  obtain ⟨entries⟩ := a
  simp only [set, get?]
  induction entries with
  | nil =>
    by_cases h : other = name
    · simp [put, h]
    · simp [put, List.lookup_cons, h, beq_eq_false_iff_ne.2 h]
  | cons entry rest ih =>
    obtain ⟨k, v⟩ := entry
    simp only [put]
    split
    · next hk =>
      subst hk
      by_cases h : other = k
      · simp [h]
      · simp only [List.lookup_cons, beq_eq_false_iff_ne.2 h, if_neg h]
    · next hk =>
      by_cases h : other = k
      · simp [h, hk]
      · simp only [List.lookup_cons, beq_eq_false_iff_ne.2 h, ih]

/-- A new name goes to the end, and a known one stays in its place. -/
theorem names_put (name value : String) (entries : List (String × String)) :
    (put name value entries).map Prod.fst =
      if name ∈ entries.map Prod.fst then entries.map Prod.fst
      else entries.map Prod.fst ++ [name] := by
  induction entries with
  | nil => simp [put]
  | cons entry rest ih =>
    obtain ⟨k, v⟩ := entry
    simp only [put]
    split
    · next h => simp [h]
    · next h =>
      simp only [List.map_cons, ih, List.mem_cons, Ne.symm h, false_or]
      split <;> simp

/-- So no name comes to stand twice. -/
theorem nodup_put {name value : String} {entries : List (String × String)}
    (h : (entries.map Prod.fst).Nodup) : ((put name value entries).map Prod.fst).Nodup := by
  rw [names_put]
  split
  · exact h
  · next hnew =>
    refine List.nodup_append.2 ⟨h, List.pairwise_singleton _ _, ?_⟩
    rintro own hown last hlast rfl
    rw [List.mem_singleton.1 hlast] at hown
    exact hnew hown

end Attributes

end PromptMarkup
