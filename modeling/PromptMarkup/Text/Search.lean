/-!
# Text — finding one text inside another

`breakOn` cuts a text at the first occurrence of another, and everything
that searches is read off it: occurrence, splitting at a separator and the
look-out for a delimiter. The parts and the separator give back the text
(`eq_of_breakOn`), so nothing is lost in a cut.
-/

namespace PromptMarkup

namespace Text

/-- What follows `p` in a text that begins with it. -/
def dropPrefix? : List Char → List Char → Option (List Char)
  | [], t => some t
  | _ :: _, [] => none
  | p :: ps, c :: cs => if p = c then dropPrefix? ps cs else none

/-- The text begins with `p`. -/
def startsWith (p t : List Char) : Bool :=
  (dropPrefix? p t).isSome

/-- The text before and after the first occurrence of `sep`. -/
def breakOn (sep : List Char) : List Char → Option (List Char × List Char)
  | [] => (dropPrefix? sep []).map ([], ·)
  | c :: cs =>
    match dropPrefix? sep (c :: cs) with
    | some after => some ([], after)
    | none => (breakOn sep cs).map fun (before, after) => (c :: before, after)

/-- `p` occurs somewhere in the text. -/
def occursIn (p t : List Char) : Bool :=
  (breakOn p t).isSome

/-- A text that drops `p` is `p` followed by the rest. -/
theorem eq_of_dropPrefix? {p t r : List Char} (h : dropPrefix? p t = some r) : t = p ++ r := by
  induction p generalizing t with
  | nil => simpa [dropPrefix?] using h
  | cons a p ih =>
    cases t with
    | nil => simp [dropPrefix?] at h
    | cons c t =>
      simp only [dropPrefix?] at h
      split at h
      · next hc => rw [ih h, hc]; rfl
      · cases h

/-- A text that begins with `p` drops it. -/
@[simp] theorem dropPrefix?_append (p r : List Char) : dropPrefix? p (p ++ r) = some r := by
  induction p with
  | nil => rfl
  | cons a p ih => simpa [dropPrefix?] using ih

/-- **A cut loses nothing.** The part before, the separator and the part
after make up the text. -/
theorem eq_of_breakOn {sep t before after : List Char}
    (h : breakOn sep t = some (before, after)) : t = before ++ sep ++ after := by
  induction t generalizing before with
  | nil =>
    simp only [breakOn, Option.map_eq_some_iff, Prod.mk.injEq] at h
    obtain ⟨r, hr, rfl, rfl⟩ := h
    simpa using eq_of_dropPrefix? hr
  | cons c t ih =>
    simp only [breakOn] at h
    split at h
    · next r hr =>
      cases h
      simpa using eq_of_dropPrefix? hr
    · simp only [Option.map_eq_some_iff, Prod.mk.injEq, Prod.exists] at h
      obtain ⟨b, a, hb, rfl, rfl⟩ := h
      simp [ih hb]

/-- The part after a cut is shorter by what stands before it and by the
separator. -/
theorem length_of_breakOn {sep t before after : List Char}
    (h : breakOn sep t = some (before, after)) :
    after.length + sep.length + before.length = t.length := by
  rw [eq_of_breakOn h]
  simp only [List.length_append]
  omega

/-- The pieces between the occurrences of `sep`, taken from the left and
without overlap. An empty separator separates nothing. -/
def splitOn (sep t : List Char) : List (List Char) :=
  if _hs : sep = [] then [t]
  else
    match _hb : breakOn sep t with
    | none => [t]
    | some (before, after) => before :: splitOn sep after
termination_by t.length
decreasing_by
  have h₁ := length_of_breakOn _hb
  have h₂ := List.length_pos_iff.2 _hs
  omega

/-- The pieces of a string between the occurrences of `sep`. -/
def split (sep s : String) : List String :=
  (splitOn sep.toList s.toList).map String.ofList

/-- `p` occurs somewhere in the string. -/
def contains (s p : String) : Bool :=
  occursIn p.toList s.toList

/-- The string begins with `p`. -/
def hasPrefix (s p : String) : Bool :=
  startsWith p.toList s.toList

/-- The string ends with `p`. -/
def hasSuffix (s p : String) : Bool :=
  startsWith p.toList.reverse s.toList.reverse

/-- The strings one after another with `sep` between neighbours. -/
def join (sep : String) (parts : List String) : String :=
  sep.intercalate parts

end Text

end PromptMarkup
