import PromptMarkup.Function.Standard
import PromptMarkup.Proofs.Text.Pieces
/-!
# Function — a text in parts

`split` takes a text apart and `join` puts a list together, both by way of
the table of the standard functions, where each of them is found under its
own name whatever the table had before (`find?_withStandard`). Joining undoes
splitting for every source and every separator (`join_parts`): for an empty
source, which has no parts, for the empty separator, which parts every
character, and for a separator that overlaps itself, stands at an end or is
repeated. No part has the separator in it (`of_mem_parts`).
-/

namespace PromptMarkup

namespace Functions

variable {fs : Functions} {list : List Function} {f : Function}

/-! ## The standard functions in a table -/

/-- A table that is given functions of other names keeps what it had. -/
theorem find?_foldl_put_of_notMem {name : String} (hname : name ∉ list.map Function.name) :
    Keyed.find? (list.foldl put fs) name = Keyed.find? fs name := by
  induction list generalizing fs with
  | nil => rfl
  | cons first rest ih =>
    rw [List.map_cons, List.mem_cons, not_or] at hname
    rw [List.foldl_cons, ih hname.2, put, Keyed.find?_insert, if_neg hname.1]

/-- **Functions of different names** that a table is given are all found in
it. -/
theorem find?_foldl_put (hnames : (list.map Function.name).Nodup) (hf : f ∈ list) :
    Keyed.find? (list.foldl put fs) f.name = some f := by
  induction list generalizing fs with
  | nil => exact absurd hf List.not_mem_nil
  | cons first rest ih =>
    rw [List.map_cons, List.nodup_cons] at hnames
    rw [List.foldl_cons]
    rcases List.mem_cons.1 hf with rfl | hf
    · rw [find?_foldl_put_of_notMem hnames.1, put, Keyed.find?_insert, if_pos rfl]
    · exact ih hnames.2 hf

/-- The standard functions have different names. -/
theorem nodup_standardList : (standardList.map Function.name).Nodup := by decide

/-- **A standard function is found under its name**, whatever the table had
there. -/
theorem find?_withStandard (hf : f ∈ standardList) :
    Keyed.find? (withStandard fs) f.name = some f :=
  find?_foldl_put nodup_standardList hf

/-- A call of a standard function with as many arguments as it takes. -/
theorem call_withStandard (hf : f ∈ standardList) {args : List Value}
    (htakes : f.takes args.length = true) :
    (withStandard fs).call f.name args = f.body args := by
  rw [call, find?_withStandard hf]
  exact if_pos htakes

end Functions

namespace Function

variable {source separator part : String}

/-! ## Parts of a text -/

/-- Characters on their own, put together without a separator. -/
theorem join_singletons (cs : List Char) :
    Text.join "" (cs.map String.singleton) = String.ofList cs := by
  have hsingle : String.toList ∘ String.singleton = fun c => [c] :=
    funext String.toList_singleton
  rw [← String.toList_inj, Text.toList_join, List.map_map, hsingle]
  simp only [String.toList_empty, String.toList_ofList]
  induction cs with
  | nil => rfl
  | cons c rest ih =>
    cases rest with
    | nil => exact List.intercalate_singleton
    | cons d rest =>
      rw [List.map_cons] at ih ⊢
      rw [List.map_cons, List.intercalate_cons_cons, ih]
      rfl

/-- **The parts of a text, joined with the separator, are the text.** -/
theorem join_parts (source separator : String) :
    Text.join separator (parts source separator) = source := by
  rw [parts]
  split
  · next hsource =>
    rw [String.isEmpty_iff.1 hsource]
    rfl
  · split
    · next hseparator =>
      rw [String.isEmpty_iff.1 hseparator, join_singletons, String.ofList_toList]
    · exact Text.join_split separator source

/-- **No part has the separator in it.** With the empty separator, which is in
every text, the parts are single characters. -/
theorem of_mem_parts (h : part ∈ parts source separator) :
    separator = "" ∧ part.length = 1 ∨
      separator ≠ "" ∧ Text.contains part separator = false := by
  rw [parts] at h
  split at h
  · exact absurd h List.not_mem_nil
  · split at h
    · next hseparator =>
      obtain ⟨c, _, rfl⟩ := List.mem_map.1 h
      exact .inl ⟨String.isEmpty_iff.1 hseparator, String.length_singleton⟩
    · next hseparator =>
      have hne : separator ≠ "" := fun hempty => hseparator (String.isEmpty_iff.2 hempty)
      obtain ⟨piece, hpiece, rfl⟩ := List.mem_map.1 h
      have hchars : separator.toList ≠ [] := by simpa using hne
      refine .inr ⟨hne, ?_⟩
      rw [Text.contains, Text.occursIn, String.toList_ofList,
        Text.breakOn_of_mem_splitOn hchars hpiece]
      rfl

end Function

namespace Functions

/-- **Joining undoes splitting.** Whatever the two values are, the call of
`split` gives a list of texts, and joined with the same separator they are the
source as it appears in output. Each part is free of the separator, so the
text is taken apart wherever it can be; with the empty separator each is a
single character. -/
theorem join_split_calls (fs : Functions) (source separator : Value) :
    ∃ parts : List String,
      (withStandard fs).call "split" [source, separator] = .ok (.list (parts.map .text)) ∧
        (withStandard fs).call "join" [.list (parts.map .text), separator] =
          .ok (.text source.shown) ∧
        ∀ part ∈ parts,
          separator.shown = "" ∧ part.length = 1 ∨
            separator.shown ≠ "" ∧ Text.contains part separator.shown = false := by
  have hsplit : Function.split ∈ standardList := by simp [standardList]
  have hjoin : Function.join ∈ standardList := by simp [standardList]
  let parts := Function.parts source.shown separator.shown
  refine ⟨parts, call_withStandard hsplit rfl, ?_, fun part hpart => Function.of_mem_parts hpart⟩
  have hshown : (parts.map Value.text).map Value.shown = parts := by
    rw [List.map_map]
    exact List.map_id parts
  calc (withStandard fs).call "join" [.list (parts.map .text), separator]
      = Function.joined (.list (parts.map .text)) separator.shown := call_withStandard hjoin rfl
    _ = .ok (.text (Text.join separator.shown parts)) := by rw [Function.joined, hshown]
    _ = .ok (.text source.shown) := by rw [Function.join_parts]

/-- Neither a separator that overlaps itself nor one at an end loses text. -/
example : Function.parts "aaaa-" "aa" = ["", "", "-"] ∧
    Text.join "aa" (Function.parts "aaaa-" "aa") = "aaaa-" :=
  ⟨by simp [Function.parts, Text.split, Text.splitOn_eq, Text.breakOn, Text.dropPrefix?],
    Function.join_parts _ _⟩

end Functions

end PromptMarkup
