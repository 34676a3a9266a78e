/-!
# Keyed — tables in the order of their names

A table of values by name is a list of entries that `insert` keeps in
strictly ascending order of the names, compared character by character.
Records of data, scopes, registries and stores are such tables, so whatever
lists one of them lists it in this order (`ordered_ofEntries`). A look-up
sees what was last inserted under a name (`find?_insert`).
-/

namespace PromptMarkup

/-- Values by name, in ascending order of the names. -/
abbrev Keyed (α : Type) := List (String × α)

namespace Keyed

variable {α : Type}

/-- The value under a name. -/
def find? (table : Keyed α) (name : String) : Option α :=
  List.lookup name table

/-- The table has an entry of this name. -/
def has (table : Keyed α) (name : String) : Bool :=
  (table.find? name).isSome

/-- The table with `value` under `name`, in place of what was there. -/
def insert (name : String) (value : α) : Keyed α → Keyed α
  | [] => [(name, value)]
  | (k, v) :: rest =>
    if name < k then (name, value) :: (k, v) :: rest
    else if name = k then (name, value) :: rest
    else (k, v) :: insert name value rest

/-- The table of a list of entries; of two entries of one name the later
counts. -/
def ofEntries (entries : List (String × α)) : Keyed α :=
  entries.foldl (fun table entry => insert entry.1 entry.2 table) []

/-- The names of a table, in ascending order. -/
def names (table : Keyed α) : List String :=
  table.map Prod.fst

/-! ## Look-up after insertion -/

/-- A look-up tries the entries from the front. -/
theorem find?_cons (entry : String × α) (rest : Keyed α) (name : String) :
    find? (entry :: rest) name = if name = entry.1 then some entry.2 else find? rest name := by
  obtain ⟨k, v⟩ := entry
  by_cases h : name = k
  · simp [find?, h]
  · simp only [find?, List.lookup_cons, if_neg h, beq_eq_false_iff_ne.2 h]

/-- **A table has what was last put under a name**, and what it had under
all others. -/
theorem find?_insert (name : String) (value : α) (table : Keyed α) (other : String) :
    (insert name value table).find? other =
      if other = name then some value else table.find? other := by
  induction table with
  | nil => simp [insert, find?_cons]
  | cons entry rest ih =>
    simp only [insert]
    split
    · simp only [find?_cons]
    · split
      · next h =>
        simp only [find?_cons, ← h]
        split <;> rfl
      · next h =>
        simp only [find?_cons, ih]
        split
        · next h' => simp [h', Ne.symm h]
        · rfl

/-- What is found under a name is an entry. -/
theorem mem_of_find? {table : Keyed α} {name : String} {value : α}
    (h : table.find? name = some value) : (name, value) ∈ table := by
  induction table with
  | nil => cases h
  | cons entry rest ih =>
    rw [find?_cons] at h
    split at h
    · next hname =>
      cases h
      rw [hname]
      exact List.mem_cons_self
    · exact List.mem_cons_of_mem entry (ih h)

/-! ## Order -/

/-- The names stand in strictly ascending order. -/
def Ordered (table : Keyed α) : Prop :=
  table.Pairwise fun a b => a.1 < b.1

instance (table : Keyed α) : Decidable table.Ordered :=
  inferInstanceAs (Decidable (table.Pairwise fun a b => a.1 < b.1))

/-- Every entry of a table in order is found under its name. -/
theorem Ordered.find?_of_mem {table : Keyed α} (h : table.Ordered) {name : String} {value : α}
    (hmem : (name, value) ∈ table) : table.find? name = some value := by
  induction table with
  | nil => cases hmem
  | cons entry rest ih =>
    obtain ⟨hfirst, hrest⟩ := List.pairwise_cons.1 h
    rw [find?_cons]
    rcases List.mem_cons.1 hmem with rfl | hmem
    · exact if_pos rfl
    · have hne : name ≠ entry.1 := fun hname =>
        String.lt_irrefl entry.1 (hname ▸ hfirst _ hmem)
      rw [if_neg hne]
      exact ih hrest hmem

/-- An insertion brings in nothing but its entry. -/
theorem mem_insert {name : String} {value : α} {table : Keyed α} {entry : String × α}
    (h : entry ∈ insert name value table) : entry = (name, value) ∨ entry ∈ table := by
  induction table with
  | nil => simpa [insert] using h
  | cons first rest ih =>
    simp only [insert] at h
    split at h
    · simpa using h
    · split at h
      · simp only [List.mem_cons] at h ⊢
        exact h.imp_right .inr
      · simp only [List.mem_cons] at h ⊢
        rcases h with h | h
        · exact .inr (.inl h)
        · exact (ih h).imp_right .inr

/-- An insertion keeps a table in order. -/
theorem ordered_insert {table : Keyed α} (h : table.Ordered) (name : String) (value : α) :
    (insert name value table).Ordered := by
  induction table with
  | nil => simp [Ordered, insert]
  | cons first rest ih =>
    simp only [Ordered, List.pairwise_cons] at h
    simp only [insert]
    split
    · next hlt =>
      simp only [Ordered, List.pairwise_cons, List.mem_cons]
      refine ⟨?_, h⟩
      rintro entry (rfl | he)
      · exact hlt
      · exact String.lt_trans hlt (h.1 entry he)
    · split
      · next heq => simpa only [Ordered, List.pairwise_cons, heq] using h
      · next hnlt hne =>
        simp only [Ordered, List.pairwise_cons]
        refine ⟨fun entry he => ?_, ih h.2⟩
        rcases mem_insert he with rfl | he
        · exact Std.lt_of_le_of_ne (String.not_lt.1 hnlt) (Ne.symm hne)
        · exact h.1 entry he

/-- A table made of entries has no others. -/
theorem mem_ofEntries {entries : List (String × α)} {entry : String × α}
    (h : entry ∈ ofEntries entries) : entry ∈ entries := by
  suffices go : ∀ table : Keyed α,
      entry ∈ entries.foldl (fun table entry => insert entry.1 entry.2 table) table →
        entry ∈ table ∨ entry ∈ entries from
    (go [] h).resolve_left List.not_mem_nil
  clear h
  induction entries with
  | nil => exact fun _ => .inl
  | cons first rest ih =>
    intro table h
    rcases ih _ h with hmem | hmem
    · rcases mem_insert hmem with rfl | hmem
      · exact .inr List.mem_cons_self
      · exact .inl hmem
    · exact .inr (List.mem_cons_of_mem first hmem)

/-- **Every table made of entries is in order.** -/
theorem ordered_ofEntries (entries : List (String × α)) : (ofEntries entries).Ordered := by
  suffices go : ∀ table : Keyed α, table.Ordered →
      (entries.foldl (fun table entry => insert entry.1 entry.2 table) table).Ordered from
    go [] .nil
  induction entries with
  | nil => exact fun _ h => h
  | cons entry rest ih => exact fun _ h => ih _ (ordered_insert h _ _)

end Keyed

end PromptMarkup
