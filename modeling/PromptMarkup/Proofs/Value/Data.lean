import PromptMarkup.Context
import PromptMarkup.Proofs.Value.Flattened
/-!
# Value — data, with their records in order

The records of data are tables: their names ascend, so none of them stands there
twice. `Data` are values that come with the proof that all their records are, at
any depth. They are made of lists of data and of entries with data, in whatever
order these come (`Data.list`, `Data.record`). What segments select in data is in order
as well (`Value.isOrdered_follow?`), and so is what a path leads to in a context
over data (`Context.IsOrdered.lookup?`). Places are listed of any data, since its
records are tables (`Data.tabled`).
-/

namespace PromptMarkup

namespace Value

mutual

/-- All records in a value are tables. -/
def isOrdered : Value → Bool
  | .list items => isOrderedItems items
  | .record fields => decide (Keyed.Ordered fields) && isOrderedFields fields
  | .null | .boolean _ | .number _ | .text _ => true

def isOrderedItems : List Value → Bool
  | [] => true
  | item :: rest => isOrdered item && isOrderedItems rest

def isOrderedFields : List (String × Value) → Bool
  | [] => true
  | (_, v) :: rest => isOrdered v && isOrderedFields rest

end

variable {v w : Value} {items : List Value} {fields : Keyed Value} {segment : String}

theorem isOrdered_list : (Value.list items).isOrdered = true ↔
    ∀ item ∈ items, item.isOrdered = true := by
  rw [isOrdered]
  induction items with
  | nil => simp [isOrderedItems]
  | cons item rest ih => rw [isOrderedItems, Bool.and_eq_true, ih, List.forall_mem_cons]

theorem isOrdered_record : (Value.record fields).isOrdered = true ↔
    fields.Ordered ∧ ∀ entry ∈ fields, entry.2.isOrdered = true := by
  have hfields : isOrderedFields fields = true ↔ ∀ entry ∈ fields, entry.2.isOrdered = true := by
    induction fields with
    | nil => simp [isOrderedFields]
    | cons entry rest ih => rw [isOrderedFields, Bool.and_eq_true, ih, List.forall_mem_cons]
  rw [isOrdered, Bool.and_eq_true, decide_eq_true_eq, hfields]

/-- **Entries in any order make a record in order.** -/
theorem isOrdered_ofFields {entries : List (String × Value)}
    (h : ∀ entry ∈ entries, entry.2.isOrdered = true) : (ofFields entries).isOrdered = true :=
  isOrdered_record.2
    ⟨Keyed.ordered_ofEntries entries, fun entry hmem => h entry (Keyed.mem_ofEntries hmem)⟩

/-- **What a segment selects in data is in order.** -/
theorem isOrdered_select? (h : v.isOrdered = true) (hselect : v.select? segment = some w) :
    w.isOrdered = true := by
  cases v with
  | record fields => exact (isOrdered_record.1 h).2 _ (Keyed.mem_of_find? hselect)
  | list items =>
    obtain ⟨n, _, hitem⟩ := Option.bind_eq_some_iff.1 hselect
    exact isOrdered_list.1 h _ (List.mem_of_getElem? hitem)
  | _ => cases hselect

theorem isOrdered_follow? {segments : List String} (h : v.isOrdered = true)
    (hfollow : v.follow? segments = some w) : w.isOrdered = true := by
  induction segments generalizing v with
  | nil =>
    cases hfollow
    exact h
  | cons segment rest ih =>
    obtain ⟨u, hselect, hrest⟩ := Option.bind_eq_some_iff.1 hfollow
    exact ih (isOrdered_select? h hselect) hrest

/-- So is what its fields lead to. -/
theorem isOrdered_of_reaches (hreaches : v.Reaches w) (h : v.isOrdered = true) :
    w.isOrdered = true := by
  induction hreaches with
  | here => exact h
  | field hfield _ ih => exact ih ((isOrdered_record.1 h).2 _ hfield)

end Value

/-- A value all of whose records are in order. -/
structure Data where
  value : Value
  isOrdered : value.isOrdered = true

namespace Data

/-- A list of data. -/
def list (items : List Data) : Data where
  value := .list (items.map value)
  isOrdered := Value.isOrdered_list.2 (List.forall_mem_map.2 fun item _ => item.isOrdered)

/-- The record of these entries; of two entries of one name the later counts. -/
def record (entries : List (String × Data)) : Data where
  value := .ofFields (entries.map fun (name, data) => (name, data.value))
  isOrdered := Value.isOrdered_ofFields (List.forall_mem_map.2 fun entry _ => entry.2.isOrdered)

/-- **The records of data are tables.** -/
theorem tabled (data : Data) : data.value.Tabled := fun _ hreaches =>
  (Value.isOrdered_record.1 (Value.isOrdered_of_reaches hreaches data.isOrdered)).1

end Data

namespace Context

/-- The data and all that is bound above them are in order. -/
structure IsOrdered (ctx : Context) : Prop where
  root : ctx.root.isOrdered = true
  scopes : ∀ scope ∈ ctx.scopes, ∀ entry ∈ scope, entry.2.isOrdered = true

variable {ctx : Context} {v : Value} {path : String}

theorem isOrdered_root (h : v.isOrdered = true) : ({ root := v } : Context).IsOrdered :=
  ⟨h, List.forall_mem_nil _⟩

namespace IsOrdered

theorem push (h : ctx.IsOrdered) : ctx.push.IsOrdered :=
  ⟨h.root, List.forall_mem_cons.2 ⟨List.forall_mem_nil _, h.scopes⟩⟩

theorem bind (h : ctx.IsOrdered) (name : String) (hv : v.isOrdered = true) :
    (ctx.bind name v).IsOrdered := by
  obtain ⟨hroot, hscopes⟩ := h
  rw [Context.bind]
  split
  · exact ⟨hroot, hscopes⟩
  · next scope outer heq =>
    rw [heq] at hscopes
    obtain ⟨hscope, houter⟩ := List.forall_mem_cons.1 hscopes
    refine ⟨hroot, List.forall_mem_cons.2 ⟨fun entry hmem => ?_, houter⟩⟩
    rcases Keyed.mem_insert hmem with rfl | hmem
    · exact hv
    · exact hscope entry hmem

theorem head? (h : ctx.IsOrdered) (hhead : ctx.head? name = some v) : v.isOrdered = true := by
  rw [Context.head?, Option.or_eq_some_iff] at hhead
  rcases hhead with hscope | ⟨_, hroot⟩
  · obtain ⟨scope, hmem, hfind⟩ := List.exists_of_findSome?_eq_some hscope
    exact h.scopes scope hmem _ (Keyed.mem_of_find? hfind)
  · exact Value.isOrdered_select? h.root hroot

/-- **What is found in a context over data is in order.** -/
theorem lookup? (h : ctx.IsOrdered) (hlookup : ctx.lookup? path = some v) :
    v.isOrdered = true := by
  rw [Context.lookup?] at hlookup
  split at hlookup
  · cases hlookup
  · split at hlookup
    · cases hlookup
    · obtain ⟨u, hhead, hfollow⟩ := Option.bind_eq_some_iff.1 hlookup
      exact Value.isOrdered_follow? (h.head? hhead) hfollow

end IsOrdered

end Context

end PromptMarkup
