import PromptMarkup.DryRun
import PromptMarkup.Proofs.Value.Lookup
/-!
# Value — data that differ in one leaf

Two values may be the same but for one leaf, a field to which the names of
fields lead (`DifferAtLeaf`). A path whose segments stray from these names
leads to the same in both (`DifferAtLeaf.follow?_eq`), and so does every path
that does not overlap the leaf's own, be it looked up from whatever scopes
(`DifferAtLeaf.agree`). Since names may themselves have points in them, the
path of a leaf need not lead to it; overlapping is only ever too cautious.
The places where values may so differ are the leaves (`mem_leaves_iff`).
-/

namespace PromptMarkup

namespace Text

/-- Names below a base are names below the base with the first of them. -/
theorem join_cons_cons (base name : String) (names : List String) :
    join "." (base :: name :: names) = join "." ((base ++ "." ++ name) :: names) := by
  cases names <;> simp [join, String.append_assoc]

end Text

namespace DryRun

/-- The first of several names make a path that begins that of all. -/
theorem beginsPath_join {names : List String} (hnames : names ≠ []) (more : List String) :
    beginsPath (Text.join "." names) (Text.join "." (names ++ more)) = true := by
  rw [beginsPath]
  cases more with
  | nil =>
    have hdrop := Text.dropPrefix?_append (Text.join "." names).toList []
    rw [List.append_nil] at hdrop
    rw [List.append_nil, hdrop]
  | cons first rest =>
    have hjoin : (Text.join "." (names ++ first :: rest)).toList =
        (Text.join "." names).toList ++ '.' :: (Text.join "." (first :: rest)).toList := by
      simp [Text.join, String.intercalate_append_of_ne_nil hnames (List.cons_ne_nil first rest)]
    rw [hjoin, Text.dropPrefix?_append]
    rfl

/-- **Where a reference does not overlap a place, they part somewhere**: the
segments of neither begin with those of the other. -/
theorem not_prefix_of_overlap {path : String} {names : List String} (hnames : names ≠ [])
    (h : overlap path (Text.join "." names) = false) :
    ¬ Path.segments path <+: names ∧ ¬ names <+: Path.segments path := by
  obtain ⟨head, rest, hsegments, _⟩ := Path.exists_segments_cons path
  have hpath : Text.join "." (Path.segments path) = path := Text.join_split "." path
  rw [overlap, Bool.or_eq_false_iff] at h
  constructor
  · rintro ⟨more, rfl⟩
    have hnil : Path.segments path ≠ [] := by
      rw [hsegments]
      exact List.cons_ne_nil head rest
    have hbegins := beginsPath_join hnil more
    rw [hpath, h.1] at hbegins
    cases hbegins
  · rintro ⟨more, hmore⟩
    have hbegins := beginsPath_join hnames more
    rw [hmore, hpath, h.2] at hbegins
    cases hbegins

end DryRun

namespace Value

/-- Two values are the same but for one leaf of the first, to which the names
of fields lead, and in place of which the second may have anything. -/
inductive DifferAtLeaf : List String → Value → Value → Prop
  /-- The leaf is a field, with no fields below it. -/
  | leaf {name : String} {before after : List (String × Value)} {v w : Value}
      (hleaf : v.isBranch = false) :
      DifferAtLeaf [name] (.record (before ++ (name, v) :: after))
        (.record (before ++ (name, w) :: after))
  /-- It is below a field. -/
  | deeper {name : String} {names : List String} {before after : List (String × Value)}
      {v w : Value} (hdeeper : DifferAtLeaf names v w) :
      DifferAtLeaf (name :: names) (.record (before ++ (name, v) :: after))
        (.record (before ++ (name, w) :: after))

variable {names : List String} {v w : Value}

theorem DifferAtLeaf.names_ne_nil (h : DifferAtLeaf names v w) : names ≠ [] := by
  cases h <;> exact List.cons_ne_nil _ _

/-- A field with another value makes a difference to look-ups of its own name
at most. -/
theorem find?_append_cons (before after : Keyed Value) (name : String) (v w : Value)
    (segment : String) :
    Keyed.find? (before ++ (name, v) :: after) segment =
        Keyed.find? (before ++ (name, w) :: after) segment ∨
      segment = name ∧ Keyed.find? (before ++ (name, v) :: after) segment = some v ∧
        Keyed.find? (before ++ (name, w) :: after) segment = some w := by
  induction before with
  | nil =>
    simp only [List.nil_append, Keyed.find?_cons]
    by_cases h : segment = name
    · exact .inr ⟨h, if_pos h, if_pos h⟩
    · exact .inl (by rw [if_neg h, if_neg h])
  | cons entry rest ih =>
    simp only [List.cons_append, Keyed.find?_cons]
    split
    · exact .inl rfl
    · exact ih

/-- **Segments that stray from the way to the leaf** lead to the same. -/
theorem DifferAtLeaf.follow?_eq (h : DifferAtLeaf names v w) {segments : List String}
    (hbefore : ¬ segments <+: names) (hbehind : ¬ names <+: segments) :
    v.follow? segments = w.follow? segments := by
  induction h generalizing segments with
  | @leaf name before after v w =>
    cases segments with
    | nil => exact absurd List.nil_prefix hbefore
    | cons segment rest =>
      rw [follow?, follow?, select?, select?]
      obtain hsame | ⟨rfl, _, _⟩ := find?_append_cons before after name v w segment
      · rw [hsame]
      · exact absurd (List.cons_prefix_cons.2 ⟨rfl, List.nil_prefix⟩) hbehind
  | @deeper name names before after v w _ ih =>
    cases segments with
    | nil => exact absurd List.nil_prefix hbefore
    | cons segment rest =>
      rw [follow?, follow?, select?, select?]
      obtain hsame | ⟨rfl, hv, hw⟩ := find?_append_cons before after name v w segment
      · rw [hsame]
      · rw [hv, hw]
        refine ih (fun hprefix => hbefore ?_) fun hprefix => hbehind ?_
        · exact List.cons_prefix_cons.2 ⟨rfl, hprefix⟩
        · exact List.cons_prefix_cons.2 ⟨rfl, hprefix⟩

/-- From both values, and from whatever scopes above them, each of the paths
leads to the same. -/
def AgreeOn (paths : List String) (v w : Value) : Prop :=
  ∀ path ∈ paths, ∀ scopes, (Context.mk v scopes).lookup? path = (Context.mk w scopes).lookup? path

/-- What data a path is looked up in counts only for what its segments lead
to there. -/
theorem lookup?_congr {path : String}
    (h : v.follow? (Path.segments path) = w.follow? (Path.segments path))
    (scopes : List (Keyed Value)) :
    (Context.mk v scopes).lookup? path = (Context.mk w scopes).lookup? path := by
  rw [Context.lookup?, Context.lookup?]
  cases hsegments : Path.segments path with
  | nil => rfl
  | cons head rest =>
    simp only [Context.head?]
    -- a scope that binds the first segment hides the data
    cases scopes.findSome? (Keyed.find? · head) with
    | some bound => rfl
    | none =>
      rw [hsegments, follow?, follow?] at h
      rw [Option.none_or, Option.none_or, h]

/-- **Paths that do not overlap a leaf** lead to the same where only that leaf
differs. -/
theorem DifferAtLeaf.agree (h : DifferAtLeaf names v w) {paths : List String}
    (hpaths : ∀ path ∈ paths, DryRun.overlap path (Text.join "." names) = false) :
    AgreeOn paths v w := by
  intro path hpath scopes
  obtain ⟨hbefore, hbehind⟩ := DryRun.not_prefix_of_overlap h.names_ne_nil (hpaths path hpath)
  exact lookup?_congr (h.follow?_eq hbefore hbehind) scopes

/-! ## The leaves of a value -/

/-- The places that fields lead to are the fields and the places below them. -/
theorem mem_reachFields {place : String → String} {fields : List (String × Value)}
    {entry : String × Value} :
    entry ∈ reachFields place fields ↔
      ∃ field ∈ fields,
        entry = (place field.1, field.2) ∨ entry ∈ reachBelow (place field.1) field.2 := by
  induction fields with
  | nil => simp [reachFields]
  | cons field rest ih =>
    rw [reachFields, List.mem_append, List.mem_cons, ih]
    simp only [List.mem_cons, exists_eq_or_imp]

/-- A leaf that may differ stands below any base. -/
theorem DifferAtLeaf.mem_reachBelow (h : DifferAtLeaf names v w) (base : String) :
    ∃ u, (Text.join "." (base :: names), u) ∈ reachBelow base v ∧ u.isBranch = false := by
  induction h generalizing base with
  | @leaf name before after v w hleaf =>
    refine ⟨v, ?_, hleaf⟩
    rw [reachBelow, Text.join_cons_cons]
    exact mem_reachFields.2 ⟨(name, v), List.mem_append_right _ List.mem_cons_self, .inl rfl⟩
  | @deeper name names before after v w _ ih =>
    obtain ⟨u, hmem, hleaf⟩ := ih (base ++ "." ++ name)
    refine ⟨u, ?_, hleaf⟩
    rw [reachBelow, Text.join_cons_cons]
    exact mem_reachFields.2 ⟨(name, v), List.mem_append_right _ List.mem_cons_self, .inr hmem⟩

mutual

/-- And every leaf below a base may differ. -/
theorem exists_differ_of_reachBelow {path base : String} {u : Value} (hleaf : u.isBranch = false) :
    ∀ v : Value, (path, u) ∈ reachBelow base v →
      ∃ names w, path = Text.join "." (base :: names) ∧ DifferAtLeaf names v w
  | .record fields, h => by
    obtain ⟨before, name, own, after, names, w, hfields, hpath, hdiffer⟩ :=
      exists_differ_of_reachFields hleaf (base ++ "." ++ ·) fields h
    rw [hfields]
    refine ⟨name :: names, .record (before ++ (name, w) :: after), ?_, ?_⟩
    · rw [Text.join_cons_cons, hpath]
    · obtain ⟨rfl, rfl⟩ | hdeeper := hdiffer
      · exact .leaf hleaf
      · exact .deeper hdeeper

theorem exists_differ_of_reachFields {path : String} {u : Value} (hleaf : u.isBranch = false)
    (place : String → String) :
    ∀ fields : List (String × Value), (path, u) ∈ reachFields place fields →
      ∃ before name own after names w, fields = before ++ (name, own) :: after ∧
        path = Text.join "." (place name :: names) ∧
          (names = [] ∧ own = u ∨ DifferAtLeaf names own w)
  | (name, own) :: rest, h => by
    rw [reachFields, List.mem_append, List.mem_cons] at h
    obtain (hhere | hbelow) | hrest := h
    · cases hhere
      exact ⟨[], name, u, rest, [], .null, rfl, rfl, .inl ⟨rfl, rfl⟩⟩
    · obtain ⟨names, w, hpath, hdiffer⟩ := exists_differ_of_reachBelow hleaf own hbelow
      exact ⟨[], name, own, rest, names, w, rfl, hpath, .inr hdiffer⟩
    · obtain ⟨before, name', own', after, names, w, hfields, hpath, hdiffer⟩ :=
        exists_differ_of_reachFields hleaf place rest hrest
      exact ⟨(name, own) :: before, name', own', after, names, w, by rw [hfields]; rfl, hpath,
        hdiffer⟩

end

/-- **The leaves of a value are where it may differ** from others, each by the
names that lead to it. -/
theorem mem_leaves_iff {path : String} :
    path ∈ v.leaves ↔ ∃ names w, path = Text.join "." names ∧ DifferAtLeaf names v w := by
  have hplaces : path ∈ v.leaves ↔ ∃ u, (path, u) ∈ v.reach ∧ u.isBranch = false := by
    simp [leaves]
  rw [hplaces]
  constructor
  · rintro ⟨u, hmem, hleaf⟩
    cases v with
    | record fields =>
      obtain ⟨before, name, own, after, names, w, rfl, rfl, hdiffer⟩ :=
        exists_differ_of_reachFields hleaf id fields hmem
      refine ⟨name :: names, .record (before ++ (name, w) :: after), rfl, ?_⟩
      obtain ⟨rfl, rfl⟩ | hdeeper := hdiffer
      · exact .leaf hleaf
      · exact .deeper hdeeper
    | _ => exact absurd hmem List.not_mem_nil
  · rintro ⟨names, w, rfl, hdiffer⟩
    cases hdiffer with
    | @leaf name before after v w hleaf =>
      exact ⟨v, mem_reachFields.2 ⟨_, List.mem_append_right _ List.mem_cons_self, .inl rfl⟩, hleaf⟩
    | @deeper name names before after v w hdeeper =>
      obtain ⟨u, hmem, hleaf⟩ := hdeeper.mem_reachBelow name
      exact ⟨u, mem_reachFields.2 ⟨_, List.mem_append_right _ List.mem_cons_self, .inr hmem⟩, hleaf⟩

end Value

end PromptMarkup
