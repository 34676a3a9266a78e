import Mathlib.Data.List.Nodup
import PromptMarkup.Keyed
import PromptMarkup.Proofs.DryRun.Sighted
import PromptMarkup.Proofs.Value.Leaf
/-!
# Value — the listed places and the paths that lead to them

The places that field names lead to are listed by joined names, while a path
is looked up by its segments. Names that lead through records (`descend?`)
are listed next to what they lead to (`routes`), and joined they are the
places of `reach` in their order (`reach_eq`). Every path that leads through
records is therefore listed (`mem_paths_of_lookup?`). Where no name is empty or
has a point in it the segments of a place are its names, and the lists have
these paths, each once, and nothing else (`Engine.flattening_agrees`).
-/

namespace PromptMarkup

namespace Value

variable {v w u : Value} {names : List String}

/-! ## Descending through records -/

/-- The field of a record. -/
def field? : Value → String → Option Value
  | .record fields, name => Keyed.find? fields name
  | _, _ => none

/-- What names lead to, each of them a field of a record. -/
def descend? (v : Value) : List String → Option Value
  | [] => some v
  | name :: rest => (v.field? name).bind (descend? · rest)

/-- Until they have come to their end the segments lead to records only. -/
def ThroughRecords (v : Value) (segments : List String) : Prop :=
  ∀ before, before <+: segments → before ≠ segments →
    ∃ fields, v.follow? before = some (.record fields)

theorem throughRecords_nil (v : Value) : v.ThroughRecords [] :=
  fun _ hbefore hne => absurd (List.prefix_nil.1 hbefore) hne

/-- Segments lead through records where the first is a field and the others
lead through records from there. -/
theorem throughRecords_cons {name : String} {rest : List String}
    (h : v.select? name = some u) :
    v.ThroughRecords (name :: rest) ↔ (∃ fields, v = .record fields) ∧ u.ThroughRecords rest := by
  constructor
  · intro hthrough
    constructor
    · obtain ⟨fields, hfields⟩ := hthrough [] List.nil_prefix (List.cons_ne_nil name rest).symm
      exact ⟨fields, Option.some.inj hfields⟩
    · intro before hbefore hne
      obtain ⟨fields, hfields⟩ := hthrough (name :: before)
        (List.cons_prefix_cons.2 ⟨rfl, hbefore⟩) fun heq => hne (List.cons.inj heq).2
      rw [follow?, h] at hfields
      exact ⟨fields, hfields⟩
  · rintro ⟨⟨fields, rfl⟩, hrest⟩ before hbefore hne
    cases before with
    | nil => exact ⟨fields, rfl⟩
    | cons segment before =>
      obtain ⟨rfl, hprefix⟩ := List.cons_prefix_cons.1 hbefore
      rw [follow?, h]
      exact hrest before hprefix fun heq => hne (congrArg _ heq)

/-- **Descending is following through records.** -/
theorem descend?_eq_some_iff :
    v.descend? names = some w ↔ v.follow? names = some w ∧ v.ThroughRecords names := by
  induction names generalizing v with
  | nil => exact (and_iff_left (throughRecords_nil v)).symm
  | cons name rest ih =>
    rw [descend?, follow?]
    constructor
    · intro h
      obtain ⟨u, hfield, hrest⟩ := Option.bind_eq_some_iff.1 h
      have hselect : v.select? name = some u := by
        cases v with
        | record fields => exact hfield
        | _ => cases hfield
      have hrecord : ∃ fields, v = .record fields := by
        cases v with
        | record fields => exact ⟨fields, rfl⟩
        | _ => cases hfield
      obtain ⟨hfollow, hthrough⟩ := ih.1 hrest
      exact ⟨Option.bind_eq_some_iff.2 ⟨u, hselect, hfollow⟩,
        (throughRecords_cons hselect).2 ⟨hrecord, hthrough⟩⟩
    · rintro ⟨h, hthrough⟩
      obtain ⟨u, hselect, hfollow⟩ := Option.bind_eq_some_iff.1 h
      obtain ⟨⟨fields, rfl⟩, hrest⟩ := (throughRecords_cons hselect).1 hthrough
      exact Option.bind_eq_some_iff.2 ⟨u, hselect, ih.2 ⟨hfollow, hrest⟩⟩

/-! ## Names next to places -/

mutual

/-- The names that lead to fields at any depth, with the fields' values. -/
def routes : Value → List (List String × Value)
  | .record fields => routesFields fields
  | _ => []

/-- The names of fields and those that lead on below them. -/
def routesFields : List (String × Value) → List (List String × Value)
  | [] => []
  | (name, v) :: rest =>
    ([name], v) :: (routes v).map (fun route => (name :: route.1, route.2)) ++ routesFields rest

end

/-- The routes of fields are the fields and, behind the name of each, its own
routes. -/
theorem mem_routesFields {fields : List (String × Value)} :
    (names, w) ∈ routesFields fields ↔
      ∃ field ∈ fields, names = [field.1] ∧ w = field.2 ∨
        ∃ rest, names = field.1 :: rest ∧ (rest, w) ∈ routes field.2 := by
  induction fields with
  | nil => simp [routesFields]
  | cons field rest ih =>
    obtain ⟨name, own⟩ := field
    rw [routesFields, List.mem_append, List.mem_cons, ih, List.exists_mem_cons_iff]
    simp only [List.mem_map, Prod.mk.injEq, Prod.exists]
    constructor
    · rintro ((h | ⟨below, u, hmem, rfl, rfl⟩) | h)
      exacts [.inl (.inl h), .inl (.inr ⟨below, rfl, hmem⟩), .inr h]
    · rintro ((h | ⟨below, rfl, hmem⟩) | h)
      exacts [.inl (.inl h), .inl (.inr ⟨below, w, hmem, rfl, rfl⟩), .inr h]

/-- A route has a name. -/
theorem ne_nil_of_mem_routes (h : (names, w) ∈ v.routes) : names ≠ [] := by
  cases v with
  | record fields =>
    obtain ⟨field, _, ⟨rfl, _⟩ | ⟨rest, rfl, _⟩⟩ := mem_routesFields.1 h <;>
      exact List.cons_ne_nil _ _
  | _ => exact absurd h List.not_mem_nil

mutual

/-- Below a base the places are the base and the routes, joined. -/
theorem reachBelow_eq (base : String) : ∀ v : Value,
    reachBelow base v = (routes v).map fun route => (Text.join "." (base :: route.1), route.2)
  | .record fields => by
    rw [reachBelow, reachFields_eq, routes]
    refine List.map_congr_left fun route hroute => ?_
    obtain ⟨names, w⟩ := route
    cases names with
    | nil => exact absurd rfl (ne_nil_of_mem_routes (v := .record fields) hroute)
    | cons name rest => rw [List.modifyHead_cons, Text.join_cons_cons]
  | .null | .boolean _ | .number _ | .text _ | .list _ => rfl

theorem reachFields_eq (place : String → String) : ∀ fields : List (String × Value),
    reachFields place fields =
      (routesFields fields).map fun route => (Text.join "." (route.1.modifyHead place), route.2)
  | [] => rfl
  | (name, v) :: rest => by
    rw [reachFields, routesFields, reachBelow_eq (place name) v, reachFields_eq place rest,
      List.map_append, List.map_cons, List.map_map]
    rfl

end

/-- **The places are the routes, joined**, in the same order. -/
theorem reach_eq (v : Value) :
    v.reach = v.routes.map fun route => (Text.join "." route.1, route.2) := by
  cases v with
  | record fields =>
    rw [reach, reachFields_eq, routes]
    simp only [List.modifyHead_id, id_eq]
  | _ => rfl

/-- Where names lead through records they are a route. -/
theorem mem_routes_of_descend? {name : String} {rest : List String}
    (h : v.descend? (name :: rest) = some w) : (name :: rest, w) ∈ v.routes := by
  induction rest generalizing v name with
  | nil =>
    obtain ⟨u, hfield, hrest⟩ := Option.bind_eq_some_iff.1 h
    cases hrest
    cases v with
    | record fields =>
      exact mem_routesFields.2 ⟨_, Keyed.mem_of_find? hfield, .inl ⟨rfl, rfl⟩⟩
    | _ => cases hfield
  | cons second rest ih =>
    obtain ⟨u, hfield, hrest⟩ := Option.bind_eq_some_iff.1 h
    cases v with
    | record fields =>
      exact mem_routesFields.2 ⟨_, Keyed.mem_of_find? hfield, .inr ⟨_, rfl, ih hrest⟩⟩
    | _ => cases hfield

/-- **Every path that leads through records is listed.** -/
theorem mem_reach_of_lookup? {path : String} (h : v.lookup? path = some w)
    (hthrough : v.ThroughRecords (Path.segments path)) : (path, w) ∈ v.reach := by
  rw [lookup?] at h
  split at h
  · cases h
  · have hdescend := descend?_eq_some_iff.2 ⟨h, hthrough⟩
    obtain ⟨head, rest, hsegments, _⟩ := Path.exists_segments_cons path
    rw [hsegments] at hdescend
    rw [reach_eq]
    refine List.mem_map.2 ⟨_, mem_routes_of_descend? hdescend, ?_⟩
    rw [← hsegments]
    exact congrArg (·, w) (Text.join_split "." path)

/-! ## Data with plain names -/

/-- The fields of records lead from one value to another. -/
inductive Reaches : Value → Value → Prop
  /-- Every value leads to itself, -/
  | here (v : Value) : Reaches v v
  /-- and a record leads where its fields do. -/
  | field {name : String} {fields : List (String × Value)} {v w : Value}
      (hfield : (name, v) ∈ fields) (hreaches : Reaches v w) : Reaches (.record fields) w

/-- Something holds of every record that fields lead to. -/
def EveryRecord (P : Keyed Value → Prop) (v : Value) : Prop :=
  ∀ fields, v.Reaches (.record fields) → P fields

/-- The records that fields lead to are tables, as those of data are. -/
def Tabled (v : Value) : Prop :=
  v.EveryRecord Keyed.Ordered

/-- No field that fields lead to has an empty name or one with a point. -/
def PlainlyNamed (v : Value) : Prop :=
  v.EveryRecord fun fields => ∀ name ∈ fields.names, name ≠ "" ∧ '.' ∉ name.toList

/-- What holds of every record holds of a record and of those that its fields
lead to. -/
theorem everyRecord_record {P : Keyed Value → Prop} {fields : Keyed Value} :
    (Value.record fields).EveryRecord P ↔ P fields ∧ ∀ entry ∈ fields, entry.2.EveryRecord P := by
  constructor
  · intro h
    exact ⟨h fields (.here _), fun entry hentry below hbelow => h below (.field hentry hbelow)⟩
  · rintro ⟨hhere, hfields⟩ below hreaches
    cases hreaches with
    | here => exact hhere
    | field hfield hbelow => exact hfields _ hfield below hbelow

/-- A value that is no record leads to none. -/
theorem everyRecord_of_ne {P : Keyed Value → Prop} (h : ∀ fields, v ≠ .record fields) :
    v.EveryRecord P := by
  intro fields hreaches
  cases hreaches with
  | here => exact absurd rfl (h fields)
  | field => exact absurd rfl (h _)

/-- In tables a route leads through records to what it is listed with. -/
theorem descend?_of_mem_routes (htabled : v.Tabled) (h : (names, w) ∈ v.routes) :
    v.descend? names = some w := by
  induction names generalizing v with
  | nil => exact absurd rfl (ne_nil_of_mem_routes h)
  | cons name rest ih =>
    cases v with
    | record fields =>
      obtain ⟨field, hfield, hroute⟩ := mem_routesFields.1 h
      obtain ⟨hordered, hbelow⟩ := everyRecord_record.1 htabled
      have hfind : Keyed.find? fields field.1 = some field.2 := hordered.find?_of_mem hfield
      rw [descend?, field?]
      rcases hroute with ⟨hnames, rfl⟩ | ⟨below, hnames, hroute⟩
      · cases hnames
        rw [hfind]
        rfl
      · cases hnames
        rw [hfind]
        exact ih (hbelow field hfield) hroute
    | _ => exact absurd h List.not_mem_nil

/-- The names of routes are those of fields. -/
theorem PlainlyNamed.route (hplain : v.PlainlyNamed) (h : (names, w) ∈ v.routes) :
    ∀ name ∈ names, name ≠ "" ∧ '.' ∉ name.toList := by
  induction names generalizing v with
  | nil => exact absurd rfl (ne_nil_of_mem_routes h)
  | cons name rest ih =>
    cases v with
    | record fields =>
      obtain ⟨field, hfield, hroute⟩ := mem_routesFields.1 h
      obtain ⟨hfields, hbelow⟩ := everyRecord_record.1 hplain
      have hname := hfields field.1 (List.mem_map_of_mem hfield)
      rcases hroute with ⟨hnames, _⟩ | ⟨below, hnames, hroute⟩
      · cases hnames
        exact List.forall_mem_singleton.2 hname
      · cases hnames
        exact List.forall_mem_cons.2 ⟨hname, ih (hbelow field hfield) hroute⟩
    | _ => exact absurd h List.not_mem_nil

/-- **Where names are plain the segments of a place are its names.** -/
theorem PlainlyNamed.segments (hplain : v.PlainlyNamed) (h : (names, w) ∈ v.routes) :
    Path.segments (Text.join "." names) = names :=
  Text.split_join rfl (ne_nil_of_mem_routes h) fun name hname => (hplain.route h name hname).2

mutual

/-- In tables no names lead anywhere twice. -/
theorem nodup_routes : ∀ v : Value, v.Tabled → (v.routes.map Prod.fst).Nodup
  | .record fields, h => by
    obtain ⟨hordered, hbelow⟩ := everyRecord_record.1 h
    rw [routes]
    exact nodup_routesFields fields hordered hbelow
  | .null, _ | .boolean _, _ | .number _, _ | .text _, _ | .list _, _ => List.nodup_nil

theorem nodup_routesFields : ∀ fields : Keyed Value, fields.Ordered →
    (∀ entry ∈ fields, Tabled entry.2) → ((routesFields fields).map Prod.fst).Nodup
  | [], _, _ => List.nodup_nil
  | (name, v) :: rest, hordered, htabled => by
    obtain ⟨hfirst, hrest⟩ := List.pairwise_cons.1 hordered
    obtain ⟨hown, hothers⟩ := List.forall_mem_cons.1 htabled
    have hbelow :
        (((routes v).map fun route => (name :: route.1, route.2)).map Prod.fst).Nodup := by
      have hmap := (nodup_routes v hown).map (List.cons_injective (a := name))
      rwa [List.map_map] at hmap ⊢
    rw [routesFields, List.map_append, List.map_cons, List.nodup_append]
    refine ⟨List.nodup_cons.2 ⟨?_, hbelow⟩, nodup_routesFields rest hrest hothers, ?_⟩
    · -- the field is not below itself, since a route has a name
      intro hmem
      simp only [List.mem_map, Prod.exists] at hmem
      obtain ⟨_, _, ⟨below, u, hroute, heq⟩, hnames⟩ := hmem
      obtain ⟨rfl, rfl⟩ := Prod.mk.inj heq
      exact ne_nil_of_mem_routes hroute (List.cons.inj hnames).2
    · -- all of these begin with its name, and the others with a later one
      rintro names hnames other hother rfl
      have hhere : names.head? = some name := by
        rcases List.mem_cons.1 hnames with rfl | hnames
        · rfl
        · simp only [List.mem_map, Prod.exists] at hnames
          obtain ⟨_, _, ⟨below, u, _, heq⟩, rfl⟩ := hnames
          obtain ⟨rfl, rfl⟩ := Prod.mk.inj heq
          rfl
      obtain ⟨⟨_, w⟩, hroute, rfl⟩ := List.mem_map.1 hother
      obtain ⟨field, hfield, hcases⟩ := mem_routesFields.1 hroute
      have hlater : name < field.1 := hfirst field hfield
      rcases hcases with ⟨rfl, _⟩ | ⟨below, rfl, _⟩ <;>
        exact String.lt_irrefl _ (Option.some.inj hhere ▸ hlater)

end

/-- **Where names are plain no place is listed twice.** -/
theorem nodup_paths (htabled : v.Tabled) (hplain : v.PlainlyNamed) : v.paths.Nodup := by
  have hpaths : v.paths = (v.routes.map Prod.fst).map (Text.join ".") := by
    rw [paths, reach_eq, List.map_map, List.map_map]
    rfl
  rw [hpaths]
  refine (nodup_routes v htabled).map_on fun names hnames others hothers hjoin => ?_
  obtain ⟨⟨_, w⟩, hroute, rfl⟩ := List.mem_map.1 hnames
  obtain ⟨⟨_, u⟩, hother, rfl⟩ := List.mem_map.1 hothers
  rw [← hplain.segments hroute, hjoin, hplain.segments hother]

/-- **Where names are plain the places are what paths lead to through
records.** -/
theorem mem_reach_iff (htabled : v.Tabled) (hplain : v.PlainlyNamed) {path : String} :
    (path, w) ∈ v.reach ↔ v.lookup? path = some w ∧ v.ThroughRecords (Path.segments path) := by
  constructor
  · intro h
    rw [reach_eq] at h
    obtain ⟨⟨names, u⟩, hroute, heq⟩ := List.mem_map.1 h
    obtain ⟨rfl, rfl⟩ := Prod.mk.inj heq
    have hsegments := hplain.segments hroute
    obtain ⟨hfollow, hthrough⟩ := descend?_eq_some_iff.1 (descend?_of_mem_routes htabled hroute)
    have hne : Text.join "." names ≠ "" := by
      intro hempty
      rw [hempty, Path.segments_empty] at hsegments
      exact (hplain.route hroute "" (hsegments ▸ List.mem_singleton_self "")).1 rfl
    refine ⟨?_, hsegments.symm ▸ hthrough⟩
    rw [lookup?, if_neg (by simpa using hne), hsegments, hfollow]
  · rintro ⟨h, hthrough⟩
    exact mem_reach_of_lookup? h hthrough

end Value

/-! ## Suggestions -/

/-- What is suggested is one of the candidates. -/
theorem Suggestion.mem_of_mem_nearest {path candidate : String} {candidates : List String}
    (h : candidate ∈ nearest path candidates) : candidate ∈ candidates := by
  obtain ⟨scored, hscored, rfl⟩ := List.mem_map.1 h
  have hmem := (List.mergeSort_perm _ _).mem_iff.1 (List.mem_of_mem_take hscored)
  obtain ⟨other, hother, hscore⟩ := List.mem_filterMap.1 hmem
  split at hscore
  · cases hscore
  · obtain ⟨distance, _, rfl⟩ := Option.map_eq_some_iff.1 hscore
    exact hother

/-- Before there is advice an entry has no suggestions, -/
theorem DryRun.suggestions_of_surveyAll {g : Ground} {inTurn : Bool} {nodes : List Node}
    {survey : Survey} (h : surveyAll g inTurn nodes = .ok survey) {use : VariableUse}
    (huse : use ∈ survey.vars) : use.suggestions = [] := by
  obtain ⟨info, path, _, hown⟩ := exists_var_of_surveyAll h huse
  cases hown
  rfl

namespace Engine

variable {e : Engine} {t : Template} {data : Value}

/-- so what a dry run suggests is a place of the data. -/
theorem suggestions_subset_paths {j j' : Journal} {report : DryRun.Report}
    (h : (e.dryRun t data).run j = (.ok report, j')) {use : DryRun.VariableUse}
    (huse : use ∈ report.vars) {path : String} (hpath : path ∈ use.suggestions) :
    path ∈ data.paths := by
  obtain ⟨nodes, survey, _, hsurvey, rfl⟩ := of_dryRun h
  obtain ⟨met, hmet, rfl⟩ := List.mem_map.1 huse
  rw [DryRun.VariableUse.advised] at hpath
  split at hpath
  · rw [DryRun.suggestions_of_surveyAll hsurvey hmet] at hpath
    exact absurd hpath List.not_mem_nil
  · exact Suggestion.mem_of_mem_nearest hpath

/-- **The lists of places agree with look-up.** Every path that leads through
records to a value is listed. Where the records are tables and no name in them
is empty or has a point, nothing else is listed and nothing twice, the leaves
are those of the paths that do not lead to a record with fields, and whatever a
dry run suggests leads to a value. -/
theorem flattening_agrees (data : Value) :
    (∀ path w, data.lookup? path = some w → data.ThroughRecords (Path.segments path) →
      path ∈ data.paths) ∧
    (data.Tabled → data.PlainlyNamed →
      data.paths.Nodup ∧
      (∀ path, path ∈ data.paths ↔
        ∃ w, data.lookup? path = some w ∧ data.ThroughRecords (Path.segments path)) ∧
      data.leaves.Nodup ∧
      (∀ path, path ∈ data.leaves ↔
        ∃ w, data.lookup? path = some w ∧ data.ThroughRecords (Path.segments path) ∧
          w.isBranch = false) ∧
      ∀ (e : Engine) (t : Template) (j j' : Journal) (report : DryRun.Report),
        (e.dryRun t data).run j = (.ok report, j') →
        ∀ use ∈ report.vars, ∀ path ∈ use.suggestions, ∃ w, data.lookup? path = some w) := by
  refine ⟨fun path w h hthrough => ?_, fun htabled hplain => ?_⟩
  · exact List.mem_map_of_mem (Value.mem_reach_of_lookup? h hthrough)
  · have hplace : ∀ path w, (path, w) ∈ data.reach ↔
        data.lookup? path = some w ∧ data.ThroughRecords (Path.segments path) :=
      fun _ _ => Value.mem_reach_iff htabled hplain
    have hpaths : ∀ path, path ∈ data.paths ↔
        ∃ w, data.lookup? path = some w ∧ data.ThroughRecords (Path.segments path) := by
      intro path
      simp only [Value.paths, List.mem_map, Prod.exists, exists_and_right, exists_eq_right, hplace]
    have hnodup := Value.nodup_paths htabled hplain
    refine ⟨hnodup, hpaths, ?_, fun path => ?_, ?_⟩
    · exact hnodup.sublist (List.filter_sublist.map Prod.fst)
    · simp only [Value.leaves, List.mem_map, List.mem_filter, Prod.exists, exists_and_right,
        exists_eq_right, Bool.not_eq_true', hplace]
      exact exists_congr fun w => and_assoc
    · intro e t j j' report h use huse path hpath
      obtain ⟨w, hlookup, _⟩ := (hpaths path).1 (suggestions_subset_paths h huse hpath)
      exact ⟨w, hlookup⟩

end Engine

namespace Sample

/-- The record of a user with a name and no tags. -/
def user : Keyed Value :=
  [("name", .text "Ada"), ("tags", .record [])]

/-- The user's data. -/
def account : Value :=
  .record [("user", .record user)]

/-- A template that asks for a name. -/
def misnamed : Template :=
  { name := "misnamed", source := "", tree := ⟨"misnamed", [.var default "name"]⟩, issues := [] }

/-- There are three records in the data. -/
theorem everyRecord_account {P : Keyed Value → Prop} (houter : P [("user", .record user)])
    (huser : P user) (htags : P []) : account.EveryRecord P := by
  have hname : (Value.text "Ada").EveryRecord P := Value.everyRecord_of_ne (by simp)
  have hnone : (Value.record []).EveryRecord P :=
    Value.everyRecord_record.2 ⟨htags, List.forall_mem_nil _⟩
  have hinner : (Value.record user).EveryRecord P :=
    Value.everyRecord_record.2
      ⟨huser, List.forall_mem_cons.2 ⟨hname, List.forall_mem_singleton.2 hnone⟩⟩
  exact Value.everyRecord_record.2 ⟨houter, List.forall_mem_singleton.2 hinner⟩

theorem tabled_account : account.Tabled :=
  everyRecord_account (by decide) (by decide) (by decide)

theorem plainlyNamed_account : account.PlainlyNamed :=
  everyRecord_account (by decide) (by decide) (by decide)

/-- The record of the user is a place and no leaf, the empty record of the tags
is a leaf, and the name is suggested by its path. -/
theorem flattening_agrees_account :
    account.paths = ["user", "user.name", "user.tags"] ∧ account.paths.Nodup ∧
      account.leaves = ["user.name", "user.tags"] ∧ account.leaves.Nodup ∧
      ∃ report j', (({} : Engine).dryRun misnamed account).run {} = (.ok report, j') ∧
        report.vars.map (·.suggestions) = [["user.name"]] ∧
        ∃ w, account.lookup? "user.name" = some w := by
  obtain ⟨hpaths, -, hleaves, -, hsuggestions⟩ :=
    (Engine.flattening_agrees account).2 tabled_account plainlyNamed_account
  obtain ⟨report, j', hrun, hreport⟩ := run_ok (({} : Engine).dryRun misnamed account) {}
    (fun report => report.vars.map (·.suggestions) = [["user.name"]]) (by decide +kernel)
  obtain ⟨use, huses, huse⟩ := List.map_eq_singleton_iff.1 hreport
  refine ⟨by decide, hpaths, by decide, hleaves, report, j', hrun, hreport, ?_⟩
  exact hsuggestions {} _ {} j' report hrun use (huses ▸ List.mem_singleton_self use) "user.name"
    (huse ▸ List.mem_singleton_self "user.name")

/-- A name with a point in it is listed like a path and leads nowhere. -/
example : (Value.record [("a.b", .null)]).paths = ["a.b"] ∧
    (Value.record [("a.b", .null)]).lookup? "a.b" = none :=
  ⟨by decide, by decide +kernel⟩

end Sample

end PromptMarkup
