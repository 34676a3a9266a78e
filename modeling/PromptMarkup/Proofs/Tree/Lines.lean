import PromptMarkup.Proofs.Text.Lines
import PromptMarkup.Proofs.Tree.Legible
import PromptMarkup.Tree.Outline
/-!
# Tree — the lines of an outline

An outline is made of rows: one for the tree, one for each node at any depth,
and one for each branch of a choice (`Tree.shows_outline`). The rows quote texts,
defaults, the values of attributes and the sources of conditions, and the names
of tags, attributes and roles are legible; but paths, the names of variables,
templates and blocks are shown as they are (`Node.values`). So the lines of the
outline are its rows if and only if no line feed stands in one of these
(`Tree.lineEach_iff_unbroken`).
-/

namespace PromptMarkup

open Text

namespace Node

/-! ## Rows -/

/-- The headings of branches, of which the first is called `word`. -/
def branchHeadings (word : String) : List Branch → List String
  | [] => []
  | branch :: rest => (word ++ " " ++ quoted branch.source) :: branchHeadings "elseif" rest

/-- The headings of the bodies of a node. -/
def headings : Node → List String
  | .choice _ branches none => branchHeadings "if" branches
  | .choice _ branches (some _) => branchHeadings "if" branches ++ ["else"]
  | .text .. | .comment .. | .var .. | .tag .. | .blockTag .. | .loop .. | .inclusion ..
  | .extending .. | .block .. | .parent .. | .message .. => []

/-- What an outline shows of a node itself. -/
def rows (node : Node) : List String :=
  node.label :: node.headings

/-- A label begins with a letter. -/
theorem head?_label (node : Node) : node.label.toList.head? ≠ some ' ' := by
  cases node <;> simp [label, toString, String.toList_append]

theorem shows_line {row : String} (h : row.toList.head? ≠ some ' ') (depth : Nat) :
    Shows (outlineLine depth row) [row] :=
  shows_row h (2 * depth)

/-- A heading begins with its word. -/
theorem shows_heading {word : String} (hword : word = "if" ∨ word = "elseif") (source : String)
    (depth : Nat) :
    Shows (outlineLine depth (word ++ " " ++ quoted source)) [word ++ " " ++ quoted source] := by
  refine shows_line ?_ depth
  obtain rfl | rfl := hword <;> simp [String.toList_append]

/-- Branches show their headings and the rows of all nodes in them. -/
theorem shows_outlineBranches {branches : List Branch}
    (hbodies : ∀ body ∈ branches.map Branch.body, ∀ depth,
      Shows (outlineAll depth body) ((withinAll body).flatMap rows))
    {word : String} (hword : word = "if" ∨ word = "elseif") (depth : Nat) :
    Shows (outlineBranches depth word branches)
      (branchHeadings word branches ++ (withinBranches branches).flatMap rows) := by
  induction branches generalizing word with
  | nil => exact shows_nil
  | cons branch rest ih =>
    obtain ⟨position, source, condition, body⟩ := branch
    rw [List.map_cons, List.forall_mem_cons] at hbodies
    obtain ⟨hbody, hrest⟩ := hbodies
    have hshown := ((shows_heading hword source depth).append (hbody (depth + 1))).append
      (ih hrest (.inr rfl))
    refine hshown.perm ?_
    rw [branchHeadings, withinBranches, List.flatMap_append, List.append_assoc,
      List.singleton_append, List.cons_append, Branch.source]
    exact .cons _ (List.perm_append_comm_assoc _ _ _)

/-- What stands below a node shows its headings and the rows of all nodes in
its bodies. -/
theorem shows_outlineBelow {node : Node}
    (hbodies : ∀ body ∈ node.bodies, ∀ depth,
      Shows (outlineAll depth body) ((withinAll body).flatMap rows)) (depth : Nat) :
    Shows (outlineBelow depth node)
      (node.headings ++ (node.bodies.flatMap withinAll).flatMap rows) := by
  cases node with
  | choice info branches otherwise =>
    cases otherwise with
    | none =>
      simp only [bodies, headings, ← withinBranches_eq] at hbodies ⊢
      exact shows_outlineBranches hbodies (.inl rfl) (depth + 1)
    | some last =>
      simp only [bodies, List.forall_mem_append, List.forall_mem_singleton] at hbodies
      obtain ⟨hbranches, hlast⟩ := hbodies
      have helse : Shows (outlineLine (depth + 1) "else") ["else"] := shows_line (by decide) _
      have hshown := ((shows_outlineBranches hbranches (.inl rfl) (depth + 1)).append helse).append
        (hlast (depth + 2))
      refine hshown.perm ?_
      simp only [bodies, headings, List.flatMap_append, List.flatMap_singleton,
        ← withinBranches_eq, List.append_assoc]
      exact .append_left _ (List.perm_append_comm_assoc _ _ _)
  | blockTag | loop | block | message =>
    simp only [headings, bodies, List.flatMap_singleton, List.nil_append] at hbodies ⊢
    exact hbodies _ (List.mem_singleton_self _) (depth + 1)
  | _ => exact shows_nil

/-- **An outline shows the rows of all nodes**, at any depth. -/
theorem shows_outlineAll (nodes : List Node) (depth : Nat) :
    Shows (outlineAll depth nodes) ((withinAll nodes).flatMap rows) := by
  induction nodes using inductionAll generalizing depth with
  | nil => exact shows_nil
  | cons node rest hbodies ih =>
    have hshown := ((shows_line node.head?_label depth).append
      (shows_outlineBelow hbodies depth)).append (ih depth)
    rw [withinAll_cons, within_eq, List.flatMap_append, List.flatMap_cons, rows, List.cons_append]
    exact hshown

/-! ## Line feeds -/

theorem feed_not_mem_branchHeadings {word : String} (hword : word = "if" ∨ word = "elseif")
    (branches : List Branch) : ∀ row ∈ branchHeadings word branches, '\n' ∉ row.toList := by
  induction branches generalizing word with
  | nil => exact List.forall_mem_nil _
  | cons branch rest ih =>
    refine List.forall_mem_cons.2 ⟨?_, ih (.inr rfl)⟩
    obtain rfl | rfl := hword <;> simp [String.toList_append]

/-- The headings of a node are on one line each, as they quote conditions. -/
theorem feed_not_mem_headings (node : Node) : ∀ row ∈ node.headings, '\n' ∉ row.toList := by
  cases node with
  | choice info branches otherwise =>
    cases otherwise with
    | none => exact feed_not_mem_branchHeadings (.inl rfl) branches
    | some last =>
      exact List.forall_mem_append.2 ⟨feed_not_mem_branchHeadings (.inl rfl) branches,
        List.forall_mem_singleton.2 (by decide)⟩
  | _ => exact List.forall_mem_nil _

/-- What was written as the value of an attribute and is shown in the label of
the node as it is. -/
def values : Node → List String
  | .var _ path => [path]
  | .loop _ head _ => head.item :: head.source :: head.index.toList
  | .inclusion _ template _ | .extending _ _ template => [template]
  | .block _ _ name _ => [name]
  | .text .. | .comment .. | .tag .. | .blockTag .. | .choice .. | .parent .. | .message .. => []

@[simp] theorem feed_not_mem_strategyLabel (info : NodeInfo) :
    '\n' ∉ (strategyLabel info).toList := by
  have hname : ∀ strategy : Strategy, '\n' ∉ strategy.name.toList := by
    intro strategy
    cases strategy <;> decide
  rw [strategyLabel]
  cases info.strategy <;> simp [toString, String.toList_append, hname]

theorem feed_not_mem_name {name : String} (h : Token.isTagName name = true) :
    '\n' ∉ name.toList := by
  obtain ⟨-, -, -, -, hchars⟩ := Token.of_isTagName h
  exact fun hmem => absurd (hchars _ hmem) (by decide)

theorem feed_not_mem_attributesLabel {attrs : Attributes} (h : attrs.Writable) :
    '\n' ∉ (attributesLabel attrs).toList := by
  have hname : ∀ entry ∈ attrs.entries, '\n' ∉ entry.1.toList := by
    intro entry hentry hmem
    obtain ⟨-, -, -, hchars⟩ := Token.of_isAttributeName (h.names entry hentry)
    exact absurd (hchars _ hmem) (by decide)
  rw [attributesLabel, String.toList_join, List.flatMap_map, List.mem_flatMap]
  rintro ⟨entry, hentry, hmem⟩
  simp [toString, String.toList_append, hname entry hentry] at hmem

theorem feed_not_mem_role {role : String} (h : role ∈ messageRoles) : '\n' ∉ role.toList := by
  simp only [messageRoles, List.mem_cons, List.not_mem_nil, or_false] at h
  obtain rfl | rfl | rfl | rfl := h <;> decide

/-- **The label of a legible node is on one line** if and only if what it shows
as it is has no line feed in it. -/
theorem feed_not_mem_label_iff {node : Node} (h : node.Legible) :
    '\n' ∉ node.label.toList ↔ ∀ value ∈ node.values, '\n' ∉ value.toList := by
  cases node with
  | var info path =>
    obtain ⟨_, _, _, _, fallback⟩ := info
    cases fallback <;> simp [label, values, toString, String.toList_append]
  | tag info name attrs | blockTag info name attrs =>
    simp [label, values, toString, String.toList_append, feed_not_mem_name h.1,
      feed_not_mem_attributesLabel h.2]
  | message span position role body =>
    simp [label, values, toString, String.toList_append, feed_not_mem_role h]
  | loop info head body =>
    obtain ⟨item, index, source, limit⟩ := head
    cases index <;> cases limit <;> simp [label, values, toString, String.toList_append]
  | _ => simp [label, values, toString, String.toList_append]

/-- So are all its rows. -/
theorem feed_not_mem_rows_iff {node : Node} (h : node.Legible) :
    (∀ row ∈ node.rows, '\n' ∉ row.toList) ↔ ∀ value ∈ node.values, '\n' ∉ value.toList := by
  rw [rows, List.forall_mem_cons, feed_not_mem_label_iff h,
    and_iff_left (feed_not_mem_headings node)]

end Node

namespace Tree

/-- The first row of an outline. -/
def heading (tree : Tree) : String :=
  s!"Template {quoted tree.name}"

/-- All rows of an outline: one for the tree, one for each node at any depth and
one for each branch. -/
def rows (tree : Tree) : List String :=
  tree.heading :: (Node.withinAll tree.nodes).flatMap Node.rows

theorem shows_outline (tree : Tree) : Shows tree.outline tree.rows := by
  have hheading : Shows (tree.heading ++ "\n") [tree.heading] := by
    have hrow : tree.heading.toList.head? ≠ some ' ' := by simp [heading, toString]
    simpa using shows_row hrow 0
  exact hheading.append (Node.shows_outlineAll tree.nodes 1)

/-- The lines of the outline are its rows, each indented somehow. -/
def LineEach (tree : Tree) : Prop :=
  ((lines tree.outline).map unindent).Perm (tree.rows.map String.toList)

/-- What the outline shows as it is has no line feed in it. -/
def Unbroken (tree : Tree) : Prop :=
  ∀ node ∈ Node.withinAll tree.nodes, ∀ value ∈ node.values, '\n' ∉ value.toList

instance (tree : Tree) : Decidable tree.LineEach :=
  inferInstanceAs (Decidable (List.Perm _ _))

instance (tree : Tree) : Decidable tree.Unbroken :=
  inferInstanceAs (Decidable (∀ node ∈ Node.withinAll tree.nodes, ∀ value ∈ node.values,
    '\n' ∉ value.toList))

/-- **The outline of a legible tree has a line for each row** if and only if what
it shows as it is has no line feed in it. -/
theorem lineEach_iff_unbroken {tree : Tree} (h : Node.Throughout Node.Legible tree.nodes) :
    tree.LineEach ↔ tree.Unbroken := by
  have hheading : '\n' ∉ tree.heading.toList := by simp [heading, toString]
  rw [LineEach, tree.shows_outline.lines_iff, rows, List.forall_mem_cons, and_iff_right hheading,
    List.forall_mem_flatMap]
  exact forall₂_congr fun node hnode => Node.feed_not_mem_rows_iff (h node hnode)

end Tree

/-- **An outline has one line for each row** if and only if what it shows as it
is has no line feed in it. This is so of every accepted template, and of the
nodes that it stands for. -/
theorem Template.lineEach_iff {d : Delimiters} {resolvers : Resolvers} {name source : String}
    {t : Template} (h : parse d resolvers name source = .ok t) :
    (t.tree.LineEach ↔ t.tree.Unbroken) ∧
      ∀ (e : Engine) (j j' : Journal) (nodes : List Node), j.store.Accepted →
        (e.effective t).run j = (.ok nodes, j') →
          ((Tree.mk t.name nodes).LineEach ↔ (Tree.mk t.name nodes).Unbroken) := by
  have haccepted : t.tree.Accepted := ⟨_, _, _, _, t, h, rfl⟩
  exact ⟨Tree.lineEach_iff_unbroken haccepted.legible, fun e j j' nodes hstore hrun =>
    Tree.lineEach_iff_unbroken (Engine.legible_effective haccepted hstore hrun)⟩

namespace Sample

/-- A template with a text on two lines, in a choice. -/
def paragraph : Template :=
  template {} "paragraph" (tagged "prompty.if eval=\"a\"" ++ "x\ny" ++ tagged "prompty.else" ++
    tagged "prompty.var name=\"b\" default=\"\n\" /" ++ tagged "/prompty.if")

/-- Its outline has one line for each node, whatever the text and the default. -/
theorem lineEach_paragraph :
    ∃ nodes j', (({} : Engine).effective paragraph).run {} = (.ok nodes, j') ∧
      paragraph.tree.LineEach ∧ (Tree.mk paragraph.name nodes).LineEach := by
  obtain ⟨nodes, j', hrun, hnodes⟩ := run_ok (({} : Engine).effective paragraph) {}
    (fun nodes => (Tree.mk paragraph.name nodes).Unbroken) (by decide +kernel)
  have hparse : Template.parse .standard .builtin "paragraph" _ = .ok paragraph :=
    parse_template (e := {}) (by decide +kernel)
  obtain ⟨hown, heffective⟩ := Template.lineEach_iff hparse
  exact ⟨nodes, j', hrun, hown.2 (by decide +kernel),
    (heffective {} {} j' nodes Store.accepted_nil hrun).2 hnodes⟩

/-- A variable whose path has a line feed in it. -/
def broken : Template :=
  template {} "broken" (tagged "prompty.var name=\"a\nb\" /")

/-- **It is accepted, and its one node is on two lines.** -/
theorem broken_row :
    ∃ source, Template.parse .standard .builtin "broken" source = .ok broken ∧
      broken.tree.rows = ["Template \"broken\"", "Var(a\nb)"] ∧
      (lines broken.tree.outline).map String.ofList =
        ["Template \"broken\"", "  Var(a", "b)"] ∧
      ¬ broken.tree.LineEach := by
  refine ⟨_, parse_template (e := {}) (by decide +kernel), ?_⟩
  decide +kernel

end Sample

end PromptMarkup
