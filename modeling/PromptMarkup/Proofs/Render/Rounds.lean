import PromptMarkup.Proofs.Engine.Load
import PromptMarkup.Proofs.Render.Scopes
import PromptMarkup.Proofs.Text.Octets
/-!
# Render — the rounds of a loop

A loop renders its body once for each element of what it runs over, as far as
its limit allows, and each time in one new scope (`roundContext_eq`). Its rounds
come one after another (`RendersRounds`): the text of a loop that succeeds is
that of its rounds, and one that fails does so in the first round that does
(`Engine.loop_renders_rounds`). Afterwards all names are what they were before,
on every way out.
-/

namespace PromptMarkup

/-- What a loop runs over: elements, each with its index in a list or with its
key in a record. What is not there, or null, has none, and values of other kinds
cannot be run over. -/
def Value.elements? : Option Value → Option (List (Value × Value))
  | none | some .null => some []
  | some (.list items) => some (items.mapIdx fun i item => (.ofNat i, item))
  | some (.record fields) => some (fields.map fun (key, item) => (.text key, item))
  | some _ => none

/-- The elements that a loop has a round for: from the first on, as many as its
limit allows. -/
def LoopHead.allowed (head : LoopHead) (elements : List (Value × Value)) :
    List (Value × Value) :=
  elements.take (head.limit.getD elements.length)

theorem LoopHead.length_allowed (head : LoopHead) (elements : List (Value × Value)) :
    (head.allowed elements).length =
      match head.limit with
      | some limit => min limit elements.length
      | none => elements.length := by
  rw [allowed, List.length_take]
  cases head.limit with
  | none => exact Nat.min_self _
  | some limit => rfl

namespace Rendered

/-- Rendered texts one after another. -/
def joined (parts : List Rendered) : Rendered :=
  parts.foldr append nothing

theorem text_joined (parts : List Rendered) :
    (joined parts).text = String.join (parts.map Rendered.text) := by
  induction parts with
  | nil => rfl
  | cons first rest ih =>
    rw [List.map_cons, String.join_cons, ← ih]
    rfl

end Rendered

namespace Engine

variable {e : Engine} {ctx : Context} {head : LoopHead} {body : Context → Run Rendered}
  {rounds : List (Value × Value)} {j j' : Journal}

/-! ## What a loop runs over -/

/-- Elements of a list are numbered alike whether some of them are left out
before or after it. -/
theorem mapIdx_take (items : List Value) (n : Nat) :
    ((items.take n).zipIdx.map fun (item, i) => (Value.ofNat i, item)) =
      (items.mapIdx fun i item => (Value.ofNat i, item)).take n :=
  List.ext_getElem (by simp) fun i h h' => by simp

/-- **A loop has a round for each element** that its limit allows. -/
theorem rounds?_of_elements {head : LoopHead} {found : Option Value}
    {elements : List (Value × Value)} (h : Value.elements? found = some elements) :
    rounds? head.limit found = .ok (head.allowed elements) := by
  cases found with
  | none =>
    cases h
    rw [LoopHead.allowed, List.take_nil]
    rfl
  | some value =>
    cases value with
    | null =>
      cases h
      rw [LoopHead.allowed, List.take_nil]
      rfl
    | list items =>
      cases h
      rw [LoopHead.allowed, List.length_mapIdx, ← mapIdx_take]
      cases hlimit : head.limit with
      | none => simp only [rounds?, Option.getD_none, List.take_length]
      | some n => rfl
    | record fields =>
      cases h
      rw [LoopHead.allowed, List.length_map, ← List.map_take]
      cases hlimit : head.limit with
      | none => simp only [rounds?, Option.getD_none, List.take_length]
      | some n => rfl
    | _ => cases h

/-- The rounds over a record are in the order of the bytes of their keys. -/
theorem allowed_ascending {head : LoopHead} {fields : Keyed Value}
    {elements : List (Value × Value)} (hfields : fields.Ordered)
    (h : Value.elements? (some (.record fields)) = some elements) :
    (head.allowed elements).Pairwise fun a b => ∃ key key', a.1 = .text key ∧ b.1 = .text key' ∧
      key.toUTF8.data.toList < key'.toUTF8.data.toList := by
  cases h
  refine List.Pairwise.sublist (List.take_sublist _ _) (List.pairwise_map.2 (hfields.imp ?_))
  exact fun hlt => ⟨_, _, rfl, rfl, Text.lt_iff_bytes_lt.1 hlt⟩

/-- What has no elements cannot be run over. -/
theorem rounds?_of_none {value : Value} (limit : Option Nat)
    (h : Value.elements? (some value) = none) :
    rounds? limit (some value) = .error value.kindText := by
  cases value with
  | null | list items | record fields => cases h
  | _ => rfl

/-- **A round has one new scope**, in which the element is bound and then, if
the loop names it, the index or key: where the two have one name it is that of
the index. -/
theorem roundContext_eq (ctx : Context) (head : LoopHead) (round : Value × Value) :
    ∃ scope, roundContext ctx head round = { ctx with scopes := scope :: ctx.scopes } ∧
      ∀ name, Keyed.find? scope name =
        if head.index = some name then some round.1
        else if name = head.item then some round.2
        else none := by
  rw [roundContext]
  cases hindex : head.index with
  | none =>
    refine ⟨_, rfl, fun name => ?_⟩
    rw [Keyed.find?_insert]
    simp [Keyed.find?]
  | some index =>
    refine ⟨_, rfl, fun name => ?_⟩
    rw [Keyed.find?_insert, Keyed.find?_insert]
    simp [Keyed.find?, eq_comm]

/-! ## One round after another -/

/-- Rounds are rendered to their end, each in its own scope and from what the
one before it left behind. -/
inductive RendersRounds (body : Context → Run Rendered) (ctx : Context) (head : LoopHead) :
    List (Value × Value) → Journal → List Rendered → Journal → Prop
  | done {j : Journal} : RendersRounds body ctx head [] j [] j
  | round {round : Value × Value} {rest : List (Value × Value)} {r : Rendered}
      {outputs : List Rendered} {j j₁ j' : Journal}
      (hround : (body (roundContext ctx head round)).run j = (.ok r, j₁))
      (hrest : RendersRounds body ctx head rest j₁ outputs j') :
      RendersRounds body ctx head (round :: rest) j (r :: outputs) j'

theorem RendersRounds.length_eq {outputs : List Rendered}
    (h : RendersRounds body ctx head rounds j outputs j') : outputs.length = rounds.length := by
  induction h with
  | done => rfl
  | round _ _ ih => rw [List.length_cons, List.length_cons, ih]

/-- A loop succeeds where all its rounds do, and has their texts. -/
theorem renderRounds_ok_iff {r : Rendered} :
    (renderRounds body ctx head rounds).run j = (.ok r, j') ↔
      ∃ outputs, RendersRounds body ctx head rounds j outputs j' ∧ r = .joined outputs := by
  induction rounds generalizing j j' r with
  | nil =>
    rw [renderRounds, Run.pure_eq_ok_iff]
    constructor
    · rintro ⟨rfl, rfl⟩
      exact ⟨[], .done, rfl⟩
    · rintro ⟨outputs, hdone, rfl⟩
      cases hdone
      exact ⟨rfl, rfl⟩
  | cons round rest ih =>
    simp only [renderRounds, Run.bind_eq_ok_iff, Run.pure_eq_ok_iff, ih]
    constructor
    · rintro ⟨first, j₁, hround, more, j₂, ⟨outputs, hrest, rfl⟩, rfl, rfl⟩
      exact ⟨first :: outputs, .round hround hrest, rfl⟩
    · rintro ⟨_, hrounds, rfl⟩
      cases hrounds with
      | round hround hrest => exact ⟨_, _, hround, _, _, ⟨_, hrest, rfl⟩, rfl, rfl⟩

/-- It fails where a round does after those before it, with that round's
failure. -/
theorem renderRounds_error_iff {failure : Failure} :
    (renderRounds body ctx head rounds).run j = (.error failure, j') ↔
      ∃ before round after outputs j₁, rounds = before ++ round :: after ∧
        RendersRounds body ctx head before j outputs j₁ ∧
        (body (roundContext ctx head round)).run j₁ = (.error failure, j') := by
  induction rounds generalizing j with
  | nil =>
    constructor
    · exact fun h => absurd h Run.pure_ne_error
    · rintro ⟨before, round, after, outputs, j₁, hrounds, -, -⟩
      exact absurd hrounds (by simp)
  | cons first rest ih =>
    simp only [renderRounds, Run.bind_eq_error_iff, Run.pure_ne_error, and_false, exists_false,
      or_false, ih]
    constructor
    · rintro (hfails | ⟨r, j₁, hround, before, round, after, outputs, j₂, rfl, hbefore, hfails⟩)
      · exact ⟨[], first, rest, [], j, rfl, .done, hfails⟩
      · exact ⟨first :: before, round, after, r :: outputs, j₂, rfl, .round hround hbefore, hfails⟩
    · rintro ⟨before, round, after, outputs, j₁, hrounds, hbefore, hfails⟩
      cases hbefore with
      | done =>
        cases hrounds
        exact .inl hfails
      | round hround hrest =>
        cases hrounds
        exact .inr ⟨_, _, hround, _, round, after, _, j₁, rfl, hrest, hfails⟩

/-- **A loop renders the elements its limit allows**, in their order and each in
one new scope, and has the texts of these rounds one after another; the first
round that fails ends it. What cannot be run over is a fault of the loop itself,
which comes to no round. Where a single context is changed for every round it is
left behind as it was found, so all names are what they were before, on every way
out, and a turn is open if one was. -/
theorem loop_renders_rounds (e : Engine) (depth : Nat) (place : Place) (ctx : Context)
    (info : NodeInfo) (head : LoopHead) (nodes : List Node) (j : Journal) :
    let body := fun inner => e.renderAll (e.enterAt depth) place inner nodes
    let loop := e.renderNode (e.enterAt depth) place ctx (.loop info head nodes)
    let page : Page := ⟨place.template, place.config⟩
    let walked := (e.walkNode (e.walkInto depth) page (.loop info head nodes)).run
      (⟨ctx, place.inTurn⟩, j)
    -- where there are elements
    (∀ elements, Value.elements? (ctx.lookup? head.source) = some elements →
      ((head.allowed elements).length =
        match head.limit with
        | some limit => min limit elements.length
        | none => elements.length) ∧
      (∀ fields : Keyed Value, ctx.lookup? head.source = some (.record fields) → fields.Ordered →
        (head.allowed elements).Pairwise fun a b =>
          ∃ key key', a.1 = .text key ∧ b.1 = .text key' ∧
            key.toUTF8.data.toList < key'.toUTF8.data.toList) ∧
      (∀ r j', loop.run j = (.ok r, j') ↔
        ∃ outputs, RendersRounds body ctx head (head.allowed elements) j outputs j' ∧
          outputs.length = (head.allowed elements).length ∧ r = .joined outputs ∧
          r.text = String.join (outputs.map Rendered.text)) ∧
      (∀ failure j', loop.run j = (.error failure, j') ↔
        ∃ before round after outputs j₁, head.allowed elements = before ++ round :: after ∧
          RendersRounds body ctx head before j outputs j₁ ∧
          (body (roundContext ctx head round)).run j₁ = (.error failure, j'))) ∧
    (∀ round, ∃ scope, roundContext ctx head round = { ctx with scopes := scope :: ctx.scopes } ∧
      ∀ name, Keyed.find? scope name =
        if head.index = some name then some round.1
        else if name = head.item then some round.2
        else none) ∧
    -- where there is something else
    (∀ value, ctx.lookup? head.source = some value → Value.elements? (some value) = none →
      loop = e.recover place info Tag.forTag
        (fault info (.notIterable head.source value.kindText))) ∧
    -- and in the end
    walked.1 = (loop.run j).1 ∧ walked.2.2 = (loop.run j).2 ∧
      walked.2.1.inTurn = place.inTurn ∧
      ∀ path, walked.2.1.ctx.lookup? path = ctx.lookup? path := by
  intro body loop page walked
  have hwalked : walked = ((loop.run j).1, (⟨ctx, place.inTurn⟩, (loop.run j).2)) := by
    simp only [walked, loop, walkNode_eq, Walk.run_ofRun]
    rfl
  refine ⟨fun elements helements => ?_, roundContext_eq ctx head,
    fun value hfound hnone => ?_, ?_⟩
  · have hrounds : loop = renderRounds body ctx head (head.allowed elements) := by
      simp only [loop, body, renderNode, rounds?_of_elements helements]
    rw [hrounds]
    refine ⟨head.length_allowed elements, fun fields hfound hfields => ?_, fun r j' => ?_,
      fun failure j' => renderRounds_error_iff⟩
    · exact allowed_ascending hfields (hfound ▸ helements)
    · rw [renderRounds_ok_iff]
      constructor
      · rintro ⟨outputs, hrun, rfl⟩
        exact ⟨outputs, hrun, hrun.length_eq, rfl, Rendered.text_joined outputs⟩
      · rintro ⟨outputs, hrun, -, hr, -⟩
        exact ⟨outputs, hrun, hr⟩
  · simp only [loop, renderNode, hfound, rounds?_of_none head.limit hnone]
  · rw [hwalked]
    exact ⟨rfl, rfl, rfl, fun _ => rfl⟩

end Engine

namespace Sample

/-- Groups of names, written down out of order. -/
def groups : Context where
  root := .record [("groups", .record (Keyed.ofEntries
    [("b", .list [.text "u"]), ("a", .list [.text "v", .text "w"])]))]

/-- A loop over the first group. -/
def first : LoopHead :=
  ⟨"x", some "i", "groups", some 1⟩

/-- A loop over the names of the group, which binds the same two names, and the
key behind it. -/
def register : List Node :=
  [.loop default ⟨"x", some "i", "x", none⟩ [.var default "i", .var default "x"], .var default "i"]

/-- Where they stand. -/
def desk : Place :=
  ⟨"register", none, false⟩

/-- One of the two groups has a round, that of the smaller key. The names in it
have a round each, and behind them the key is what it was. -/
theorem loop_renders_rounds_register :
    ∃ elements outputs j', Value.elements? (groups.lookup? first.source) = some elements ∧
      elements.length = 2 ∧ (first.allowed elements).length = 1 ∧
      Engine.RendersRounds (fun inner => ({} : Engine).renderAll none desk inner register)
        groups first (first.allowed elements) {} outputs j' ∧
      outputs.length = 1 ∧ String.join (outputs.map Rendered.text) = "0v1wa" ∧
      ∀ path, ((({} : Engine).walkNode none ⟨"register", none⟩ (.loop default first register)).run
        (⟨groups, false⟩, {})).2.1.ctx.lookup? path = groups.lookup? path := by
  have hgroups : ((Value.elements? (groups.lookup? first.source)).any
      fun elements => decide (elements.length = 2)) = true := by decide +kernel
  obtain ⟨elements, hfound, hmany⟩ := (Option.any_eq_true _ _).1 hgroups
  have htwo : elements.length = 2 := of_decide_eq_true hmany
  obtain ⟨r, j', hrun, htext⟩ :=
    run_ok (({} : Engine).renderNode none desk groups (.loop default first register)) {}
      (fun r => r.text = "0v1wa") (by decide +kernel)
  obtain ⟨hrounds, -, -, -, -, -, hwalk⟩ :=
    Engine.loop_renders_rounds {} 0 desk groups default first register {}
  obtain ⟨hlength, -, hok, -⟩ := hrounds elements hfound
  obtain ⟨outputs, houtputs, hrendered, -, hjoined⟩ := (hok r j').1 hrun
  have hone : (first.allowed elements).length = 1 := by
    rw [hlength, htwo]
    rfl
  exact ⟨elements, outputs, j', hfound, htwo, hone, houtputs, hrendered.trans hone,
    hjoined.symm.trans htext, hwalk⟩

end Sample

end PromptMarkup
