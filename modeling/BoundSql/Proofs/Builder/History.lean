import BoundSql.Program
import BoundSql.Proofs.Definition.Application

/-! # The history of a builder

Whatever is done to a builder, successfully or not, its pieces of text stay and more may follow, and
the values that are bound on the way take the next positions. A use of a builder (`Use`) is a call or
a definition that is applied; which values it binds is said without running it (`Use.bound`), for
uses that fail half way as well.

* A use sets aliases, appends pieces and binds the values that `Use.bound` lists, and does nothing
  else (`Use.does_after`). Only the uses that write clauses append anything.
* The positions of a builder that has been reached in any way are `1, 2, …` in the order of binding
  (`Reached.eq_bindAll`), and every further use continues what is there (`append_only_history`). -/

namespace BoundSql

open Builder Builder.Step

/-- Anything that is done to a builder: a call, or a definition that is applied to it. -/
inductive Use where
  | call (o : Operation)
  | apply (d : Definition)

namespace Use

/-- The builder after a use, whether or not that succeeded. -/
def after : Use → Builder → Builder
  | call o, b => (on o.run b).2
  | apply d, b => (on d.apply b).2

/-- The values that a use binds, in order, if these are the aliases. -/
def bound (aliases : Mapping) : Use → List Value
  | call (.addParam v) => [v]
  | call (.eq c v) => (Predicate.eq c v).bound aliases
  | call (.between v first last) => (Predicate.between first last v).bound aliases
  | call (.apply v) =>
    match Definition.read v with
    | .ok d => d.bound aliases
    | .error _ => []
  | call _ => []
  | apply d => d.bound aliases

/-- The uses that write clauses. -/
def isClause : Use → Bool
  | call (.select ..) | call (.where_ _) | call (.sortBy _) | call .limit | call (.apply _)
  | apply _ => true
  | call _ => false

/-! ### What a use does -/

/-- The second builder is the first one with other aliases, more pieces of text, if these are allowed,
and these values bound. -/
def Does (clause : Bool) (vs : List Value) (b b' : Builder) : Prop :=
  ∃ aliases pieces, b' = (({ b with aliases } : Builder).addParts pieces).bindAll vs ∧
    (clause = false → pieces = [])

theorem Does.nothing (clause : Bool) (b : Builder) : Does clause [] b b := by
  refine ⟨b.aliases, [], ?_, fun _ => rfl⟩
  rw [bindAll_nil, addParts_nil]

theorem Does.appends {b b' : Builder} (h : b.IsLonger b') : Does true [] b b' := by
  obtain ⟨pieces, rfl⟩ := h
  exact ⟨b.aliases, pieces, (bindAll_nil _).symm, fun h => by cases h⟩

theorem Does.binds (clause : Bool) (b : Builder) (vs : List Value) :
    Does clause vs b (b.bindAll vs) := by
  refine ⟨b.aliases, [], ?_, fun _ => rfl⟩
  rw [addParts_nil]

/-- What a step returns does not matter. -/
theorem Does.map {α β : Type} {clause : Bool} {vs : List Value} {b : Builder} {x : Step α}
    (h : Does clause vs b (on x b).2) (f : α → β) :
    Does clause vs b (on (x >>= fun a => pure (f a)) b).2 := by
  have hsame : (on (x >>= fun a => pure (f a)) b).2 = (on x b).2 :=
    on_bind_snd (r := fun _ b' => b' = (on x b).2) rfl fun _ _ => rfl
  rw [hsame]
  exact h

theorem Does.reads {α : Type} {clause : Bool} {x : Step α} (hx : x.Reads) (b : Builder) :
    Does clause [] b (on x b).2 := by
  rw [hx b]
  exact .nothing clause b

theorem does_setAlias (table shortName : Value) (b : Builder) :
    Does false [] b (on (setAlias table shortName) b).2 := by
  rcases hkey : table.asKey with e | key
  · have hon : on (setAlias table shortName) b = (.error e, b) := by
      unfold setAlias
      exact on_bind_error (congrArg (·, b) hkey)
    rw [hon]
    exact .nothing false b
  · rw [on_setAlias hkey]
    refine ⟨b.aliases.set key shortName, [], ?_, fun _ => rfl⟩
    rw [bindAll_nil, addParts_nil]

theorem does_predicate (p : Predicate) (b : Builder) :
    Does false (p.bound b.aliases) b (on p.render b).2 := by
  rcases p.on_render_cases b with ⟨-, v, -, hon⟩ | ⟨-, f, -, hon⟩ <;> rw [hon]
  · exact .binds false b (p.bound b.aliases)
  · exact .binds false b (p.bound b.aliases)

theorem does_apply (d : Definition) (b : Builder) :
    Does true (d.bound b.aliases) b (on d.apply b).2 := by
  rcases d.on_apply_cases b with ⟨-, pieces, -, hon⟩ | ⟨-, f, -, aliases, pieces, hon⟩ <;> rw [hon]
  · exact ⟨_, pieces, rfl, fun h => by cases h⟩
  · exact ⟨aliases, pieces, rfl, fun h => by cases h⟩

/-- A definition that cannot be read does nothing. -/
theorem does_applyValue (v : Value) (b : Builder) : Does true ((call (.apply v)).bound b.aliases) b
    (on (check (Definition.read v) >>= Definition.apply) b).2 := by
  rw [bound]
  rcases Definition.read v with e | d
  · rw [on_bind_error (on_check (.error e) b)]
    exact .nothing true b
  · rw [on_bind_ok (on_check (.ok d) b)]
    exact does_apply d b

/-- **What a use does**, whether or not it succeeds. -/
theorem does_after (u : Use) (b : Builder) : Does u.isClause (u.bound b.aliases) b (u.after b) := by
  cases u with
  | apply d => exact does_apply d b
  | call o =>
    cases o with
    | setAlias t a => exact (does_setAlias t a b).map _
    | select p t d => exact (Does.appends (Appends.select p t d b)).map _
    | where_ c => exact (Does.appends (Appends.where_ c b)).map _
    | sortBy o => exact (Does.appends (Appends.sortBy o b)).map _
    | limit => exact (Does.appends (Appends.append _ b)).map _
    | addParam v => exact (Does.binds false b [v]).map _
    | parentheses e => exact (Does.reads (Reads.parentheses e) b).map _
    | column c => exact (Does.reads (Reads.column c) b).map _
    | eq c v => exact (does_predicate (.eq c v) b).map _
    | between v first last => exact (does_predicate (.between first last v) b).map _
    | and_ vs => exact (Does.reads (Reads.check _) b).map _
    | orderedParams => exact .nothing false b
    | literal => exact .reads (Reads.get_bind fun b => .bind (.check _) fun _ => .pure _) b
    | setParamsCopy k v =>
      exact .reads (.bind (.check _) fun key => Reads.get_bind fun b => .pure _) b
    | apply v => exact (does_applyValue v b).map _

end Use

/-! ### All that has been done -/

/-- The builder can be reached by uses that have bound these values, in this order. -/
inductive Reached : List Value → Builder → Prop
  | empty : Reached [] Builder.empty
  | use {vs : List Value} {b : Builder} (h : Reached vs b) (u : Use) :
      Reached (vs ++ u.bound b.aliases) (u.after b)

/-- The positions are `1, 2, …` in the order of binding, and these values stand there. -/
structure Builder.IsDense (b : Builder) (vs : List Value) : Prop where
  positions : b.params.map Prod.fst = List.range' 1 b.position
  values : b.orderedParams = vs

/-- The second builder continues the first one: what was bound stays where it was, more values may
follow at the next positions, and text may be added at the end by what writes clauses. -/
structure Builder.Continues (clause : Bool) (vs : List Value) (b b' : Builder) : Prop where
  position : b'.position = b.position + vs.length
  params : b'.params = b.params ++ (List.range' (b.position + 1) vs.length).zip vs
  parts : b.parts <+: b'.parts
  noClause : clause = false → b'.parts = b.parts
  sql : ∀ s s', b.sql = .ok s → b'.sql = .ok s' → ∃ t, s' = s ++ t

theorem Use.Does.continues {clause : Bool} {vs : List Value} {b b' : Builder}
    (h : Use.Does clause vs b b') : b.Continues clause vs b' := by
  obtain ⟨aliases, pieces, rfl, hclause⟩ := h
  refine ⟨rfl, rfl, List.prefix_append b.parts pieces, fun h => ?_, fun s s' hs hs' => ?_⟩
  · change b.parts ++ pieces = b.parts
    rw [hclause h, List.append_nil]
  · have hparts := joinTexts_of_isText (isText_of_joinTexts hs) ""
    have hmore := joinTexts_of_isText (isText_of_joinTexts hs') ""
    refine ⟨textOfParts pieces, ?_⟩
    calc s' = textOfParts (b.parts ++ pieces) := Except.ok.inj (hs'.symm.trans hmore)
      _ = textOfParts b.parts ++ textOfParts pieces := textOfParts_append b.parts pieces
      _ = s ++ textOfParts pieces := by
        rw [Except.ok.inj (hs.symm.trans hparts)]
        rfl

namespace Reached

variable {vs : List Value} {b : Builder}

/-- A builder that has been reached has the positions and values of an empty one to which the values
have been bound at once. -/
theorem eq_bindAll (h : Reached vs b) : b.position = (Builder.empty.bindAll vs).position ∧
    b.params = (Builder.empty.bindAll vs).params := by
  induction h with
  | empty => exact ⟨rfl, rfl⟩
  | @use vs b h u ih =>
    obtain ⟨hposition, hparams⟩ := ih
    have hcontinues := (u.does_after b).continues
    rw [hcontinues.position, hcontinues.params, bindAll_append, hposition, hparams]
    exact ⟨rfl, rfl⟩

theorem isDense (h : Reached vs b) : b.IsDense vs := by
  obtain ⟨hposition, hparams⟩ := h.eq_bindAll
  have hlen : (List.range' 1 vs.length).length = vs.length := List.length_range'
  constructor
  · rw [hposition, hparams]
    change ((List.range' (0 + 1) vs.length).zip vs).map Prod.fst = List.range' 1 (0 + vs.length)
    rw [Nat.zero_add, Nat.zero_add, List.map_fst_zip hlen.le]
  · unfold orderedParams
    rw [hparams]
    exact orderedParams_bindAll rfl vs

/-- **The history of a builder is append-only.** A builder that has been reached has the positions
`1, 2, …` in the order of binding, with all values that were ever bound. Whatever is done next,
successfully or not, continues it: the values stay at their positions, those bound now follow, and the
pieces of text are the beginning of those afterwards. Only what writes clauses adds to them; an alias
that is registered or replaced changes no text. -/
theorem append_only_history (h : Reached vs b) : b.IsDense vs ∧
    (∀ u : Use, (u.after b).IsDense (vs ++ u.bound b.aliases) ∧
      b.Continues u.isClause (u.bound b.aliases) (u.after b)) ∧
    ∀ table shortName, ((Use.call (.setAlias table shortName)).after b).sql = b.sql := by
  refine ⟨h.isDense, fun u => ⟨(h.use u).isDense, (u.does_after b).continues⟩, fun t a => ?_⟩
  have hparts := ((Use.call (.setAlias t a)).does_after b).continues.noClause rfl
  unfold Builder.sql
  rw [hparts]

/-- A range that fails after it has taken up a position: a list cannot be the table of a column. -/
def failingRange : Use :=
  .call (.between (.int 5) ⟨.list [], .text "since", false⟩ ⟨.text "orders", .text "until", false⟩)

/-- A query to which null has been bound before a range failed. -/
def afterFailure : Builder :=
  let select := .call (.select [.plain ⟨.text "orders", .text "id", false⟩] (.text "orders") [])
  failingRange.after ((Use.call (.addParam .null)).after (Use.after select Builder.empty))

theorem append_only_history_afterFailure : Reached [.null, .int 5] afterFailure ∧
    afterFailure.IsDense [.null, .int 5] ∧ afterFailure.sql = .ok "select id from orders" ∧
    ((Use.call (.setAlias (.text "orders") (.text "o"))).after afterFailure).sql =
      .ok "select id from orders" ∧
    ((Use.call (.eq ⟨.text "orders", .text "id", false⟩ (.int 7))).after afterFailure).IsDense
      [.null, .int 5, .int 7] := by
  have h : Reached [.null, .int 5] afterFailure :=
    ((Reached.empty.use (.call (.select [.plain ⟨.text "orders", .text "id", false⟩]
      (.text "orders") []))).use (.call (.addParam .null))).use failingRange
  have hsql : afterFailure.sql = .ok "select id from orders" := rfl
  obtain ⟨hdense, huse, halias⟩ := append_only_history h
  exact ⟨h, hdense, hsql, (halias _ _).trans hsql, (huse _).1⟩

end Reached

/-- The builders that a program leaves, step after step, have been reached. -/
theorem Program.reached_of_mem_runFrom : ∀ (p : Program) {vs : List Value} {b : Builder}
    (returns : List Value), Reached vs b →
      ∀ a ∈ runFrom b returns p, ∃ ws, Reached ws a.builder
  | [], _, _, _, _, a, ha => by cases ha
  | s :: rest, vs, b, returns, h, a, ha => by
    obtain ⟨ws, hws⟩ : ∃ ws, Reached ws (step returns s b).builder := by
      unfold step
      split
      · exact ⟨vs, h⟩
      · next op _ => exact ⟨_, h.use (.call op)⟩
    rcases List.mem_cons.mp ha with rfl | ha
    · exact ⟨ws, hws⟩
    · exact reached_of_mem_runFrom rest _ hws a ha

end BoundSql
