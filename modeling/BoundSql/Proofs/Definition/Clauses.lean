import BoundSql.Proofs.Builder.Growth
import BoundSql.Proofs.Predicate.Composition

/-! # The clauses of a definition

What a definition made of texts appends to a builder, for any builder (`on_apply`): the select list
and the table, the conditions that have a value, the order unless it is blank, and the limit
(`clauses`). Names are qualified by the builder's aliases with the definition's set over them, and
the conditions are numbered from the builder's position. -/

namespace BoundSql

open Builder Builder.Step Predicate

/-! ### Conditions as a conjunction -/

namespace Predicate.Tree

/-- Conditions as leaves. -/
def ofConditions (ps : List Predicate) : List Tree := ps.map fun p => leaf (.condition p)

theorem hasShortAliases_ofConditions {aliases : Mapping} (h : Sql.AreShort aliases)
    (ps : List Predicate) : ∀ l ∈ leavesAll (ofConditions ps), l.HasShortAliases aliases := by
  intro l _
  cases l with
  | condition p => exact Or.inr fun c _ => h.hasShortAlias c.table
  | raw s => exact trivial

theorem isText_ofConditions {ps : List Predicate} (h : ∀ p ∈ ps, p.IsText) :
    ∀ l ∈ leavesAll (ofConditions ps), l.IsText := by
  induction ps with
  | nil => intro l hl; cases hl
  | cons p ps ih =>
    have hp : ∀ l ∈ (leaf (.condition p)).leaves, l.IsText := by
      intro l hl
      obtain rfl : l = .condition p := by simpa [leaves] using hl
      exact h p (by simp)
    exact List.forall_mem_append.mpr ⟨hp, ih fun q hq => h q (by simp [hq])⟩

theorem renderAll_ofConditions (ps : List Predicate) :
    renderAll (ofConditions ps) = ps.mapM Predicate.render := by
  induction ps with
  | nil => exact List.mapM_nil.symm
  | cons p ps ih =>
    rw [List.mapM_cons, ← ih]
    rfl

/-- What is left of conditions are those that have a value. -/
theorem pruneAll_ofConditions (ps : List Predicate) :
    pruneAll (ofConditions ps) = ofConditions (ps.filter fun p => !p.value.isNull) := by
  induction ps with
  | nil => rfl
  | cons p ps ih =>
    change (leaf (.condition p)).prune.toList ++ pruneAll (ofConditions ps) = _
    rw [ih, prune, Leaf.isPresent, List.filter_cons]
    cases p.value.isNull <;> rfl

theorem valuesAll_ofConditions (ps : List Predicate) : valuesAll (ofConditions ps) =
    (ps.filter fun p => !p.value.isNull).map Predicate.value := by
  induction ps with
  | nil => rfl
  | cons p ps ih =>
    have hp : (leaf (.condition p)).values = if p.value.isNull then [] else [p.value] := by
      rw [values, leaves, List.filterMap_cons, Leaf.value?]
      cases p.value.isNull <;> rfl
    change valuesAll (leaf (.condition p) :: ofConditions ps) = _
    rw [valuesAll_cons, ih, hp, List.filter_cons]
    cases p.value.isNull <;> rfl

/-- Conditions that have values are numbered one after another. -/
theorem texts_ofConditions (aliases : Mapping) {ps : List Predicate}
    (h : ∀ p ∈ ps, p.value.isNull = false) : ∀ n : Nat, texts aliases n (ofConditions ps) =
      (ps.zipIdx (n + 1)).map fun p => p.1.text aliases p.2 := by
  induction ps with
  | nil => intro n; rfl
  | cons p ps ih =>
    intro n
    have hp : (leaf (.condition p)).values.length = 1 := by
      simp [values, leaves, Leaf.value?, h p (by simp)]
    change texts aliases n (leaf (.condition p) :: ofConditions ps) = _
    rw [texts, hp, ih (fun q hq => h q (by simp [hq])), List.zipIdx_cons]
    rfl

end Predicate.Tree

open Predicate.Tree

namespace Definition

variable (d : Definition)

/-- The tables with aliases, the columns, the computed columns and the columns of the conditions are
texts, and the aliases can be written, as texts can. -/
structure IsText : Prop where
  aliases : ∀ e ∈ d.aliases, e.1.isText = true
  short : Sql.AreShort d.aliases
  projection : ∀ c ∈ d.projection, c.IsText
  derived : ∀ i ∈ d.derived, i.IsText
  conditions : ∀ p ∈ d.conditions, p.IsText

/-- The entries of the select list. -/
def items : List Item := d.projection.map .plain ++ d.derived

/-- The conditions that have a value. -/
def present : List Predicate := d.conditions.filter fun p => !p.value.isNull

/-- The values of the conditions, in order. -/
def values : List Value := d.present.map Predicate.value

/-- The predicates of the conditions, if `n` positions have been used up before them. -/
def predicates (aliases : Mapping) (n : Nat) : List String :=
  (d.present.zipIdx (n + 1)).map fun p => p.1.text aliases p.2

/-- The condition clause; nothing if no condition has a value. -/
def whereParts (aliases : Mapping) (n : Nat) : List Value :=
  if d.present.isEmpty then []
  else [.text " where ", .text (" and ".intercalate (d.predicates aliases n))]

/-- The order clause; nothing if the order is missing or blank. -/
def orderParts : List Value :=
  match d.sortBy with
  | none => []
  | some s => if Text.isBlank s then [] else [.text " order by ", .text s, .text " DESC "]

/-- The limit clause. -/
def limitParts : List Value := if d.limit then [.text " limit 1"] else []

/-- The clauses after the select list and the table. -/
def clauses (aliases : Mapping) (n : Nat) : List Value :=
  d.whereParts aliases n ++ (d.orderParts ++ d.limitParts)

section
variable {d}

theorem IsText.items (h : d.IsText) {aliases : Mapping} (hs : Sql.AreShort aliases) :
    ∀ i ∈ d.items, i.IsRenderable aliases := by
  intro i hi
  rcases List.mem_append.mp hi with hi | hi
  · obtain ⟨c, hc, rfl⟩ := List.mem_map.mp hi
    exact Item.IsText.isRenderable (i := .plain c) (h.projection c hc) hs
  · exact (h.derived i hi).isRenderable hs

theorem isText_orderParts : ∀ v ∈ d.orderParts, v.isText = true := by
  rw [orderParts]
  rcases d.sortBy with _ | s
  · simp
  · dsimp only
    split <;> simp [Value.isText]

theorem isText_limitParts : ∀ v ∈ d.limitParts, v.isText = true := by
  rw [limitParts]
  split <;> simp [Value.isText]

theorem isText_clauses {aliases : Mapping} {n : Nat} : ∀ v ∈ d.clauses aliases n, v.isText = true := by
  have hwhere : ∀ v ∈ d.whereParts aliases n, v.isText = true := by
    rw [whereParts]
    split <;> simp [Value.isText]
  exact List.forall_mem_append.mpr
    ⟨hwhere, List.forall_mem_append.mpr ⟨isText_orderParts, isText_limitParts⟩⟩

end

/-- What a definition does after the select list. -/
def appendClauses : Step Unit := do
  let predicates ← d.conditions.mapM Predicate.render
  where_ (.text (← Builder.and_ [.list predicates]))
  Builder.sortBy ((d.sortBy.map Value.text).getD .null)
  if d.limit then Builder.limit

/-! ### One clause after another -/

theorem on_setAliases : ∀ {es : Mapping}, (∀ e ∈ es, e.1.isKey = true) → ∀ b : Builder,
    on (es.forM fun e => setAlias e.1 e.2) b = (.ok ⟨⟩, { b with aliases := b.aliases.update es })
  | [], _, _ => rfl
  | e :: es, h, b => by
    have hkey : e.1.asKey = .ok e.1 := Value.asKey_of_isKey (h e (by simp))
    change on (setAlias e.1 e.2 >>= fun _ => es.forM fun e => setAlias e.1 e.2) b = _
    rw [on_bind_ok (on_setAlias hkey e.2 b),
      on_setAliases (fun e' he => h e' (List.mem_cons_of_mem e he))]
    rfl

/-- The select list and the table are appended if the entries can be rendered and joined. -/
theorem on_select_cases (p derived : List Item) (table : String) (b : Builder) :
    (∃ list, Sql.selectText (p ++ derived) (.text table) b.aliases =
          .ok ("select " ++ list ++ " from " ++ Sql.tableText b.aliases (.text table)) ∧
        on (select p (.text table) derived) b = (.ok ⟨⟩, b.addParts [.text "select ", .text list,
          .text " from ", .text (Sql.tableText b.aliases (.text table))])) ∨
      ∃ e b', Sql.selectText (p ++ derived) (.text table) b.aliases = .error e ∧
        b.IsLonger b' ∧ on (select p (.text table) derived) b = (.error e, b') := by
  unfold Sql.selectText select
  rw [on_bind_ok (on_get b)]
  dsimp only
  rcases (p ++ derived).mapM fun i => Sql.selectItem i b.aliases with e | selection
  · exact Or.inr ⟨e, b, rfl, .refl b, on_bind_error (on_check (.error e) b)⟩
  · rw [on_bind_ok (on_check (.ok selection) b), on_bind_ok (on_append _ b)]
    change (∃ list, (joinTexts ", " selection >>= fun list => _) = _ ∧ _) ∨
      ∃ e b', (joinTexts ", " selection >>= fun list => _) = _ ∧ _ ∧ _
    rcases joinTexts ", " selection with e | list
    · exact Or.inr ⟨e, _, rfl, ⟨_, rfl⟩, on_bind_error (on_check (.error e) _)⟩
    · rw [on_bind_ok (on_check (.ok list) _), on_bind_ok (on_append _ _),
        on_bind_ok (on_append _ _), ← addParts_append, ← addParts_append]
      rcases htable : Sql.tableReference (.text table) b.aliases with e | t
      · exact Or.inr ⟨e, _, rfl, ⟨_, rfl⟩, on_bind_error (on_check (.error e) _)⟩
      · obtain rfl := Sql.eq_of_tableReference htable
        refine Or.inl ⟨list, rfl, ?_⟩
        rw [on_bind_ok (on_check (.ok _) _), on_append, ← addParts_append]
        rfl

/-- The select list of entries that can be rendered, and the table. -/
theorem selectText_of_isRenderable {items : List Item} {aliases : Mapping}
    (h : ∀ i ∈ items, i.IsRenderable aliases) {table : String}
    (halias : Sql.HasShortAlias aliases (.text table)) :
    Sql.selectText items (.text table) aliases =
      .ok ("select " ++ ", ".intercalate (items.map (Item.text aliases)) ++ " from " ++
        Sql.tableText aliases (.text table)) := by
  have htable : Sql.tableReference (.text table) aliases =
      .ok (.text (Sql.tableText aliases (.text table))) := Sql.tableReference_of_isText rfl halias
  have htexts : ∀ v ∈ items.map fun i => Value.text (i.text aliases), v.isText = true := by
    intro v hv
    obtain ⟨i, -, rfl⟩ := List.mem_map.mp hv
    rfl
  have hlist := joinTexts_of_isText htexts ", "
  rw [List.map_map] at hlist
  unfold Sql.selectText
  rw [Outcome.mapM_ok fun i hi => Item.selectItem_of_isRenderable (h i hi), htable]
  change (joinTexts ", " (items.map fun i => Value.text (i.text aliases)) >>= fun list => _) = _
  rw [hlist]
  rfl

theorem texts_conditions (aliases : Mapping) (n : Nat) :
    texts aliases n (pruneAll (ofConditions d.conditions)) = d.predicates aliases n := by
  rw [pruneAll_ofConditions]
  refine texts_ofConditions aliases (fun p hp => ?_) n
  simpa using (List.mem_filter.mp hp).2

theorem isBlank_predicates (aliases : Mapping) (n : Nat) :
    Text.isBlank (" and ".intercalate (d.predicates aliases n)) = d.present.isEmpty := by
  rcases hp : d.present.isEmpty with _ | _
  · refine isBlank_intercalate (fun hnil => ?_) fun s hs => ?_
    · rw [predicates, List.map_eq_nil_iff, List.zipIdx_eq_nil_iff] at hnil
      rw [hnil] at hp
      cases hp
    · rw [← texts_conditions] at hs
      exact isBlank_of_mem_texts_pruneAll aliases _ n s hs
  · rw [predicates, List.isEmpty_iff.mp hp]
    rfl

theorem on_where_predicates (aliases : Mapping) (n : Nat) (b : Builder) :
    on (where_ (.text (" and ".intercalate (d.predicates aliases n)))) b =
      (.ok ⟨⟩, b.addParts (d.whereParts aliases n)) := by
  have hblank : (Value.text (" and ".intercalate (d.predicates aliases n))).isBlank =
      .ok d.present.isEmpty := congrArg Except.ok (d.isBlank_predicates aliases n)
  rw [on_where hblank, whereParts]
  cases d.present.isEmpty
  · rfl
  · exact congrArg _ (addParts_nil b).symm

theorem on_orderParts (b : Builder) :
    on (Builder.sortBy ((d.sortBy.map Value.text).getD .null)) b =
      (.ok ⟨⟩, b.addParts d.orderParts) := by
  rw [orderParts]
  rcases d.sortBy with _ | s
  · have hnull : Value.null.isBlank = .ok true := rfl
    change on (Builder.sortBy .null) b = _
    rw [on_sortBy hnull, if_pos rfl, addParts_nil]
  · change on (Builder.sortBy (.text s)) b = (_, b.addParts (if Text.isBlank s then [] else _))
    rw [on_sortBy rfl]
    cases Text.isBlank s
    · rfl
    · exact congrArg _ (addParts_nil b).symm

theorem on_limitParts (b : Builder) : on (if d.limit then Builder.limit else pure ⟨⟩) b =
    (.ok ⟨⟩, b.addParts d.limitParts) := by
  rw [limitParts]
  cases d.limit
  · exact congrArg _ (addParts_nil b).symm
  · exact on_limit b

/-- The clauses after the select list: the values are bound, then the clauses are appended. -/
theorem on_clauses (h : ∀ p ∈ d.conditions, p.IsText) {b : Builder} (hs : Sql.AreShort b.aliases) :
    on d.appendClauses b =
      (.ok ⟨⟩, (b.bindAll d.values).addParts (d.clauses b.aliases b.position)) := by
  have hrender : on (d.conditions.mapM Predicate.render) b =
      (.ok (results b.aliases b.position (ofConditions d.conditions)), b.bindAll d.values) := by
    rw [← renderAll_ofConditions,
      on_renderAll (isText_ofConditions h) (hasShortAliases_ofConditions hs d.conditions),
      valuesAll_ofConditions]
    rfl
  have hand := on_and .asList b.aliases b.position (ofConditions d.conditions) (b.bindAll d.values)
  rw [texts_conditions, Passing.arguments] at hand
  unfold appendClauses
  rw [on_bind_ok hrender, on_bind_ok hand, on_bind_ok (on_where_predicates ..),
    on_bind_ok (on_orderParts ..)]
  refine (on_limitParts ..).trans ?_
  rw [← addParts_append, ← addParts_append]
  rfl

/-- **A definition made of texts** appends its clauses to any builder whose aliases can be written, and
binds the values of its conditions. -/
theorem on_apply (h : d.IsText) {b : Builder} (hs : Sql.AreShort b.aliases) : ∃ list,
    Sql.selectText d.items (.text d.table) (b.aliases.update d.aliases) =
      .ok ("select " ++ list ++ " from " ++
        Sql.tableText (b.aliases.update d.aliases) (.text d.table)) ∧
    on d.apply b = (.ok ⟨⟩, (({ b with aliases := b.aliases.update d.aliases } : Builder).addParts
      ([.text "select ", .text list, .text " from ",
        .text (Sql.tableText (b.aliases.update d.aliases) (.text d.table))] ++
        d.clauses (b.aliases.update d.aliases) b.position)).bindAll d.values) := by
  have haliases : ∀ e ∈ d.aliases, e.1.isKey = true := fun e he =>
    Value.isKey_of_isText (h.aliases e he)
  have hshort : Sql.AreShort (b.aliases.update d.aliases) := h.short.update hs
  obtain ⟨list, hlist, hselect⟩ | ⟨e, -, he, -, -⟩ := on_select_cases (d.projection.map .plain)
    d.derived d.table { b with aliases := b.aliases.update d.aliases }
  · refine ⟨list, hlist, ?_⟩
    unfold apply
    rw [on_bind_ok (on_setAliases haliases b), on_bind_ok hselect]
    refine (d.on_clauses h.conditions hshort).trans ?_
    rw [addParts_append]
    rfl
  · have hrender := selectText_of_isRenderable (h.items hshort) (hshort.hasShortAlias (.text d.table))
    cases he.symm.trans hrender

/-! ### The query that is built -/

theorem build_of_on {b : Builder} (h : on d.apply Builder.empty = (.ok ⟨⟩, b)) :
    d.build = .ok b := by
  unfold on at h
  rw [build, h]
  rfl

theorem build_of_on_error {b : Builder} {e : Fault} (h : on d.apply Builder.empty = (.error e, b)) :
    d.build = .error e := by
  unfold on at h
  rw [build, h]
  rfl

end Definition

end BoundSql
