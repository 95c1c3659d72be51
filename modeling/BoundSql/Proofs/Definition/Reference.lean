import BoundSql.Proofs.Definition.Clauses

/-! # The text of a definition

The SQL text of a definition is written down clause by clause (`Definition.text`), from the aliases
that hold and the number of positions that have been used up. Applying the definition to a builder,
whatever has been done to that before, appends this text and binds the values
(`apply_appends_text`). The aliases that hold are those of the definition, and for the other tables
those of the builder (`Mapping.get?_update`). -/

namespace BoundSql

open Builder Builder.Step

/-! ### Aliases set over others -/

theorem Value.eq_text_iff {v : Value} {t : String} : v.eq (.text t) = true ↔ v = .text t := by
  cases v with
  | text s => simp [eq, atomEq]
  | float x => cases x <;> simp [eq, atomEq, quotient?, infinity?]
  | decimal d => cases d <;> simp [eq, atomEq, quotient?, infinity?]
  | _ => simp [eq, atomEq, quotient?, infinity?]

namespace Mapping

theorem get?_cons (e : Value × Value) (m : Mapping) (k : Value) :
    get? (e :: m) k = if e.1.eq k then some e.2 else get? m k := by
  unfold get?
  rw [List.find?_cons]
  cases e.1.eq k <;> rfl

theorem get?_append (m m' : Mapping) (k : Value) :
    get? (m ++ m') k = (get? m k).or (get? m' k) := by
  unfold get?
  rw [List.find?_append, Option.map_or]

theorem get?_eq_none {m : Mapping} {k : Value} (h : has m k = false) : get? m k = none := by
  unfold get?
  rw [List.find?_eq_none.mpr (List.any_eq_false.mp h)]
  rfl

theorem get?_map_self {k : Value} (v : Value) : ∀ {m : Mapping}, has m k = true →
    get? (m.map fun e => if e.1.eq k then (e.1, v) else e) k = some v
  | e :: m, h => by
    rw [List.map_cons, get?_cons]
    rcases he : e.1.eq k with _ | _
    · have hm : has m k = true := by simpa [has, he] using h
      rw [if_neg Bool.false_ne_true, he]
      exact get?_map_self v hm
    · rw [if_pos rfl, he]
      rfl

theorem get?_map_other {k k' : Value} (hne : ∀ w : Value, w.eq k = true → w.eq k' = false)
    (v : Value) (m : Mapping) :
    get? (m.map fun e => if e.1.eq k then (e.1, v) else e) k' = get? m k' := by
  induction m with
  | nil => rfl
  | cons e m ih =>
    rw [List.map_cons, get?_cons, get?_cons, ih]
    rcases he : e.1.eq k with _ | _
    · rw [if_neg Bool.false_ne_true]
    · rw [if_pos rfl, hne e.1 he]
      rfl

/-- Setting the value at one text leaves the values at the others. -/
theorem get?_set_text (m : Mapping) (s t : String) (v : Value) :
    get? (set m (.text s) v) (.text t) = (get? [(.text s, v)] (.text t)).or (get? m (.text t)) := by
  have hne : s ≠ t → ∀ w : Value, w.eq (.text s) = true → w.eq (.text t) = false := by
    rintro hst w hw
    rw [Value.eq_text_iff.mp hw]
    exact Bool.eq_false_iff.mpr fun h => hst (Value.text.inj (Value.eq_text_iff.mp h))
  unfold set
  by_cases hst : s = t
  · subst hst
    have hself : get? [(.text s, v)] (.text s) = some v := by
      rw [get?_cons, if_pos (Value.eq_text_iff.mpr rfl)]
    rw [hself, Option.some_or]
    rcases hm : has m (.text s) with _ | _
    · rw [if_neg Bool.false_ne_true, get?_append, get?_eq_none hm, hself]
      rfl
    · rw [if_pos rfl, get?_map_self v hm]
  · have hother : get? [(.text s, v)] (.text t) = none := by
      rw [get?_cons, if_neg (Bool.eq_false_iff.mp (hne hst _ (Value.eq_text_iff.mpr rfl)))]
      rfl
    rw [hother, Option.none_or]
    rcases has m (.text s) with _ | _
    · rw [if_neg Bool.false_ne_true, get?_append, hother, Option.or_none]
    · rw [if_pos rfl, get?_map_other (hne hst)]

/-- **Entries set over a map.** At a text stands what the last of the entries says, and what was there
before if no entry says anything. -/
theorem get?_update (t : String) : ∀ {es : Mapping}, (∀ e ∈ es, e.1.isText = true) →
    ∀ m : Mapping, get? (update m es) (.text t) = (get? es.reverse (.text t)).or (get? m (.text t))
  | [], _, m => rfl
  | e :: es, h, m => by
    have he : e.1 = .text e.1.plain := Value.eq_text_plain (h e (by simp))
    change get? (update (set m e.1 e.2) es) (.text t) = _
    rw [get?_update t (fun e' he' => h e' (List.mem_cons_of_mem e he')), List.reverse_cons,
      get?_append, Option.or_assoc, he, get?_set_text, ← he]

end Mapping

/-! ### Clause by clause -/

namespace Definition

variable (d : Definition)

/-- The condition clause; nothing if no condition has a value. -/
def whereText (aliases : Mapping) (n : Nat) : String :=
  if d.present.isEmpty then "" else " where " ++ " and ".intercalate (d.predicates aliases n)

/-- The order clause; nothing if the order is missing or blank. -/
def orderText : String :=
  match d.sortBy with
  | none => ""
  | some s => if Text.isBlank s then "" else " order by " ++ s ++ " DESC "

/-- The limit clause. -/
def limitText : String := if d.limit then " limit 1" else ""

/-- The SQL text of a definition, if these aliases hold and `n` positions have been used up. -/
def text (aliases : Mapping) (n : Nat) : String :=
  "select " ++ ", ".intercalate (d.items.map (Item.text aliases)) ++
    " from " ++ Sql.tableText aliases (.text d.table) ++
    d.whereText aliases n ++ d.orderText ++ d.limitText

theorem textOfParts_whereParts (aliases : Mapping) (n : Nat) :
    textOfParts (d.whereParts aliases n) = d.whereText aliases n := by
  unfold whereParts whereText
  split <;> simp [Value.plain]

theorem textOfParts_orderParts : textOfParts d.orderParts = d.orderText := by
  unfold orderParts orderText
  rcases d.sortBy with _ | s
  · rfl
  · dsimp only
    split <;> simp [Value.plain, String.append_assoc]

theorem textOfParts_limitParts : textOfParts d.limitParts = d.limitText := by
  unfold limitParts limitText
  split <;> simp [Value.plain]

theorem textOfParts_clauses (aliases : Mapping) (n : Nat) : textOfParts (d.clauses aliases n) =
    d.whereText aliases n ++ (d.orderText ++ d.limitText) := by
  rw [clauses, textOfParts_append, textOfParts_append, textOfParts_whereParts,
    textOfParts_orderParts, textOfParts_limitParts]

/-! ### The text on any builder -/

/-- **A definition compiles to its text on any builder.** To a builder with the text `s` and
with aliases that can be written, as texts can, it appends its own text, in which the aliases of the
definition stand over those of the builder and the conditions are numbered from the builder's
position on; their values are bound at these positions, and what was bound before stays. -/
theorem apply_appends_text (h : d.IsText) {b : Builder} (hshort : Sql.AreShort b.aliases) {s : String}
    (hs : b.sql = .ok s) :
    ∃ b', on d.apply b = (.ok ⟨⟩, b') ∧
      b'.sql = .ok (s ++ d.text b'.aliases b.position) ∧
      b'.params = b.params ++ (List.range' (b.position + 1) d.values.length).zip d.values ∧
      b'.position = b.position + d.values.length ∧
      ∀ table, b'.aliases.get? (.text table) =
        (Mapping.get? d.aliases.reverse (.text table)).or (b.aliases.get? (.text table)) := by
  obtain ⟨list, hlist, happly⟩ := d.on_apply h hshort
  have haliases : Sql.AreShort (b.aliases.update d.aliases) := h.short.update hshort
  refine ⟨_, happly, ?_, rfl, rfl, fun table => Mapping.get?_update table h.aliases b.aliases⟩
  set aliases := b.aliases.update d.aliases
  set selected : List Value := [.text "select ", .text list, .text " from ",
    .text (Sql.tableText aliases (.text d.table))]
  have hselected : ∀ v ∈ selected, v.isText = true := by simp [selected, Value.isText]
  have hselect : textOfParts selected =
      "select " ++ ", ".intercalate (d.items.map (Item.text aliases)) ++
        " from " ++ Sql.tableText aliases (.text d.table) := by
    have hrender := selectText_of_isRenderable (h.items haliases)
      (haliases.hasShortAlias (.text d.table))
    rw [← Except.ok.inj (hlist.symm.trans hrender)]
    simp [selected, Value.plain, String.append_assoc]
  have hparts : ∀ v ∈ b.parts ++ (selected ++ d.clauses aliases b.position), v.isText = true :=
    List.forall_mem_append.mpr ⟨isText_of_joinTexts hs,
      List.forall_mem_append.mpr ⟨hselected, isText_clauses⟩⟩
  have hb : textOfParts b.parts = s :=
    Except.ok.inj ((joinTexts_of_isText (isText_of_joinTexts hs) "").symm.trans hs)
  refine (joinTexts_of_isText hparts "").trans (congrArg Except.ok ?_)
  change textOfParts (b.parts ++ (selected ++ d.clauses aliases b.position)) =
    s ++ d.text aliases b.position
  rw [textOfParts_append, textOfParts_append, hb, hselect, d.textOfParts_clauses, text]
  simp only [String.append_assoc]

/-- The first half of a union, in which `orders` is called `x` and one value is bound. -/
def archived : Builder :=
  let half : Step Unit := do
    setAlias (.text "orders") (.text "x")
    setAlias (.text "customers") (.text "c")
    select [.plain ⟨.text "archive", .text "id", false⟩] (.text "archive") []
    let first ← addParam (.int 3)
    where_ (.text ("year = " ++ first ++ " union all "))
  (on half Builder.empty).2

/-- The second half: `orders` is called `o`, and a condition without a value stands in the middle. -/
def openOrders : Definition where
  table := "orders"
  projection := [⟨.text "orders", .text "id", true⟩, ⟨.text "customers", .text "name", false⟩]
  aliases := [(.text "orders", .text "o")]
  derived := [.expression (.text "total * 2") [⟨.text "orders", .text "total", false⟩] (.text " ")]
  conditions := [.eq ⟨.text "orders", .text "status", false⟩ (.int 0),
    .eq ⟨.text "orders", .text "note", false⟩ .null,
    .between ⟨.text "orders", .text "since", false⟩ ⟨.text "orders", .text "until", false⟩
      (.text "today")]
  sortBy := some "id"
  limit := true

theorem apply_appends_text_union : openOrders.IsText ∧ Sql.AreShort archived.aliases ∧
    archived.sql = .ok "select id from archive where year = ?1 union all " ∧
    ∃ b', on openOrders.apply archived = (.ok ⟨⟩, b') ∧
      b'.sql = .ok ("select id from archive where year = ?1 union all " ++
        ("select cast(o.id as varchar), c.name, o.total * 2 from orders o where o.status = ?2 and " ++
          "?3 between o.since and o.until order by id DESC  limit 1")) ∧
      b'.params = [(1, .int 3), (2, .int 0), (3, .text "today")] := by
  have htext : ∀ t s cast, Column.IsText ⟨.text t, .text s, cast⟩ := fun _ _ _ => ⟨rfl, rfl⟩
  have ht : openOrders.IsText := by
    refine ⟨?_, ?_, ?_, ?_, ?_⟩
    · simp [openOrders, Value.isText]
    · simp [openOrders, Sql.AreShort]
    · simp [openOrders, htext]
    · simp only [openOrders, List.forall_mem_singleton]
      exact ⟨rfl, by simp [htext], Or.inr rfl⟩
    · simp [openOrders, Predicate.IsText, Predicate.columns, htext]
  have hs : archived.sql = .ok "select id from archive where year = ?1 union all " := rfl
  have hshort : Sql.AreShort archived.aliases := by
    have haliases : archived.aliases = [(.text "orders", .text "x"), (.text "customers", .text "c")] :=
      rfl
    simp [haliases, Sql.AreShort]
  obtain ⟨b', happly, hsql, hparams, -, -⟩ := openOrders.apply_appends_text ht hshort hs
  have haliases : b'.aliases = [(.text "orders", .text "o"), (.text "customers", .text "c")] := by
    have hb' : b' = (on openOrders.apply archived).2 := by rw [happly]
    rw [hb']
    rfl
  refine ⟨ht, hshort, hs, b', happly, ?_, hparams⟩
  rw [hsql, haliases]
  rfl

end Definition

end BoundSql
