import BoundSql.Proofs.Definition.Clauses
import BoundSql.Proofs.Placeholder.Assembly

/-! # From a definition to the driver

In the text that a definition builds, the only placeholders are those of its conditions, if the
fragments that come from outside are ordinary (`IsOrdinary`): between any two fragments stands a word
of SQL or the beginning of a placeholder, so that none is made or lengthened where they meet. The
conditions with values are numbered `1, 2, …` as their values are bound (`shows_clauses`), and so the
driver is given the values in the order of the conditions. -/

namespace BoundSql

open Builder Builder.Step Placeholder

/-! ### Placeholders of the fragments -/

namespace Predicate

variable {aliases : Mapping}

/-- The names of the condition's columns are ordinary texts. -/
def IsOrdinary (aliases : Mapping) (p : Predicate) : Prop :=
  ∀ c ∈ p.columns, isOrdinary (c.sqlName aliases).toList = true

/-- A condition shows the position of its value and no other. -/
theorem shows_text {p : Predicate} (h : p.IsOrdinary aliases) (n : Nat) :
    Shows (p.text aliases n).toList (numerals n 1) := by
  cases p with
  | eq c v =>
    have hc := shows_of_isOrdinary (h c (by simp [columns]))
    change Shows (c.sqlName aliases ++ " = " ++ placeholder n).toList _
    rw [String.append_assoc, String.toList_append, String.toList_append]
    refine hc.append ((shows_placeholder n).prepend (by simp)) ?_
    exact startsWithDigit_of_ne_nil (by simp) _
  | between a b v =>
    have ha := h a (by simp [columns])
    have hb := h b (by simp [columns])
    change Shows (placeholder n ++ " between " ++ a.sqlName aliases ++ " and " ++
      b.sqlName aliases).toList _
    simp only [String.append_assoc, String.toList_append]
    have hand : isOrdinary (" and ".toList ++ (b.sqlName aliases).toList) = true :=
      (isOrdinary_append_of_not_mem (by simp)).trans hb
    have hcols : isOrdinary (" between ".toList ++ ((a.sqlName aliases).toList ++
        (" and ".toList ++ (b.sqlName aliases).toList))) = true :=
      (isOrdinary_append_of_not_mem (by simp)).trans
        (isOrdinary_append ha hand (startsWithDigit_of_ne_nil (by simp) _))
    exact (shows_placeholder n).append (shows_of_isOrdinary hcols)
      (startsWithDigit_of_ne_nil (by simp) _)

/-- A conjunction shows the positions of its conditions in order. -/
theorem shows_conjunction : ∀ {ps : List Predicate}, (∀ p ∈ ps, p.IsOrdinary aliases) → ∀ n : Nat,
    Shows (" and ".intercalate ((ps.zipIdx n).map fun p => p.1.text aliases p.2)).toList
      (numerals n ps.length)
  | [], _, _ => shows_of_isOrdinary rfl
  | [p], h, n => by
    rw [List.zipIdx_singleton, List.map_singleton, String.intercalate_singleton]
    exact shows_text (h p (by simp)) n
  | p :: q :: ps, h, n => by
    have hrest := shows_conjunction (fun p' hp => h p' (List.mem_cons_of_mem p hp)) (n + 1)
    have hne : ((q :: ps).zipIdx (n + 1)).map (fun p => p.1.text aliases p.2) ≠ [] :=
      List.cons_ne_nil _ _
    rw [List.zipIdx_cons, List.map_cons, String.intercalate_cons_of_ne_nil hne, String.append_assoc,
      String.toList_append, String.toList_append]
    exact (shows_text (h p (by simp)) n).append (hrest.prepend (by simp))
      (startsWithDigit_of_ne_nil (by simp) _)

end Predicate

namespace Definition

variable (d : Definition)

/-- The fragments that come from outside are ordinary: the select list with the table, the names of
the columns in the conditions, and the order. -/
structure IsOrdinary : Prop where
  select : ∀ s, Sql.selectText d.items (.text d.table) (Mapping.update [] d.aliases) = .ok s →
    isOrdinary s.toList = true
  conditions : ∀ p ∈ d.conditions, p.IsOrdinary (Mapping.update [] d.aliases)
  order : ∀ s, d.sortBy = some s → isOrdinary s.toList = true

/-! ### Placeholders of the clauses -/

theorem shows_whereParts {aliases : Mapping} (h : ∀ p ∈ d.conditions, p.IsOrdinary aliases)
    (n : Nat) : Shows (textOfParts (d.whereParts aliases n)).toList (numerals (n + 1) d.values.length) ∧
      startsWithDigit (textOfParts (d.whereParts aliases n)).toList = false := by
  rcases hp : d.present.isEmpty with _ | _
  · have htext : (textOfParts (d.whereParts aliases n)).toList =
        " where ".toList ++ (" and ".intercalate (d.predicates aliases n)).toList := by
      simp [whereParts, hp, Value.plain]
    rw [htext, values, List.length_map]
    exact ⟨(Predicate.shows_conjunction (fun p hp => h p (List.mem_filter.mp hp).1) (n + 1)).prepend
      (by simp), startsWithDigit_of_ne_nil (by simp) _⟩
  · have hnil : d.values = [] := by
      rw [values, List.isEmpty_iff.mp hp]
      rfl
    rw [whereParts, hp, hnil]
    exact ⟨shows_of_isOrdinary rfl, rfl⟩

theorem shows_orderParts (h : ∀ s, d.sortBy = some s → isOrdinary s.toList = true) :
    Shows (textOfParts d.orderParts).toList [] ∧
      startsWithDigit (textOfParts d.orderParts).toList = false := by
  rw [orderParts]
  rcases hs : d.sortBy with _ | s
  · exact ⟨shows_of_isOrdinary rfl, rfl⟩
  · cases hblank : Text.isBlank s
    · have htext : (textOfParts [.text " order by ", .text s, .text " DESC "]).toList =
          " order by ".toList ++ (s.toList ++ " DESC ".toList) := by
        simp [Value.plain]
      simp only [hblank, Bool.false_eq_true, if_false, htext]
      have hdesc : isOrdinary " DESC ".toList = true ∧ startsWithDigit " DESC ".toList = false := by
        have hlist : " DESC ".toList = [' ', 'D', 'E', 'S', 'C', ' '] := by simp
        rw [hlist]
        decide
      exact ⟨(shows_of_isOrdinary (isOrdinary_append (h s hs) hdesc.1 hdesc.2)).prepend (by simp),
        startsWithDigit_of_ne_nil (by simp) _⟩
    · simp only [hblank, if_true]
      exact ⟨shows_of_isOrdinary rfl, rfl⟩

theorem shows_limitParts : Shows (textOfParts d.limitParts).toList [] ∧
    startsWithDigit (textOfParts d.limitParts).toList = false := by
  rw [limitParts]
  cases d.limit
  · exact ⟨shows_of_isOrdinary rfl, rfl⟩
  · have hlist : (textOfParts [.text " limit 1"]).toList =
        [' ', 'l', 'i', 'm', 'i', 't', ' ', '1'] := by
      simp [Value.plain]
    rw [if_pos rfl, hlist]
    exact ⟨shows_of_isOrdinary (by decide), by decide⟩

/-- The clauses show the positions of the values, and no clause begins with a digit. -/
theorem shows_clauses {aliases : Mapping} (hc : ∀ p ∈ d.conditions, p.IsOrdinary aliases)
    (hs : ∀ s, d.sortBy = some s → isOrdinary s.toList = true) (n : Nat) :
    Shows (textOfParts (d.clauses aliases n)).toList (numerals (n + 1) d.values.length) ∧
      startsWithDigit (textOfParts (d.clauses aliases n)).toList = false := by
  obtain ⟨hwhere, hwhereDigit⟩ := d.shows_whereParts hc n
  obtain ⟨horder, horderDigit⟩ := d.shows_orderParts hs
  obtain ⟨hlimit, hlimitDigit⟩ := d.shows_limitParts
  have hrestDigit := (startsWithDigit_append (t := (textOfParts d.orderParts).toList)
    hlimitDigit).trans horderDigit
  rw [clauses, textOfParts_append, textOfParts_append, String.toList_append, String.toList_append]
  have hshows := hwhere.append (horder.append hlimit hlimitDigit) hrestDigit
  rw [List.append_nil, List.append_nil] at hshows
  exact ⟨hshows, (startsWithDigit_append hrestDigit).trans hwhereDigit⟩

/-! ### The query that is built -/

/-- A definition made of texts builds a query; its text is the select list with the table, followed
by the clauses. -/
theorem exists_build (h : d.IsText) : ∃ b selection,
    Sql.selectText d.items (.text d.table) (Mapping.update [] d.aliases) = .ok selection ∧
    d.build = .ok b ∧
    b.sql = .ok (selection ++ textOfParts (d.clauses (Mapping.update [] d.aliases) 0)) ∧
    b.paramMap =
      ((List.range' 1 d.values.length).zip d.values).map (fun p => (Value.int p.1, p.2)) ∧
    b.orderedParams = d.values := by
  have hempty : Sql.AreShort Builder.empty.aliases := fun e he => by cases he
  obtain ⟨list, hlist, happly⟩ := d.on_apply h hempty
  refine ⟨_, _, hlist, d.build_of_on happly, ?_, rfl, orderedParams_bindAll rfl d.values⟩
  have hselect : ∀ v ∈ [Value.text "select ", .text list, .text " from ",
      .text (Sql.tableText (Mapping.update [] d.aliases) (.text d.table))], v.isText = true := by
    simp [Value.isText]
  refine (joinTexts_of_isText (List.forall_mem_append.mpr
    ⟨hselect, isText_clauses⟩) "").trans ?_
  change Except.ok (textOfParts (_ ++ _)) = _
  simp only [textOfParts_append, textOfParts_cons, textOfParts_nil, Value.plain, String.append_assoc,
    String.append_empty]
  rfl

/-- **From a definition to the driver.** In the text of a definition whose fragments are ordinary,
the placeholders are those of the conditions that have a value, each of them once, in increasing
order. Both drivers are given their own marker in place of each, and the values in the order of the
conditions. Positions are read from numerals of at most `Text.numeralLimit` digits; no list that a
machine holds has more members than these can number. -/
theorem build_binds_values_in_order (ht : d.IsText) (ho : d.IsOrdinary)
    (hn : d.values.length < 10 ^ Text.numeralLimit) :
    ∃ (b : Builder) (sql : String) (c : Cut), d.build = .ok b ∧ b.sql = .ok sql ∧
      b.orderedParams = d.values ∧
      c.text = sql.toList ∧ c.marks.map Mark.digits = numerals 1 d.values.length ∧
      ∀ e, bind e sql b.paramMap = .ok (String.ofList (c.fill e), d.values) := by
  obtain ⟨b, selection, hselection, hbuild, hsql, hparams, hordered⟩ := d.exists_build ht
  obtain ⟨hclauses, hclausesDigit⟩ := d.shows_clauses ho.conditions ho.order 0
  have hshows := (shows_of_isOrdinary (ho.select selection hselection)).append hclauses hclausesDigit
  rw [← String.toList_append, List.nil_append] at hshows
  obtain ⟨c, htext, hdigits, hbind⟩ := bind_of_shows hshows (by omega)
  refine ⟨b, _, c, hbuild, hsql, hordered, htext, hdigits, ?_⟩
  rw [hparams]
  exact hbind

/-- A condition without a value stands between two that have one, and a percent sign is literal. -/
def oddOrders : Definition where
  table := "orders"
  projection := [⟨.text "orders", .text "id", false⟩]
  aliases := [(.text "orders", .text "o")]
  derived := [.expression (.text "id % 2") [] (.text "odd")]
  conditions := [.eq ⟨.text "orders", .text "status", false⟩ (.int 0),
    .eq ⟨.text "orders", .text "note", false⟩ .null,
    .between ⟨.text "orders", .text "since", false⟩ ⟨.text "orders", .text "until", false⟩
      (.text "today")]
  sortBy := some "o.id"
  limit := true

theorem build_binds_values_in_order_oddOrders : oddOrders.IsText ∧ oddOrders.IsOrdinary ∧
    oddOrders.values.length < 10 ^ Text.numeralLimit ∧
    ∃ (b : Builder) (sql : String) (c : Cut), oddOrders.build = .ok b ∧ b.sql = .ok sql ∧
      b.orderedParams = [.int 0, .text "today"] ∧ c.text = sql.toList ∧
      c.marks.map Mark.digits = [['1'], ['2']] ∧
      ∀ e, bind e sql b.paramMap = .ok (String.ofList (c.fill e), [.int 0, .text "today"]) := by
  have ht : oddOrders.IsText := by
    refine ⟨?_, ?_, ?_, ?_, ?_⟩
    · simp [oddOrders, Value.isText]
    · simp [oddOrders, Sql.AreShort]
    · simp only [oddOrders, List.forall_mem_singleton]
      exact ⟨rfl, rfl⟩
    · simp only [oddOrders, List.forall_mem_singleton]
      exact ⟨rfl, by simp, Or.inr rfl⟩
    · have htext : ∀ s, Column.IsText ⟨.text "orders", .text s, false⟩ := fun _ => ⟨rfl, rfl⟩
      simp [oddOrders, Predicate.IsText, Predicate.columns, htext]
  have ho : oddOrders.IsOrdinary := by
    refine ⟨fun s hs => ?_, ?_, ?_⟩
    · obtain rfl : "select " ++ "o.id, id % 2 as odd" ++ " from " ++ "orders o" = s := by
        cases hs
        rfl
      decide
    · simp only [oddOrders, List.forall_mem_cons, Predicate.IsOrdinary, Predicate.columns]
      decide
    · intro s hs
      cases hs
      decide
  have hn : oddOrders.values.length < 10 ^ Text.numeralLimit :=
    lt_of_lt_of_le (by decide : 2 < 10 ^ 1) (Nat.pow_le_pow_right (by decide) (by decide))
  exact ⟨ht, ho, hn, oddOrders.build_binds_values_in_order ht ho hn⟩

end Definition

end BoundSql
