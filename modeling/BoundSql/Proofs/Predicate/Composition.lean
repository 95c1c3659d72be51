import BoundSql.Proofs.Builder.Step
import BoundSql.Proofs.Outcome
import BoundSql.Proofs.Predicate.Tree

/-! # Predicates compose

Rendering a tree on a builder calls the builder's operations from left to right (`Tree.render`). It
succeeds on texts, binds the values of the tree to the next positions in order, and returns the text
of the pruned tree, numbered from the builder's position (`on_render`). If nothing is left, it
returns null or a blank text, which of the two depending on the node (`absentForm`); every operation
takes both for absent. -/

namespace BoundSql

open Builder Builder.Step

namespace Predicate

/-! ### Conditions -/

theorem on_columnText_of_isText {c : Column} (h : c.IsText) {b : Builder}
    (halias : Sql.HasShortAlias b.aliases c.table) :
    on (columnText c) b = (.ok (c.sqlName b.aliases), b) := by
  rw [on_columnText, Column.columnText_of_isWritable (h.isReferable.isWritable halias)]

theorem on_columnText_of_long {c : Column} (h : c.IsText) {b : Builder}
    (halias : ¬Sql.HasShortAlias b.aliases c.table) :
    on (columnText c) b = (.error (.unwritable Text.numeralLimit), b) := by
  rw [on_columnText, Column.columnText_of_long h.isReferable.table halias]

/-- A condition with a value binds it to the next position and is rendered with that position. -/
theorem on_render_of_ne_null {p : Predicate} (hp : p.IsText) (hv : p.value ≠ .null) {b : Builder}
    (halias : ∀ c ∈ p.columns, Sql.HasShortAlias b.aliases c.table) :
    on p.render b = (.ok (.text (p.text b.aliases (b.position + 1))), b.bindAll [p.value]) := by
  cases p with
  | eq c v =>
    have hv : v ≠ .null := hv
    have hc : c ∈ (eq c v).columns := by simp [columns]
    change on (Builder.eq c v) b = _
    rw [eq_of_ne_null hv, on_bind_ok (on_columnText_of_isText (hp c hc) (halias c hc)),
      on_bind_ok (on_addParam v b)]
    rfl
  | between first last v =>
    have hv : v ≠ .null := hv
    have hfirst : first ∈ (between first last v).columns := by simp [columns]
    have hlast : last ∈ (between first last v).columns := by simp [columns]
    have honfirst : on (columnText first) (b.bindAll [v]) = (.ok (first.sqlName b.aliases), _) :=
      on_columnText_of_isText (hp first hfirst) (halias first hfirst)
    have honlast : on (columnText last) (b.bindAll [v]) = (.ok (last.sqlName b.aliases), _) :=
      on_columnText_of_isText (hp last hlast) (halias last hlast)
    change on (Builder.between v first last) b = _
    rw [between_of_ne_null hv, on_bind_ok (on_addParam v b), on_bind_ok honfirst, on_bind_ok honlast]
    rfl

/-- A condition with a value on a column whose alias is too long fails. It may have bound the value. -/
theorem on_render_of_long {p : Predicate} (hp : p.IsText) (hv : p.value ≠ .null) {b : Builder}
    (halias : ¬∀ c ∈ p.columns, Sql.HasShortAlias b.aliases c.table) :
    ∃ vs, vs <+: [p.value] ∧
      on p.render b = (.error (.unwritable Text.numeralLimit), b.bindAll vs) := by
  cases p with
  | eq c v =>
    have hv : v ≠ .null := hv
    have hc : ¬Sql.HasShortAlias b.aliases c.table := by simpa [columns] using halias
    refine ⟨[], List.nil_prefix, ?_⟩
    change on (Builder.eq c v) b = _
    rw [eq_of_ne_null hv, on_bind_error (on_columnText_of_long (hp c (by simp [columns])) hc),
      bindAll_nil]
  | between first last v =>
    have hv : v ≠ .null := hv
    have hfirst : first.IsText := hp first (by simp [columns])
    have hlast : last.IsText := hp last (by simp [columns])
    refine ⟨[v], List.prefix_rfl, ?_⟩
    change on (Builder.between v first last) b = _
    rw [between_of_ne_null hv, on_bind_ok (on_addParam v b)]
    by_cases hs : Sql.HasShortAlias b.aliases first.table
    · have hlong : ¬Sql.HasShortAlias b.aliases last.table := by
        simpa [columns, hs] using halias
      have honfirst : on (columnText first) (b.bindAll [v]) = (.ok (first.sqlName b.aliases), _) :=
        on_columnText_of_isText hfirst hs
      rw [on_bind_ok honfirst]
      exact on_bind_error (on_columnText_of_long hlast hlong)
    · exact on_bind_error (on_columnText_of_long hfirst hs)

/-- A condition without a value is null and changes nothing. -/
theorem on_render_of_null {p : Predicate} (hv : p.value = .null) (b : Builder) :
    on p.render b = (.ok .null, b) := by
  cases p with
  | eq c v => obtain rfl : v = .null := hv; rfl
  | between first last v => obtain rfl : v = .null := hv; rfl

/-- A leaf on a builder. -/
def Leaf.render : Leaf → Builder.Step Value
  | condition p => p.render
  | raw s => return (s.map Value.text).getD .null

namespace Tree

mutual

/-- A tree on a builder, its parts from left to right. -/
def render : Tree → Builder.Step Value
  | leaf l => l.render
  | parentheses t => do Builder.parentheses (← t.render)
  | and_ passing ts => do return .text (← Builder.and_ (passing.arguments (← renderAll ts)))

/-- Several trees on a builder, one after another. -/
def renderAll : List Tree → Builder.Step (List Value)
  | [] => return []
  | t :: ts => do
    let v ← t.render
    let vs ← renderAll ts
    return v :: vs

end

/-! ### Optional texts -/

/-- Null or a text. -/
def IsOptionalText (v : Value) : Prop := v = .null ∨ v.isText = true

/-- An optional text counts as absent. -/
def isAbsent : Value → Bool
  | .text s => Text.isBlank s
  | _ => true

theorem isBlank_eq {v : Value} (h : IsOptionalText v) : v.isBlank = .ok (isAbsent v) := by
  rcases h with rfl | h
  · rfl
  · rw [Value.eq_text_plain h]
    rfl

/-- A conjunction sees its members, however it is given them. -/
theorem conjuncts_arguments {vs : List Value} (h : ∀ v ∈ vs, IsOptionalText v)
    (passing : Passing) : conjuncts (passing.arguments vs) = vs := by
  cases passing with
  | asList => rfl
  | asTuple => rfl
  | separately =>
    rcases vs with _ | ⟨v, _ | ⟨w, vs⟩⟩
    · rfl
    · rcases h v (by simp) with rfl | hv
      · rfl
      · rw [Value.eq_text_plain hv]
        rfl
    · simp [conjuncts, Passing.arguments]

/-- The conjunction of optional texts joins those that are not absent. -/
theorem conjunction_arguments {vs : List Value} (h : ∀ v ∈ vs, IsOptionalText v) (passing : Passing)
    {ss : List String} (hss : vs.filter (fun v => !isAbsent v) = ss.map .text) :
    conjunction (passing.arguments vs) = .ok (" and ".intercalate ss) := by
  have hkeep : ∀ v ∈ vs, (do return !(← v.isBlank) : Outcome Bool) = .ok (!isAbsent v) := by
    intro v hv
    rw [isBlank_eq (h v hv)]
    rfl
  have htext : ∀ v ∈ ss.map Value.text, v.isText = true := by
    intro v hv
    obtain ⟨s, -, rfl⟩ := List.mem_map.mp hv
    rfl
  have hplain : (ss.map Value.text).map Value.plain = ss := by
    rw [List.map_map]
    exact List.map_id ss
  rw [conjunction, conjuncts_arguments h, Outcome.filterM_ok hkeep, hss]
  exact (joinTexts_of_isText htext " and ").trans (by rw [hplain])

/-! ### Results -/

/-- What is returned for a tree of which nothing is left. -/
def absentForm : Tree → Value
  | leaf (.raw s) => (s.map Value.text).getD .null
  | leaf (.condition _) => .null
  | parentheses _ => .null
  | and_ _ _ => .text ""

/-- What is returned for a tree, if `n` positions have been used up before it. -/
def result (aliases : Mapping) (n : Nat) (t : Tree) : Value :=
  match t.prune with
  | some u => .text (u.text aliases n)
  | none => t.absentForm

/-- What is returned for several trees one after another. -/
def results (aliases : Mapping) (n : Nat) : List Tree → List Value
  | [] => []
  | t :: ts => t.result aliases n :: results aliases (n + t.values.length) ts

section
variable {aliases : Mapping} {n : Nat}

theorem result_of_prune {t u : Tree} (h : t.prune = some u) :
    t.result aliases n = .text (u.text aliases n) := by
  rw [result, h]

theorem result_of_prune_none {t : Tree} (h : t.prune = none) :
    t.result aliases n = t.absentForm := by
  rw [result, h]

theorem isOptionalText_absentForm (t : Tree) : IsOptionalText t.absentForm := by
  cases t with
  | leaf l =>
    rcases l with p | _ | s
    · exact Or.inl rfl
    · exact Or.inl rfl
    · exact Or.inr rfl
  | parentheses t => exact Or.inl rfl
  | and_ passing ts => exact Or.inr rfl

theorem isAbsent_absentForm {t : Tree} (h : t.prune = none) : isAbsent t.absentForm = true := by
  cases t with
  | leaf l =>
    have hl := (prune_eq_none_iff (leaf l)).mp h l (by simp [leaves])
    rcases l with p | _ | s
    · rfl
    · rfl
    · exact (Bool.not_eq_false' (Text.isBlank s)).mp hl
  | parentheses t => rfl
  | and_ passing ts => rfl

theorem isOptionalText_result (t : Tree) : IsOptionalText (t.result aliases n) := by
  rcases hu : t.prune with _ | u
  · rw [result_of_prune_none hu]
    exact isOptionalText_absentForm t
  · rw [result_of_prune hu]
    exact Or.inr rfl

/-- The result is absent exactly if nothing is left. -/
theorem isAbsent_result (t : Tree) : isAbsent (t.result aliases n) = t.prune.isNone := by
  rcases hu : t.prune with _ | u
  · rw [result_of_prune_none hu]
    exact isAbsent_absentForm hu
  · rw [result_of_prune hu]
    exact isBlank_text aliases hu n

theorem isOptionalText_results (ts : List Tree) :
    ∀ n : Nat, ∀ r ∈ results aliases n ts, IsOptionalText r := by
  induction ts with
  | nil => intro n r hr; cases hr
  | cons t ts ih =>
    intro n
    exact List.forall_mem_cons.mpr ⟨isOptionalText_result t, ih _⟩

/-- Among the results, those that are not absent are the texts of what is left. -/
theorem filter_results (ts : List Tree) : ∀ n : Nat,
    (results aliases n ts).filter (fun r => !isAbsent r) =
      (texts aliases n (pruneAll ts)).map .text := by
  induction ts with
  | nil => intro n; rfl
  | cons t ts ih =>
    intro n
    rw [results, List.filter_cons, isAbsent_result, pruneAll, texts_append, valuesAll_prune,
      List.map_append, ih]
    rcases hu : t.prune with _ | u
    · rfl
    · rw [result_of_prune hu]
      rfl

/-- Opening conjunctions inside conjunctions keeps the result. -/
theorem result_flatten (t : Tree) : t.flatten.result aliases n = t.result aliases n := by
  have htext := text_flatten aliases t n
  have habsent : t.flatten.absentForm = t.absentForm := by
    cases t <;> rfl
  rcases hu : t.prune with _ | u
  · rw [hu, Option.map_none, Option.map_eq_none_iff] at htext
    rw [result_of_prune_none hu, result_of_prune_none htext, habsent]
  · rw [hu, Option.map_some, Option.map_eq_some_iff] at htext
    obtain ⟨u', hu', htext⟩ := htext
    rw [result_of_prune hu, result_of_prune hu', htext]

end

/-! ### Rendering -/

theorem values_of_ne_null {p : Predicate} (hv : p.value ≠ .null) :
    (leaf (.condition p)).values = [p.value] := by
  have hnull : p.value.isNull = false := Bool.eq_false_iff.mpr fun h => hv (Value.isNull_iff.mp h)
  simp [values, leaves, Leaf.value?, hnull]

theorem on_leaf {l : Leaf} (hl : l.IsText) {b : Builder} (halias : l.HasShortAliases b.aliases) :
    on l.render b = (.ok ((leaf l).result b.aliases b.position), b.bindAll (leaf l).values) := by
  cases l with
  | condition p =>
    by_cases hv : p.value = .null
    · have habsent : (Leaf.condition p).isPresent = false := by
        rw [Leaf.isPresent, Value.isNull_iff.mpr hv]
        rfl
      have hprune : (leaf (.condition p)).prune = none := by
        rw [prune, habsent]
        rfl
      rw [result_of_prune_none hprune, values_of_prune_none hprune, bindAll_nil]
      exact on_render_of_null hv b
    · have hnull : p.value.isNull = false := Bool.eq_false_iff.mpr fun h => hv (Value.isNull_iff.mp h)
      have hpresent : (Leaf.condition p).isPresent = true := by
        rw [Leaf.isPresent, hnull]
        rfl
      have hprune : (leaf (.condition p)).prune = some (leaf (.condition p)) := by
        rw [prune, hpresent]
        rfl
      rw [result_of_prune hprune, values_of_ne_null hv]
      exact on_render_of_ne_null hl hv (halias.resolve_left hv)
  | raw s =>
    have hresult : (leaf (.raw s)).result b.aliases b.position = (s.map Value.text).getD .null := by
      rcases hp : (leaf (.raw s)).prune with _ | u
      · exact result_of_prune_none hp
      · rw [result_of_prune hp]
        rcases s with _ | s
        · cases hp
        · rw [prune] at hp
          split at hp
          · cases hp
            rfl
          · cases hp
    rw [hresult]
    change (_, b) = (_, b.bindAll [])
    rw [bindAll_nil]

/-- A leaf with a value and an alias that is too long fails. -/
theorem on_leaf_long {l : Leaf} (hl : l.IsText) {b : Builder} (hs : ¬l.HasShortAliases b.aliases) :
    ∃ vs, vs <+: (leaf l).values ∧
      on l.render b = (.error (.unwritable Text.numeralLimit), b.bindAll vs) := by
  cases l with
  | condition p =>
    obtain ⟨hv, halias⟩ := not_or.mp hs
    rw [values_of_ne_null hv]
    exact on_render_of_long hl hv halias
  | raw s => exact absurd trivial hs

/-- The conjunction of the results of several trees joins the texts of what is left of them. -/
theorem on_and (passing : Passing) (aliases : Mapping) (n : Nat) (ts : List Tree) (b : Builder) :
    on (Builder.and_ (passing.arguments (results aliases n ts))) b =
      (.ok (" and ".intercalate (texts aliases n (pruneAll ts))), b) := by
  rw [Builder.and_, on_check,
    conjunction_arguments (isOptionalText_results ts n) passing (filter_results ts n)]

mutual

/-- **A tree on a builder** binds its values to the next positions and returns the text of what is
left of it. -/
theorem on_render : ∀ {t : Tree}, t.IsText → ∀ {b : Builder}, t.HasShortAliases b.aliases →
    on t.render b = (.ok (t.result b.aliases b.position), b.bindAll t.values)
  | leaf l, ht, b, hs => on_leaf (ht l (by simp [leaves])) (hs l (by simp [leaves]))
  | parentheses t, ht, b, hs => by
    have ht : t.IsText := ht
    have hs : t.HasShortAliases b.aliases := hs
    have hblank : on (check (t.result b.aliases b.position).isBlank) (b.bindAll t.values) =
        (.ok t.prune.isNone, b.bindAll t.values) := by
      rw [on_check, isBlank_eq (isOptionalText_result t), isAbsent_result]
    have hprune : (parentheses t).prune = t.prune.map parentheses := by rw [prune]
    change on (t.render >>= Builder.parentheses) b = (_, b.bindAll t.values)
    rw [on_bind_ok (on_render ht hs), Builder.parentheses, on_bind_ok hblank]
    rcases hu : t.prune with _ | u
    · rw [hu] at hprune
      rw [result_of_prune_none hprune]
      rfl
    · rw [hu] at hprune
      rw [result_of_prune hu, result_of_prune hprune]
      rfl
  | and_ passing ts, ht, b, hs => by
    have ht : ∀ l ∈ leavesAll ts, l.IsText := ht
    have hs : ∀ l ∈ leavesAll ts, l.HasShortAliases b.aliases := hs
    rw [render, on_bind_ok (on_renderAll ht hs), on_bind_ok (on_and passing _ _ ts _), result, prune]
    rcases pruneAll ts with _ | ⟨u, us⟩
    · rfl
    · rfl

theorem on_renderAll : ∀ {ts : List Tree}, (∀ l ∈ leavesAll ts, l.IsText) → ∀ {b : Builder},
    (∀ l ∈ leavesAll ts, l.HasShortAliases b.aliases) →
      on (renderAll ts) b = (.ok (results b.aliases b.position ts), b.bindAll (valuesAll ts))
  | [], _, b, _ => by
    rw [renderAll]
    exact congrArg _ (bindAll_nil b).symm
  | t :: ts, ht, b, hs => by
    rw [leavesAll, List.forall_mem_append] at ht hs
    have ht1 : t.IsText := ht.1
    have hs2 : ∀ l ∈ leavesAll ts, l.HasShortAliases (b.bindAll t.values).aliases := hs.2
    rw [renderAll, on_bind_ok (on_render ht1 hs.1), on_bind_ok (on_renderAll ht.2 hs2),
      valuesAll_cons, bindAll_append]
    rfl

end

mutual

/-- A tree with an alias that is too long fails at the first leaf with one, after the values of the
leaves before it have been bound. -/
theorem on_render_long : ∀ {t : Tree}, t.IsText → ∀ {b : Builder}, ¬t.HasShortAliases b.aliases →
    ∃ vs, vs <+: t.values ∧
      on t.render b = (.error (.unwritable Text.numeralLimit), b.bindAll vs)
  | leaf l, ht, b, hs => by
    have hl : ¬l.HasShortAliases b.aliases := by simpa [HasShortAliases, leaves] using hs
    exact on_leaf_long (ht l (by simp [leaves])) hl
  | parentheses t, ht, b, hs => by
    obtain ⟨vs, hvs, hon⟩ := on_render_long (t := t) ht hs
    exact ⟨vs, hvs, on_bind_error hon⟩
  | and_ passing ts, ht, b, hs => by
    obtain ⟨vs, hvs, hon⟩ := on_renderAll_long ht hs
    rw [render]
    exact ⟨vs, hvs, on_bind_error hon⟩

theorem on_renderAll_long : ∀ {ts : List Tree}, (∀ l ∈ leavesAll ts, l.IsText) →
    ∀ {b : Builder}, (¬∀ l ∈ leavesAll ts, l.HasShortAliases b.aliases) →
      ∃ vs, vs <+: valuesAll ts ∧
        on (renderAll ts) b = (.error (.unwritable Text.numeralLimit), b.bindAll vs)
  | [], _, b, hs => absurd (fun l hl => by cases hl) hs
  | t :: ts, ht, b, hs => by
    rw [leavesAll, List.forall_mem_append] at ht hs
    have ht1 : t.IsText := ht.1
    rw [renderAll, valuesAll_cons]
    by_cases hs1 : t.HasShortAliases b.aliases
    · have hs2 : ¬∀ l ∈ leavesAll ts, l.HasShortAliases (b.bindAll t.values).aliases :=
        fun h => hs ⟨hs1, h⟩
      obtain ⟨vs, hvs, hon⟩ := on_renderAll_long ht.2 hs2
      refine ⟨t.values ++ vs, (List.prefix_append_right_inj _).mpr hvs, ?_⟩
      rw [on_bind_ok (on_render ht1 hs1), on_bind_error hon, bindAll_append]
    · obtain ⟨vs, hvs, hon⟩ := on_render_long ht1 hs1
      exact ⟨vs, hvs.trans (List.prefix_append _ _), on_bind_error hon⟩

end

/-- Opening conjunctions inside conjunctions changes nothing that can be seen. -/
theorem on_render_flatten {t : Tree} (ht : t.IsText) {b : Builder}
    (hs : t.HasShortAliases b.aliases) : on t.flatten.render b = on t.render b := by
  have hflat : t.flatten.IsText := by
    unfold IsText
    rw [leaves_flatten]
    exact ht
  have hshort : t.flatten.HasShortAliases b.aliases := by
    unfold HasShortAliases
    rw [leaves_flatten]
    exact hs
  rw [on_render hflat hshort, on_render ht hs, result_flatten, values_flatten]

/-- Something is left of a tree exactly if some leaf is present. -/
theorem any_isPresent (t : Tree) : t.leaves.any Leaf.isPresent = !t.prune.isNone := by
  rcases hu : t.prune with _ | u
  · have habsent := (prune_eq_none_iff t).mp hu
    exact List.any_eq_false.mpr fun l hl => by simp [habsent l hl]
  · by_contra hno
    have habsent : t.prune = none := (prune_eq_none_iff t).mpr fun l hl =>
      Bool.eq_false_iff.mpr (List.any_eq_false.mp (Bool.eq_false_iff.mpr hno) l hl)
    rw [hu] at habsent
    cases habsent

/-- **Predicates compose.** On a builder in which the aliases that are named can be written, a tree binds
the values that are present to the next positions, in order. The result is blank exactly if every leaf
is absent, and appends a clause otherwise; it is then the text of the tree without its absent leaves
and the nodes left empty, in which every condition is numbered by its own position, and conjunctions
directly inside one another are as good as a single one. On any other builder the tree fails after it
has bound some of its values. -/
theorem predicates_compose {t : Tree} (ht : t.IsText) (b : Builder) :
    (t.HasShortAliases b.aliases →
      ∃ r, on t.render b = (.ok r, b.bindAll t.values) ∧
        (r.isBlank = .ok true ↔ ∀ l ∈ t.leaves, l.isPresent = false) ∧
        on (where_ r) (b.bindAll t.values) = (.ok ⟨⟩,
          if t.leaves.any Leaf.isPresent then (b.bindAll t.values).addParts [.text " where ", r]
          else b.bindAll t.values) ∧
        (t.leaves.any Leaf.isPresent = true →
          ∃ u, t.prune = some u ∧ r = .text (u.text b.aliases b.position)) ∧
        on t.flatten.render b = on t.render b) ∧
    (¬t.HasShortAliases b.aliases →
      ∃ vs, vs <+: t.values ∧
        on t.render b = (.error (.unwritable Text.numeralLimit), b.bindAll vs)) := by
  refine ⟨fun hs => ?_, on_render_long ht⟩
  have hblank : (t.result b.aliases b.position).isBlank = .ok t.prune.isNone := by
    rw [isBlank_eq (isOptionalText_result t), isAbsent_result]
  refine ⟨t.result b.aliases b.position, on_render ht hs, ?_, ?_, ?_, on_render_flatten ht hs⟩
  · rw [hblank, ← prune_eq_none_iff, Except.ok.injEq, Option.isNone_iff_eq_none]
  · rw [on_where hblank, any_isPresent]
    cases t.prune.isNone <;> rfl
  · intro hpresent
    rcases hu : t.prune with _ | u
    · rw [any_isPresent, hu] at hpresent
      cases hpresent
    · exact ⟨u, rfl, result_of_prune hu⟩

/-- A missing text, an empty conjunction in parentheses and a falsy value, at several depths. -/
def dueOrders : Tree := and_ .asList [
  leaf (.raw none),
  and_ .separately [
    leaf (.condition (.eq ⟨.text "orders", .text "status", false⟩ (.int 0))),
    parentheses (and_ .separately [])],
  parentheses (leaf (.condition
    (.between ⟨.text "orders", .text "since", false⟩ ⟨.text "orders", .text "until", false⟩
      (.text "today"))))]

theorem predicates_compose_dueOrders : dueOrders.IsText ∧
    ∃ r, on dueOrders.render Builder.empty =
        (.ok r, Builder.empty.bindAll [.int 0, .text "today"]) ∧
      r = .text "status = ?1 and (?2 between since and until)" := by
  have ht : dueOrders.IsText := by
    have htext : ∀ s, Column.IsText ⟨.text "orders", .text s, false⟩ := fun _ => ⟨rfl, rfl⟩
    simp [IsText, dueOrders, leaves, leavesAll, Leaf.IsText, Predicate.IsText, columns, htext]
  have hs : dueOrders.HasShortAliases Builder.empty.aliases := by
    have hnone : ∀ table, Sql.HasShortAlias Builder.empty.aliases table := fun _ => nofun
    simp [HasShortAliases, dueOrders, leaves, leavesAll, Leaf.HasShortAliases, columns, hnone]
  obtain ⟨r, hr, -, -, htext, -⟩ := (predicates_compose ht Builder.empty).1 hs
  obtain ⟨u, hu, rfl⟩ := htext rfl
  refine ⟨ht, _, hr, ?_⟩
  cases hu
  rfl

/-- A condition on a table's number. -/
def firstItem : Tree := leaf (.condition (.eq ⟨.text "items", .text "id", false⟩ (.int 1)))

/-- A builder in which the alias of `items` has more digits than can be written. -/
def numbered : Builder :=
  { Builder.empty with aliases := [(.text "items", .int (Nat.pow 10 Text.numeralLimit))] }

/-- **An alias that is too long**, once registered, keeps a condition that is present from being
rendered. -/
theorem not_compose_numbered : firstItem.IsText ∧ firstItem.leaves.any Leaf.isPresent = true ∧
    on (setAlias (.text "items") (.int (Nat.pow 10 Text.numeralLimit))) Builder.empty =
      (.ok ⟨⟩, numbered) ∧
    ¬∃ r, on firstItem.render numbered = (.ok r, numbered.bindAll firstItem.values) := by
  have hid : Column.IsText ⟨.text "items", .text "id", false⟩ := ⟨rfl, rfl⟩
  have ht : firstItem.IsText := by
    simpa [IsText, firstItem, leaves, Leaf.IsText, Predicate.IsText, columns] using hid
  have hlong : ¬Sql.HasShortAlias numbered.aliases (.text "items") := by decide +kernel
  have hs : ¬firstItem.HasShortAliases numbered.aliases := by
    simpa [HasShortAliases, firstItem, leaves, Leaf.HasShortAliases, value, columns] using hlong
  obtain ⟨vs, -, hon⟩ := on_render_long ht hs
  refine ⟨ht, rfl, rfl, fun ⟨r, hr⟩ => ?_⟩
  cases hon.symm.trans hr

end Tree

end Predicate

end BoundSql
