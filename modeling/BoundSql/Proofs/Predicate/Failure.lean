import BoundSql.Proofs.Predicate.Composition
import BoundSql.Proofs.Sql.Faults

/-! # Conditions that cannot be rendered

A condition on any columns at all. It fails if it has a value but one of its columns cannot be named
(`Predicate.fails`); how far it gets before that, and so whether its value is bound, depends on its
kind (`Predicate.bound`). Conditions one after another bind their values up to the first that fails
(`on_mapM_render_cases`). -/

namespace BoundSql

open Builder Builder.Step

theorem Column.columnText_cases (aliases : Mapping) (c : Column) :
    c.IsWritable aliases ∨
      ¬c.IsWritable aliases ∧ ∃ f, f.IsUnrenderable ∧ Sql.columnText c aliases = .error f := by
  by_cases hc : c.IsWritable aliases
  · exact Or.inl hc
  · rcases hs : Sql.columnText c aliases with f | s
    · exact Or.inr ⟨hc, f, Sql.failsWith_columnText aliases c f hs, rfl⟩
    · exact absurd (isWritable_of_columnText hs) hc

namespace Predicate

/-- The condition has a value, but one of its columns cannot be named. -/
def fails (aliases : Mapping) (p : Predicate) : Bool :=
  !p.value.isNull && !p.columns.all fun c => c.IsWritable aliases

/-- The value that a condition binds when it is rendered. A range takes up its position before the
columns are named, an equality only afterwards. -/
def bound (aliases : Mapping) : Predicate → List Value
  | eq c v => if !v.isNull && c.IsWritable aliases then [v] else []
  | between _ _ v => if v.isNull then [] else [v]

/-- The values that conditions bind one after another, up to the first that fails. -/
def boundAll (aliases : Mapping) : List Predicate → List Value
  | [] => []
  | p :: ps => p.bound aliases ++ if p.fails aliases then [] else boundAll aliases ps

section
variable {aliases : Mapping} {c : Column} {v : Value}

theorem fails_eq (hv : v.isNull = false) : (eq c v).fails aliases = !c.IsWritable aliases := by
  simp [fails, columns, value, hv]

theorem bound_eq (hv : v.isNull = false) :
    (eq c v).bound aliases = if c.IsWritable aliases then [v] else [] := by
  simp [bound, hv]

theorem fails_between {first last : Column} (hv : v.isNull = false) :
    (between first last v).fails aliases =
      !(decide (first.IsWritable aliases) && decide (last.IsWritable aliases)) := by
  simp [fails, columns, value, hv]

theorem bound_between {first last : Column} (hv : v.isNull = false) :
    (between first last v).bound aliases = [v] := by
  simp [bound, hv]

theorem fails_of_null {p : Predicate} (hv : p.value = .null) : p.fails aliases = false := by
  rw [fails, hv]
  rfl

theorem bound_of_null {p : Predicate} (hv : p.value = .null) : p.bound aliases = [] := by
  cases p with
  | eq c v => obtain rfl : v = .null := hv; rfl
  | between first last v => obtain rfl : v = .null := hv; rfl

end

/-! ### Rendering -/

theorem on_columnText_of_isWritable {c : Column} {b : Builder} (h : c.IsWritable b.aliases) :
    on (columnText c) b = (.ok (c.sqlName b.aliases), b) := by
  rw [on_columnText, Column.columnText_of_isWritable h]

/-- A condition is rendered to a text, or to nothing, unless it fails. In either case it binds what
`bound` says. -/
theorem on_render_cases (p : Predicate) (b : Builder) :
    (p.fails b.aliases = false ∧
        ∃ v, Tree.IsOptionalText v ∧ on p.render b = (.ok v, b.bindAll (p.bound b.aliases))) ∨
      (p.fails b.aliases = true ∧
        ∃ f, f.IsUnrenderable ∧ on p.render b = (.error f, b.bindAll (p.bound b.aliases))) := by
  by_cases hv : p.value = .null
  · refine Or.inl ⟨fails_of_null hv, .null, Or.inl rfl, ?_⟩
    rw [on_render_of_null hv, bound_of_null hv, bindAll_nil]
  · have hnull : p.value.isNull = false := Bool.eq_false_iff.mpr fun h => hv (Value.isNull_iff.mp h)
    cases p with
    | eq c v =>
      have hv : v ≠ .null := hv
      have hnull : v.isNull = false := hnull
      have hrender : (eq c v).render = _ := eq_of_ne_null hv c
      rw [hrender, fails_eq hnull, bound_eq hnull]
      rcases c.columnText_cases b.aliases with hc | ⟨hc, f, hf, hcolumn⟩
      · rw [decide_eq_true hc, if_pos hc]
        refine Or.inl ⟨rfl, .text ((eq c v).text b.aliases (b.position + 1)), Or.inr rfl, ?_⟩
        rw [on_bind_ok (on_columnText_of_isWritable hc), on_bind_ok (on_addParam v b)]
        rfl
      · rw [decide_eq_false hc, if_neg hc, bindAll_nil]
        have hon : on (columnText c) b = (.error f, b) := by rw [on_columnText, hcolumn]
        exact Or.inr ⟨rfl, f, hf, on_bind_error hon⟩
    | between first last v =>
      have hv : v ≠ .null := hv
      have hnull : v.isNull = false := hnull
      have hrender : (between first last v).render = _ := between_of_ne_null hv first last
      have hon : ∀ c, on (columnText c) (b.bindAll [v]) = (Sql.columnText c b.aliases, b.bindAll [v]) :=
        fun c => on_columnText c _
      rw [hrender, fails_between hnull, bound_between hnull, on_bind_ok (on_addParam v b)]
      rcases first.columnText_cases b.aliases with hfirst | ⟨hfirst, f, hf, hcolumn⟩
      · have honfirst := hon first
        rw [Column.columnText_of_isWritable hfirst] at honfirst
        rw [decide_eq_true hfirst, on_bind_ok honfirst]
        rcases last.columnText_cases b.aliases with hlast | ⟨hlast, f, hf, hcolumn⟩
        · have honlast := hon last
          rw [Column.columnText_of_isWritable hlast] at honlast
          rw [decide_eq_true hlast, on_bind_ok honlast]
          exact Or.inl ⟨rfl, .text ((between first last v).text b.aliases (b.position + 1)),
            Or.inr rfl, rfl⟩
        · have honlast := hon last
          rw [hcolumn] at honlast
          rw [decide_eq_false hlast]
          exact Or.inr ⟨rfl, f, hf, on_bind_error honlast⟩
      · have honfirst := hon first
        rw [hcolumn] at honfirst
        rw [decide_eq_false hfirst]
        exact Or.inr ⟨rfl, f, hf, on_bind_error honfirst⟩

/-- Conditions one after another bind their values, up to the first that fails. -/
theorem on_mapM_render_cases : ∀ (ps : List Predicate) (b : Builder),
    (ps.any (fails b.aliases) = false ∧ ∃ vs, (∀ v ∈ vs, Tree.IsOptionalText v) ∧
        on (ps.mapM render) b = (.ok vs, b.bindAll (boundAll b.aliases ps))) ∨
      (ps.any (fails b.aliases) = true ∧ ∃ f, f.IsUnrenderable ∧
        on (ps.mapM render) b = (.error f, b.bindAll (boundAll b.aliases ps)))
  | [], b => by
    refine Or.inl ⟨rfl, [], by simp, ?_⟩
    rw [List.mapM_nil]
    exact congrArg _ (bindAll_nil b).symm
  | p :: ps, b => by
    rw [List.mapM_cons, boundAll, List.any_cons]
    rcases on_render_cases p b with ⟨hp, v, hv, hon⟩ | ⟨hp, f, hf, hon⟩
    · rw [hp, if_neg (by decide), Bool.false_or, bindAll_append, on_bind_ok hon]
      rcases on_mapM_render_cases ps (b.bindAll (p.bound b.aliases)) with
        ⟨hps, vs, hvs, hons⟩ | ⟨hps, f, hf, hons⟩
      · refine Or.inl ⟨hps, v :: vs, List.forall_mem_cons.mpr ⟨hv, hvs⟩, ?_⟩
        rw [on_bind_ok hons]
        rfl
      · exact Or.inr ⟨hps, f, hf, on_bind_error hons⟩
    · rw [hp, if_pos rfl, List.append_nil]
      exact Or.inr ⟨rfl, f, hf, on_bind_error hon⟩

/-- Whatever conditions are rendered to can be joined. -/
theorem exists_conjunction {vs : List Value} (h : ∀ v ∈ vs, Tree.IsOptionalText v) :
    ∃ s, conjunction [.list vs] = .ok s := by
  have htexts : vs.filter (fun v => !Tree.isAbsent v) =
      ((vs.filter fun v => !Tree.isAbsent v).map Value.plain).map .text := by
    rw [List.map_map, List.map_congr_left (g := id), List.map_id]
    intro v hv
    obtain ⟨hv, hpresent⟩ := List.mem_filter.mp hv
    rcases h v hv with rfl | htext
    · cases hpresent
    · exact (Value.eq_text_plain htext).symm
  exact ⟨_, Tree.conjunction_arguments h .asList htexts⟩

end Predicate

end BoundSql
