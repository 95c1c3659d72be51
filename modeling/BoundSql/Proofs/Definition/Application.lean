import BoundSql.Proofs.Definition.Clauses
import BoundSql.Proofs.Predicate.Failure
import BoundSql.Proofs.Sql.Faults

/-! # Applying any definition

A definition that is at hand need not be made of texts: its aliases may be unusable, an entry of its
select list may not be rendered to a text, a column in a condition may not be named. Then applying it
fails half way, and only then (`on_apply_cases`). What has been done until then stays done: pieces of
text have been appended, and the values of the conditions before the first that fails are bound. -/

namespace BoundSql

open Builder Builder.Step Predicate

namespace Definition

variable (d : Definition)

/-- The aliases can be registered, and the select list can be rendered under them. -/
def isSelectable (aliases : Mapping) : Bool :=
  d.aliases.all (fun e => e.1.isKey) &&
    (Sql.selectText d.items (.text d.table) (aliases.update d.aliases)).isOk

/-- The definition can be applied: moreover, none of its conditions fails. -/
def isApplicable (aliases : Mapping) : Bool :=
  d.isSelectable aliases && !d.conditions.any (Predicate.fails (aliases.update d.aliases))

/-- The values that the definition binds when it is applied: those of its conditions, up to the first
that fails, if these are reached at all. -/
def bound (aliases : Mapping) : List Value :=
  if d.isSelectable aliases then boundAll (aliases.update d.aliases) d.conditions else []

/-! ### One clause after another -/

/-- Registering aliases stops at the first table that is no key. -/
theorem on_setAliases_of_not_isKey : ∀ {es : Mapping}, es.all (fun e => e.1.isKey) = false →
    ∀ b : Builder, ∃ kind aliases, on (es.forM fun e => setAlias e.1 e.2) b =
      (.error (.misuse (.hash kind)), { b with aliases })
  | e :: es, h, b => by
    change ∃ kind aliases, on (setAlias e.1 e.2 >>= fun _ => es.forM fun e => setAlias e.1 e.2) b =
      (.error (.misuse (.hash kind)), { b with aliases })
    rcases he : e.1.isKey with _ | _
    · obtain ⟨kind, hkind⟩ := Value.asKey_of_not_isKey he
      refine ⟨kind, b.aliases, on_bind_error ?_⟩
      unfold setAlias
      exact on_bind_error (congrArg (·, b) hkind)
    · have hes : es.all (fun e => e.1.isKey) = false := by simpa [he] using h
      rw [on_bind_ok (on_setAlias (Value.asKey_of_isKey he) e.2 b)]
      exact on_setAliases_of_not_isKey hes _

/-- The clauses after the select list are appended if no condition fails. -/
theorem on_clauses_cases (b : Builder) :
    (d.conditions.any (Predicate.fails b.aliases) = false ∧
        ∃ pieces, (∀ v ∈ pieces, v.isText = true) ∧ on d.appendClauses b =
          (.ok ⟨⟩, (b.bindAll (boundAll b.aliases d.conditions)).addParts pieces)) ∨
      (d.conditions.any (Predicate.fails b.aliases) = true ∧ ∃ f, f.IsUnrenderable ∧
        on d.appendClauses b = (.error f, b.bindAll (boundAll b.aliases d.conditions))) := by
  unfold appendClauses
  rcases on_mapM_render_cases d.conditions b with
    ⟨hfails, vs, hvs, hrender⟩ | ⟨hfails, f, hf, hrender⟩
  · obtain ⟨s, hs⟩ := exists_conjunction hvs
    have hand : ∀ b : Builder, on (Builder.and_ [.list vs]) b = (.ok s, b) := by
      intro b
      rw [Builder.and_, on_check, hs]
    obtain ⟨whereParts, hwhereText, hwhere⟩ : ∃ pieces : List Value,
        (∀ v ∈ pieces, v.isText = true) ∧
          ∀ b : Builder, on (where_ (.text s)) b = (.ok ⟨⟩, b.addParts pieces) := by
      rcases hblank : Text.isBlank s with _ | _
      · refine ⟨[.text " where ", .text s], by simp [Value.isText], fun b => ?_⟩
        rw [on_where rfl, hblank]
        rfl
      · refine ⟨[], by simp, fun b => ?_⟩
        rw [on_where rfl, hblank, addParts_nil]
        rfl
    refine Or.inl ⟨hfails, whereParts ++ (d.orderParts ++ d.limitParts), ?_, ?_⟩
    · exact List.forall_mem_append.mpr
        ⟨hwhereText, List.forall_mem_append.mpr ⟨isText_orderParts, isText_limitParts⟩⟩
    · rw [on_bind_ok hrender, on_bind_ok (hand _), on_bind_ok (hwhere _),
        on_bind_ok (d.on_orderParts _)]
      refine (d.on_limitParts _).trans ?_
      rw [addParts_append, addParts_append]
  · exact Or.inr ⟨hfails, f, hf, on_bind_error hrender⟩

/-! ### The definition as a whole -/

theorem isSelectable_eq_false_of_aliases {aliases : Mapping}
    (h : d.aliases.all (fun e => e.1.isKey) = false) : d.isSelectable aliases = false := by
  rw [isSelectable, h, Bool.false_and]

/-- **Any definition on any builder.** It is applied as a whole, or it stops because something cannot be
rendered; in either case it appends pieces of text and binds the values that `bound` lists. -/
theorem on_apply_cases (b : Builder) :
    (d.isApplicable b.aliases = true ∧ ∃ pieces, (∀ v ∈ pieces, v.isText = true) ∧
        on d.apply b = (.ok ⟨⟩, (({ b with aliases := b.aliases.update d.aliases } :
          Builder).addParts pieces).bindAll (d.bound b.aliases))) ∨
      (d.isApplicable b.aliases = false ∧ ∃ f, f.IsUnrenderable ∧ ∃ aliases pieces,
        on d.apply b = (.error f, (({ b with aliases } : Builder).addParts pieces).bindAll
          (d.bound b.aliases))) := by
  unfold isApplicable bound
  rcases haliases : d.aliases.all (fun e => e.1.isKey) with _ | _
  · obtain ⟨kind, aliases, hon⟩ := on_setAliases_of_not_isKey haliases b
    rw [d.isSelectable_eq_false_of_aliases haliases]
    refine Or.inr ⟨rfl, .misuse (.hash kind), .misuse _, aliases, [], ?_⟩
    unfold apply
    rw [on_bind_error hon, addParts_nil]
    exact congrArg _ (bindAll_nil _).symm
  · have hset := on_setAliases (List.all_eq_true.mp haliases) b
    set b1 : Builder := { b with aliases := b.aliases.update d.aliases }
    obtain ⟨list, hlist, hselect⟩ | ⟨e, b', he, ⟨pieces, rfl⟩, hselect⟩ :=
      on_select_cases (d.projection.map .plain) d.derived d.table b1
    · have hselectable : d.isSelectable b.aliases = true := by
        rw [isSelectable, haliases, items, hlist]
        rfl
      rw [hselectable, Bool.true_and, if_pos rfl]
      set selected : List Value := [.text "select ", .text list, .text " from ",
        .text (Sql.tableText b1.aliases (.text d.table))]
      have hselected : ∀ v ∈ selected, v.isText = true := by simp [selected, Value.isText]
      have hon : on d.apply b = on d.appendClauses (b1.addParts selected) := by
        unfold apply
        rw [on_bind_ok hset, on_bind_ok hselect]
        rfl
      rw [hon]
      rcases d.on_clauses_cases (b1.addParts selected) with
        ⟨hfails, pieces, hpieces, hclauses⟩ | ⟨hfails, f, hf, hclauses⟩
      · refine Or.inl ⟨congrArg (!·) hfails, selected ++ pieces,
          List.forall_mem_append.mpr ⟨hselected, hpieces⟩, ?_⟩
        rw [hclauses, addParts_append]
        rfl
      · exact Or.inr ⟨congrArg (!·) hfails, f, hf, b1.aliases, selected, hclauses⟩
    · have hselectable : d.isSelectable b.aliases = false := by
        rw [isSelectable, haliases, items, he]
        rfl
      rw [hselectable]
      refine Or.inr ⟨rfl, e, Sql.failsWith_selectText _ _ _ e he, b1.aliases, pieces, ?_⟩
      unfold apply
      rw [on_bind_ok hset, on_bind_error hselect]
      exact congrArg _ (bindAll_nil _).symm

end Definition

end BoundSql
