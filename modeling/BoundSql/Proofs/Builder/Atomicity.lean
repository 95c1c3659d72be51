import BoundSql.Proofs.Builder.History

/-! # What a failed select list leaves behind

A select list fails in one of three places: an entry cannot be rendered, an entry that has been
rendered is no text and cannot be joined, or the table cannot be looked up, or not be written beside
its alias. Only the first comes before anything is appended (`on_select`). Which entries are rendered
to something else than a text is said without rendering them (`Item.IsBare`,
`Item.exists_selectItem_iff`).

So a failed select list leaves the builder as it was exactly if an entry cannot be rendered, or the
text of the builder could not be read before either (`select_atomic_iff`). Otherwise the beginning of
a clause is left behind (`select_not_atomic`). Positions, values and aliases are never touched. -/

namespace BoundSql

open Builder Builder.Step Outcome

/-! ### Entries that are passed on as they are -/

namespace Sql

variable {aliases : Mapping}

theorem isText_of_replaceReference {template v : Value} {c : Column}
    (h : replaceReference aliases template c = .ok v) : v.isText = true := by
  obtain ⟨replacement, -, h⟩ := bind_ok_iff.mp h
  obtain ⟨name, -, h⟩ := bind_ok_iff.mp h
  obtain ⟨text, -, h⟩ := bind_ok_iff.mp h
  split at h
  · cases h
    rfl
  · split at h
    · cases h
      rfl
    · cases h

/-- A template in which something has been looked for is a text. -/
theorem isText_of_replaceReferences : ∀ {cs : List Column} {template v : Value},
    replaceReferences template cs aliases = .ok v → template.isText = true ∨ cs ≠ [] →
      v.isText = true
  | [], template, v, h, ht => by
    cases h
    exact ht.resolve_right fun hne => hne rfl
  | c :: cs, template, v, h, _ => by
    unfold replaceReferences at h
    rw [List.foldlM_cons] at h
    obtain ⟨template', hc, hcs⟩ := bind_ok_iff.mp h
    exact isText_of_replaceReferences hcs (.inl (isText_of_replaceReference hc))

end Sql

namespace Item

variable {aliases : Mapping} {i : Item}

/-- The entry is passed on as it is although it is no text: a column with neither alias nor cast, or
an expression with neither columns nor a name. -/
def IsBare (aliases : Mapping) : Item → Prop
  | plain c => c.table.isKey = true ∧ Sql.shortName aliases c.table = none ∧ c.needsCast = false ∧
      c.name.isText = false
  | expression t cs n => cs = [] ∧ Sql.isNamed n = .ok false ∧ t.isText = false
  | subquery .. => False
  | raw _ => False

theorem exists_selectItem_plain_iff {c : Column} :
    (∃ v, Sql.selectItem (.plain c) aliases = .ok v ∧ v.isText = false) ↔
      (plain c).IsBare aliases := by
  change (∃ v, (if c.needsCast then
    Sql.columnText c aliases >>= fun name => .ok (.text ("cast(" ++ name ++ " as varchar)"))
    else Sql.qualifiedName c aliases) = .ok v ∧ _) ↔ _
  rcases hcast : c.needsCast with _ | _
  · constructor
    · rintro ⟨v, h, hv⟩
      obtain ⟨hc, rfl⟩ := Column.of_qualifiedName_eq_ok h
      unfold Column.qualified at hv
      rcases halias : Sql.shortName aliases c.table with _ | a <;> rw [halias] at hv
      · exact ⟨hc.table, halias, hcast, hv⟩
      · cases hv
    · rintro ⟨htable, halias, -, hname⟩
      have hqualified : c.qualified aliases = c.name := by rw [Column.qualified, halias]
      have hc : c.IsNameable aliases := ⟨htable, fun a ha => by cases halias.symm.trans ha⟩
      refine ⟨c.name, ?_, hname⟩
      rw [if_neg Bool.false_ne_true, Column.qualifiedName_of_isNameable hc, hqualified]
  · refine iff_of_false ?_ fun h => Bool.false_ne_true (h.2.2.1.symm.trans hcast)
    rintro ⟨v, h, hv⟩
    obtain ⟨name, -, h⟩ := bind_ok_iff.mp h
    cases h
    cases hv

theorem exists_selectItem_expression_iff {t n : Value} {cs : List Column} :
    (∃ v, Sql.selectItem (.expression t cs n) aliases = .ok v ∧ v.isText = false) ↔
      (expression t cs n).IsBare aliases := by
  constructor
  · rintro ⟨v, h, hv⟩
    obtain ⟨body, hbody, h⟩ := bind_ok_iff.mp h
    obtain ⟨named, hnamed, h⟩ := bind_ok_iff.mp h
    cases named with
    | true =>
      obtain ⟨s, -, h⟩ := bind_ok_iff.mp h
      obtain ⟨name, -, h⟩ := bind_ok_iff.mp h
      cases h
      cases hv
    | false =>
      cases h
      rcases cs with _ | ⟨c, cs⟩
      · cases hbody
        exact ⟨rfl, hnamed, hv⟩
      · rw [Sql.isText_of_replaceReferences hbody (.inr (List.cons_ne_nil c cs))] at hv
        cases hv
  · rintro ⟨rfl, hnamed, ht⟩
    exact ⟨t, bind_ok_iff.mpr ⟨t, rfl, bind_ok_iff.mpr ⟨false, hnamed, rfl⟩⟩, ht⟩

/-- The entries that are rendered, but not to a text. -/
theorem exists_selectItem_iff :
    (∃ v, Sql.selectItem i aliases = .ok v ∧ v.isText = false) ↔ i.IsBare aliases := by
  cases i with
  | plain c => exact exists_selectItem_plain_iff
  | expression t cs n => exact exists_selectItem_expression_iff
  | subquery t cs n =>
    refine ⟨fun ⟨v, h, hv⟩ => ?_, False.elim⟩
    obtain ⟨body, -, h⟩ := bind_ok_iff.mp h
    obtain ⟨s, -, h⟩ := bind_ok_iff.mp h
    obtain ⟨name, -, h⟩ := bind_ok_iff.mp h
    cases h
    cases hv
  | raw v =>
    refine ⟨fun ⟨w, h, _⟩ => ?_, False.elim⟩
    cases h

/-- The rendered entries are texts exactly if none is passed on as it is. -/
theorem forall_isText_iff {items : List Item} {selection : List Value}
    (h : items.mapM (fun i => Sql.selectItem i aliases) = .ok selection) :
    (∀ v ∈ selection, v.isText = true) ↔ ∀ i ∈ items, ¬ i.IsBare aliases := by
  have hall := mapM_ok_iff.mp h
  constructor
  · intro htext i hi hbare
    obtain ⟨v, hv, hiv⟩ := exists_mem_of_forall₂ hall i hi
    obtain ⟨w, hiw, hw⟩ := exists_selectItem_iff.mpr hbare
    cases hiv.symm.trans hiw
    rw [htext v hv] at hw
    cases hw
  · intro hbare v hv
    obtain ⟨i, hi, hvi⟩ := exists_mem_of_forall₂ hall.flip v hv
    by_contra hne
    exact hbare i hi (exists_selectItem_iff.mp ⟨v, hvi, Bool.eq_false_iff.mpr hne⟩)

end Item

/-! ### What is appended -/

theorem joinTexts_ok_iff {separator : String} {vs : List Value} :
    (∃ s, joinTexts separator vs = .ok s) ↔ ∀ v ∈ vs, v.isText = true :=
  ⟨fun ⟨_, h⟩ => isText_of_joinTexts h, fun h => ⟨_, joinTexts_of_isText h separator⟩⟩

/-- What cannot be joined cannot be joined with more behind it, for the same reason. -/
theorem joinTexts_append_of_error {separator : String} {vs : List Value} {f : Fault}
    (h : joinTexts separator vs = .error f) (ws : List Value) :
    joinTexts separator (vs ++ ws) = .error f := by
  unfold joinTexts at h ⊢
  split at h
  · next v i hfind =>
    rw [List.zipIdx_append, List.find?_append, hfind]
    exact h
  · cases h

namespace Builder

/-- **A select list**, with the place where it fails: nothing has been appended while the entries are
rendered, but something has when they are joined and when the table is rendered. -/
theorem on_select (projection derived : List Item) (table : Value) (b : Builder) :
    on (select projection table derived) b =
      match (projection ++ derived).mapM fun i => Sql.selectItem i b.aliases with
      | .error f => (.error f, b)
      | .ok selection =>
        match joinTexts ", " selection with
        | .error f => (.error f, b.addParts [.text "select "])
        | .ok list =>
          match Sql.tableReference table b.aliases with
          | .error f => (.error f, b.addParts [.text "select ", .text list, .text " from "])
          | .ok t => (.ok ⟨⟩, b.addParts [.text "select ", .text list, .text " from ", t]) := by
  unfold select
  rw [on_bind_ok (on_get b)]
  dsimp only
  rcases (projection ++ derived).mapM fun i => Sql.selectItem i b.aliases with f | selection
  · exact on_bind_error (on_check (.error f) b)
  rw [on_bind_ok (on_check (.ok selection) b), on_bind_ok (on_append _ b)]
  dsimp only
  rcases joinTexts ", " selection with f | list
  · exact on_bind_error (on_check (.error f) _)
  rw [on_bind_ok (on_check (.ok list) _), on_bind_ok (on_append _ _),
    on_bind_ok (on_append _ _), ← addParts_append, ← addParts_append]
  rcases Sql.tableReference table b.aliases with f | t
  · exact on_bind_error (on_check (.error f) _)
  · rw [on_bind_ok (on_check (.ok t) _), on_append, ← addParts_append]
    rfl

/-- The second builder shows what the first one shows: the text as far as it can be read, the bound
values with their positions, the last position and the aliases. -/
structure LooksLike (b b' : Builder) : Prop where
  sql : b'.sql = b.sql
  params : b'.params = b.params
  position : b'.position = b.position
  aliases : b'.aliases = b.aliases

theorem LooksLike.refl (b : Builder) : b.LooksLike b := ⟨rfl, rfl, rfl, rfl⟩

/-- The beginning of a select list shows unless the text before it cannot be read. -/
theorem looksLike_addParts_iff (b : Builder) {more : List Value} (htext : ∀ v ∈ more, v.isText = true) :
    b.LooksLike (b.addParts (.text "select " :: more)) ↔ b.sql.isOk = false := by
  have hpieces : ∀ v ∈ .text "select " :: more, v.isText = true :=
    List.forall_mem_cons.mpr ⟨rfl, htext⟩
  constructor
  · rintro ⟨hsql, -, -, -⟩
    rcases hb : b.sql with f | s
    · rfl
    · have hparts := isText_of_joinTexts hb
      have hs : textOfParts b.parts = s :=
        Except.ok.inj ((joinTexts_of_isText hparts "").symm.trans hb)
      have hmore := joinTexts_of_isText (List.forall_mem_append.mpr ⟨hparts, hpieces⟩) ""
      have hlonger : textOfParts (b.parts ++ .text "select " :: more) = s :=
        Except.ok.inj (hmore.symm.trans (hsql.trans hb))
      rw [textOfParts_append, hs, textOfParts_cons] at hlonger
      have hempty : "select " ++ textOfParts more = "" := String.append_eq_left_iff.mp hlonger
      simp at hempty
  · intro hb
    rcases hsql : b.sql with f | s
    · exact ⟨(joinTexts_append_of_error hsql _).trans hsql.symm, rfl, rfl, rfl⟩
    · rw [hsql] at hb
      cases hb

end Builder

end BoundSql
