import BoundSql.Proofs.Definition.Application
import BoundSql.Proofs.Definition.Reading

/-! # From a document to the text of its query

A document that is read need not describe a query that can be built: what a column's table and name
are is not looked at while reading. Which definitions can be built is said part by part
(`Definition.IsRenderable`), and there is no other reason for a query not to be built
(`isApplicable_iff`). Together with what reading may come upon this settles which documents are
either refused or compiled to a text (`refused_or_built_iff`).

Documents with byte strings are left aside. A byte string that names a column is searched for as it is
written, so that it matters whether it occurs in a template. -/

namespace BoundSql

open Builder Builder.Step Outcome

/-! ### Byte strings -/

namespace Value

mutual

/-- A byte string stands somewhere in the value. -/
def hasBytes : Value → Bool
  | bytes _ => true
  | list xs | tuple xs | set xs => hasBytesIn xs
  | map kvs => hasBytesInEntries kvs
  | _ => false
termination_by structural v => v

/-- A byte string stands somewhere in one of the values. -/
def hasBytesIn : List Value → Bool
  | [] => false
  | x :: xs => hasBytes x || hasBytesIn xs
termination_by structural xs => xs

/-- A byte string stands somewhere in a key or in the value at it. -/
def hasBytesInEntries : List (Value × Value) → Bool
  | [] => false
  | (k, v) :: r => (hasBytes k || hasBytes v) || hasBytesInEntries r
termination_by structural r => r

end

theorem hasBytes_of_mem : ∀ {xs : List Value}, hasBytesIn xs = false → ∀ x ∈ xs, x.hasBytes = false
  | y :: ys, h, x, hx => by
    obtain ⟨hy, hys⟩ := Bool.or_eq_false_iff.mp h
    rcases List.mem_cons.mp hx with rfl | hx
    · exact hy
    · exact hasBytes_of_mem hys x hx

theorem hasBytes_of_mem_entries : ∀ {kvs : Mapping}, hasBytesInEntries kvs = false →
    ∀ e ∈ kvs, e.1.hasBytes = false ∧ e.2.hasBytes = false
  | e' :: kvs, h, e, he => by
    obtain ⟨he', hkvs⟩ := Bool.or_eq_false_iff.mp h
    rcases List.mem_cons.mp he with rfl | he
    · exact Bool.or_eq_false_iff.mp he'
    · exact hasBytes_of_mem_entries hkvs e he

theorem hasBytes_of_field? {m : Mapping} {k : String} {v : Value}
    (hm : (map m).hasBytes = false) (h : m.field? k = some v) : v.hasBytes = false := by
  obtain ⟨e, he, rfl⟩ := Option.map_eq_some_iff.mp h
  exact (hasBytes_of_mem_entries hm e (List.mem_of_find?_eq_some he)).2

theorem hasBytes_of_members {v : Value} {xs : List Value} (hv : v.hasBytes = false)
    (h : v.members = .ok xs) : ∀ x ∈ xs, x.hasBytes = false := by
  cases v with
  | bytes => cases hv
  | list | tuple | set =>
    cases h
    exact hasBytes_of_mem hv
  | text s =>
    cases h
    intro x hx
    obtain ⟨c, -, rfl⟩ := List.mem_map.mp hx
    rfl
  | map kvs =>
    cases h
    intro x hx
    obtain ⟨e, he, rfl⟩ := List.mem_map.mp hx
    exact (hasBytes_of_mem_entries hv e he).1
  | _ => cases h

end Value

namespace Definition

/-- Whatever is read from a list is read from one of its entries. -/
theorem exists_of_mem_readAll {α : Type} {f : Value → Outcome α} {m : Mapping} {k : String}
    {ys : List α} (hm : (Value.map m).hasBytes = false) (h : readAll f (m.field? k) = .ok ys) :
    ∀ y ∈ ys, ∃ v : Value, v.hasBytes = false ∧ f v = .ok y := by
  obtain ⟨es, hes, hys⟩ := bind_ok_iff.mp h
  have hbytes : ∀ e ∈ es, e.hasBytes = false := by
    rcases hk : m.field? k with _ | v
    · rw [hk] at hes
      cases hes
      simp
    · rw [hk, Value.membersOr] at hes
      split at hes
      · exact Value.hasBytes_of_members (Value.hasBytes_of_field? hm hk) hes
      · cases hes
        simp
  intro y hy
  obtain ⟨e, he, hread⟩ := exists_mem_of_forall₂ (mapM_ok_iff.mp hys).flip y hy
  exact ⟨e, hbytes e he, hread⟩

end Definition

/-! ### What is read -/

/-- The entry is a column, or a text over columns whose names are no byte strings, and named by a text
if at all. -/
def Item.IsTemplate : Item → Prop
  | plain _ => True
  | expression t cs n =>
    t.isText = true ∧ (∀ c ∈ cs, c.name.hasBytes = false) ∧ (n = .null ∨ n.isText = true)
  | subquery t cs _ => t.isText = true ∧ ∀ c ∈ cs, c.name.hasBytes = false
  | raw _ => False

namespace Definition

theorem hasBytes_name_of_columnOfValue {v : Value} {c : Column} (hv : v.hasBytes = false)
    (h : columnOfValue v = .ok c) : c.name.hasBytes = false := by
  unfold columnOfValue at h
  split at h
  · unfold columnOfText at h
    dsimp only at h
    split at h <;> cases h
    rfl
  · unfold columnOfMapping at h
    split at h <;> cases h
    next hname => exact Value.hasBytes_of_field? hv hname
  · cases h

theorem isText_of_requireText {m : Mapping} {key : String} {u : Unit}
    (h : requireText m key = .ok u) {v : Value} (hv : m.field? key = some v) : v.isText = true := by
  unfold requireText at h
  rw [hv] at h
  split at h
  · next hnone => cases hnone
  · next s hs => cases hs; rfl
  · cases h

/-- A computed column is read as a template. -/
theorem isTemplate_of_derivedOfValue {v : Value} {i : Item} (hv : v.hasBytes = false)
    (h : derivedOfValue v = .ok i) : i.IsTemplate := by
  unfold derivedOfValue at h
  split at h
  · next m =>
    have hsplit := (derivedOfMapping_eq m).symm.trans h
    obtain ⟨columns, hcolumns, h⟩ := bind_ok_iff.mp hsplit
    obtain ⟨_, hexpression, h⟩ := bind_ok_iff.mp h
    obtain ⟨_, hsubquery, h⟩ := bind_ok_iff.mp h
    obtain ⟨name, hname, h⟩ := bind_ok_iff.mp h
    have hbytes : ∀ c ∈ columns, c.name.hasBytes = false := by
      intro c hc
      obtain ⟨e, he, hread⟩ := exists_of_mem_readAll hv hcolumns c hc
      exact hasBytes_name_of_columnOfValue he hread
    split at h
    · next e he =>
      cases h
      exact ⟨isText_of_requireText hexpression he, hbytes, isOptionalText_of_derivedName hname⟩
    · next q _ hq =>
      obtain ⟨blank, -, h⟩ := bind_ok_iff.mp h
      cases blank <;> cases h
      exact ⟨isText_of_requireText hsubquery hq, hbytes⟩
    · cases h
  · cases h

end Definition

/-! ### What can be rendered -/

namespace Sql

variable {aliases : Mapping}

theorem isReferable_of_replaceReference {c : Column} (hc : c.name.hasBytes = false) {t v : Value}
    (h : replaceReference aliases t c = .ok v) : c.IsReferable ∧ HasShortAlias aliases c.table := by
  obtain ⟨replacement, hreplacement, h⟩ := bind_ok_iff.mp h
  obtain ⟨name, hname, -⟩ := bind_ok_iff.mp h
  obtain ⟨hnameable, -⟩ := Column.of_qualifiedName_eq_ok hreplacement
  refine ⟨⟨hnameable.table, ?_⟩, fun a ha => (hnameable.short a ha).1⟩
  unfold searchedName at hname
  split at hname
  · next s hs => rw [hs]; rfl
  · next bs hbs => rw [hbs] at hc; cases hc
  · cases hname

theorem isReferable_of_replaceReferences : ∀ {cs : List Column}, (∀ c ∈ cs, c.name.hasBytes = false) →
    ∀ {t : String} {v : Value}, replaceReferences (.text t) cs aliases = .ok v →
      ∀ c ∈ cs, c.IsReferable ∧ HasShortAlias aliases c.table
  | [], _, _, _, _ => by simp
  | c :: cs, hcs, t, v, h => by
    unfold replaceReferences at h
    rw [List.foldlM_cons] at h
    obtain ⟨body, hbody, h⟩ := bind_ok_iff.mp h
    have hc := isReferable_of_replaceReference (hcs c (by simp)) hbody
    cases (replaceReference_of_isReferable hc.1 hc.2 t).symm.trans hbody
    refine List.forall_mem_cons.mpr ⟨hc, ?_⟩
    exact isReferable_of_replaceReferences (fun c' hc' => hcs c' (List.mem_cons_of_mem c hc')) h

end Sql

namespace Item

/-- A template that is rendered to a text has all that it takes. -/
theorem isRenderable_of_selectItem {aliases : Mapping} {i : Item} {v : Value} (hi : i.IsTemplate)
    (h : Sql.selectItem i aliases = .ok v) (hv : v.isText = true) : i.IsRenderable aliases := by
  cases i with
  | plain c =>
    unfold Sql.selectItem at h
    dsimp only at h
    split at h
    · next hcast =>
      obtain ⟨name, hname, -⟩ := bind_ok_iff.mp h
      exact ⟨Column.isWritable_of_columnText hname, Or.inl hcast⟩
    · obtain ⟨hc, rfl⟩ := Column.of_qualifiedName_eq_ok h
      exact ⟨(Column.short_qualified_iff hc).mp (Value.short_of_isText hv), Or.inr hv⟩
  | expression t cs n =>
    obtain ⟨ht, hcs, hn⟩ := hi
    obtain ⟨body, hbody, -⟩ := bind_ok_iff.mp h
    rw [Value.eq_text_plain ht] at hbody
    exact ⟨ht, Sql.isReferable_of_replaceReferences hcs hbody, hn⟩
  | subquery t cs n =>
    obtain ⟨ht, hcs⟩ := hi
    obtain ⟨body, hbody, h⟩ := bind_ok_iff.mp h
    obtain ⟨_, -, h⟩ := bind_ok_iff.mp h
    obtain ⟨name, hname, -⟩ := bind_ok_iff.mp h
    rw [Value.eq_text_plain ht] at hbody
    exact ⟨ht, Sql.isReferable_of_replaceReferences hcs hbody, (Value.shown_eq_ok_iff.mp hname).1⟩
  | raw w => cases h

end Item

namespace Definition

variable {d : Definition}

/-- A query can be built from the definition: its tables with aliases can be keys, the entries of its
select list can be rendered to texts, the alias of its table can be written, and the conditions with
values can be rendered. -/
structure IsRenderable (d : Definition) (aliases : Mapping) : Prop where
  keys : ∀ e ∈ d.aliases, e.1.isKey = true
  items : ∀ i ∈ d.items, i.IsRenderable (aliases.update d.aliases)
  table : Sql.HasShortAlias (aliases.update d.aliases) (.text d.table)
  conditions : ∀ p ∈ d.conditions, p.fails (aliases.update d.aliases) = false

theorem isRenderable_of_selectText {items : List Item} {aliases : Mapping} {table s : String}
    (hitems : ∀ i ∈ items, i.IsTemplate) (h : Sql.selectText items (.text table) aliases = .ok s) :
    (∀ i ∈ items, i.IsRenderable aliases) ∧ Sql.HasShortAlias aliases (.text table) := by
  obtain ⟨selection, hselection, h⟩ := bind_ok_iff.mp h
  obtain ⟨list, hlist, h⟩ := bind_ok_iff.mp h
  obtain ⟨t, ht, -⟩ := bind_ok_iff.mp h
  refine ⟨fun i hi => ?_, (Sql.isNameable_iff_of_isText rfl).mp (Sql.tableReference_ok_iff.mp ⟨t, ht⟩)⟩
  obtain ⟨v, hv, hrender⟩ := exists_mem_of_forall₂ (mapM_ok_iff.mp hselection) i hi
  exact Item.isRenderable_of_selectItem (hitems i hi) hrender (isText_of_joinTexts hlist v hv)

/-- **A definition with templates can be applied** exactly if all its parts can be rendered. -/
theorem isApplicable_iff (hd : ∀ i ∈ d.derived, i.IsTemplate) (aliases : Mapping) :
    d.isApplicable aliases = true ↔ d.IsRenderable aliases := by
  have hitems : ∀ i ∈ d.items, i.IsTemplate := by
    intro i hi
    rcases List.mem_append.mp hi with hi | hi
    · obtain ⟨c, -, rfl⟩ := List.mem_map.mp hi
      trivial
    · exact hd i hi
  have hselect : (Sql.selectText d.items (.text d.table) (aliases.update d.aliases)).isOk = true ↔
      (∀ i ∈ d.items, i.IsRenderable (aliases.update d.aliases)) ∧
        Sql.HasShortAlias (aliases.update d.aliases) (.text d.table) := by
    constructor
    · intro h
      obtain ⟨s, hs⟩ := isOk_iff_exists.mp h
      exact isRenderable_of_selectText hitems hs
    · intro h
      rw [selectText_of_isRenderable h.1 h.2]
      rfl
  have hconditions : (!d.conditions.any (Predicate.fails (aliases.update d.aliases))) = true ↔
      ∀ p ∈ d.conditions, p.fails (aliases.update d.aliases) = false := by
    simp
  rw [isApplicable, isSelectable, Bool.and_eq_true, Bool.and_eq_true, hselect, hconditions,
    List.all_eq_true]
  exact ⟨fun h => ⟨h.1.1, h.1.2.1, h.1.2.2, h.2⟩,
    fun h => ⟨⟨h.keys, h.items, h.table⟩, h.conditions⟩⟩

/-! ### From the document to the text -/

/-- The text of the query that a document describes. -/
def textOf (v : Value) : Outcome String := do
  let d ← read v
  let b ← d.build
  b.sql

/-- What has been built has a text: all its pieces are texts. -/
theorem exists_sql_of_build {b : Builder} (h : d.build = .ok b) : ∃ sql, b.sql = .ok sql := by
  rcases d.on_apply_cases Builder.empty with ⟨-, pieces, hpieces, hon⟩ | ⟨-, f, -, _, _, hon⟩
  · cases (d.build_of_on hon).symm.trans h
    change ∃ sql, joinTexts "" pieces = .ok sql
    rw [joinTexts_of_isText hpieces]
    exact ⟨_, rfl⟩
  · cases (d.build_of_on_error hon).symm.trans h

theorem failsWith_build (d : Definition) : FailsWith Fault.IsUnrenderable d.build := by
  rcases d.on_apply_cases Builder.empty with ⟨-, _, -, hon⟩ | ⟨-, f, hf, _, _, hon⟩
  · rw [d.build_of_on hon]
    exact .ok _
  · rw [d.build_of_on_error hon]
    exact .error hf

/-- What can be applied is built; nothing else is, and then the fault is no refusal. -/
theorem failsWith_build_iff (d : Definition) :
    FailsWith Fault.IsRefusal d.build ↔ d.isApplicable [] = true := by
  rcases d.on_apply_cases Builder.empty with ⟨happ, _, -, hon⟩ | ⟨happ, f, hf, _, _, hon⟩
  · rw [d.build_of_on hon]
    exact iff_of_true (.ok _) happ
  · rw [d.build_of_on_error hon]
    refine iff_of_false (fun h => ?_) (ne_of_eq_of_ne happ (by decide))
    obtain ⟨why, rfl⟩ := h _ rfl
    cases hf

/-- **Reading a document gives a definition or a refusal** exactly if no value without members is come
upon where a list is read, and the refusal quotes nothing that cannot be written. -/
theorem failsWith_read_iff (v : Value) : FailsWith Fault.IsRefusal (read v) ↔
    (∀ m : Mapping, v = .map m → HasHead m → IsListed m) ∧
      ∀ f, ofValue v = .error f → f.IsQuotable := by
  have hread : FailsWith Fault.IsRefusal (ofValue v) ↔
      ∀ m : Mapping, v = .map m → HasHead m → IsListed m := by
    unfold ofValue
    split
    · next m =>
      rw [failsWith_ofMapping_iff]
      exact ⟨fun h m' hm => Value.map.inj hm ▸ h, fun h => h m rfl⟩
    · next hmap => exact iff_of_true (failsWith_refuse _) fun m hm => absurd hm (hmap m)
  rw [read, failsWith_worded_iff, hread]

/-- Whatever is read from a document has templates for its computed columns. -/
theorem isTemplate_of_ofMapping {m : Mapping} (hm : (Value.map m).hasBytes = false)
    (h : ofMapping m = .ok d) : ∀ i ∈ d.derived, i.IsTemplate := by
  rw [ofMapping_eq] at h
  obtain ⟨table, -, h⟩ := bind_ok_iff.mp h
  obtain ⟨aliases, -, h⟩ := bind_ok_iff.mp h
  obtain ⟨sortBy, -, h⟩ := bind_ok_iff.mp h
  obtain ⟨limit, -, h⟩ := bind_ok_iff.mp h
  obtain ⟨projection, -, h⟩ := bind_ok_iff.mp h
  obtain ⟨derived, hderived, h⟩ := bind_ok_iff.mp h
  obtain ⟨conditions, -, h⟩ := bind_ok_iff.mp h
  cases h
  intro i hi
  obtain ⟨v, hv, hread⟩ := exists_of_mem_readAll hm hderived i hi
  exact isTemplate_of_derivedOfValue hv hread

/-- **A document is refused or compiled to a text**, unless a value without members stands where a list
is read, the refusal quotes a value that cannot be written, or the definition that is read cannot be
rendered. -/
theorem refused_or_built_iff {v : Value} (hv : v.hasBytes = false) :
    FailsWith Fault.IsRefusal (textOf v) ↔
      (∀ m : Mapping, v = .map m → HasHead m → IsListed m) ∧
        (∀ f, ofValue v = .error f → f.IsQuotable) ∧
        ∀ d, ofValue v = .ok d → d.IsRenderable [] := by
  have hbuild : ∀ d, ofValue v = .ok d →
      (FailsWith Fault.IsRefusal (d.build >>= Builder.sql) ↔ d.IsRenderable []) := by
    intro d hd
    have htext : ∀ b, d.build = .ok b → FailsWith Fault.IsRefusal b.sql := by
      intro b hb
      obtain ⟨sql, hsql⟩ := exists_sql_of_build hb
      rw [hsql]
      exact .ok sql
    rw [FailsWith.bind_iff, and_iff_left htext, failsWith_build_iff]
    unfold ofValue at hd
    split at hd
    · exact isApplicable_iff (isTemplate_of_ofMapping hv hd) []
    · cases hd
  rw [textOf, FailsWith.bind_iff, failsWith_read_iff, and_assoc]
  refine and_congr_right fun _ => and_congr_right fun _ => forall_congr' fun d => ?_
  rw [read, mapError_eq_ok_iff]
  exact forall_congr' (hbuild d)

/-- A number stands where the select list is read. -/
def numberedList : Value := .map [(.text "from", .text "orders"), (.text "projection", .int 5)]

/-- A number stands for the name of a column. -/
def numberedColumn (aliases : Mapping) : Value :=
  .map [(.text "from", .text "orders"), (.text "aliases", .map aliases), (.text "projection",
    .list [.map [(.text "table", .text "orders"), (.text "name", .int 5)]])]

/-- Only an alias makes a number part of a text. -/
theorem refused_or_built_iff_aliased :
    (numberedColumn [(.text "orders", .text "o")]).hasBytes = false ∧
    textOf (numberedColumn [(.text "orders", .text "o")]) = .ok "select o.5 from orders o" ∧
    ∀ d, ofValue (numberedColumn [(.text "orders", .text "o")]) = .ok d → d.IsRenderable [] := by
  have hbytes : (numberedColumn [(.text "orders", .text "o")]).hasBytes = false := rfl
  have htext : textOf (numberedColumn [(.text "orders", .text "o")]) =
      .ok "select o.5 from orders o" := by
    have hsome : (textOf (numberedColumn [(.text "orders", .text "o")])).toOption =
        some "select o.5 from orders o" := by decide +kernel
    exact toOption_eq_some_iff.mp hsome
  refine ⟨hbytes, htext, ((refused_or_built_iff hbytes).mp ?_).2.2⟩
  rw [htext]
  exact .ok _

/-- The first stops reading with a misuse; the second is read, but then its select list cannot be
joined. -/
theorem neither_refused_nor_built : ¬FailsWith Fault.IsRefusal (textOf numberedList) ∧
    ¬FailsWith Fault.IsRefusal (textOf (numberedColumn [])) := by
  constructor
  · intro h
    obtain ⟨why, hwhy⟩ := h (.misuse (.iterate "int")) rfl
    cases hwhy
  · intro h
    obtain ⟨why, hwhy⟩ := h (.misuse (.join 0 "int")) rfl
    cases hwhy

end Definition

end BoundSql
