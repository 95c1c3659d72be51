import BoundSql.Proofs.Definition.Reading

/-! # The grammar of definitions

Which documents are definitions, said without reading them. A column is written as a text, its table and
its name on both sides of the last point, or as a map (`Spells`, `columnOfValue_eq_ok_iff`). Columns make
up the computed columns (`IsDerived`) and the conditions (`IsCondition`), and these the document
(`IsGrammatical`). If lists stand where lists are read (`HasLists`), a document can be read exactly if it
follows the grammar (`isOk_ofMapping_iff`). -/

namespace BoundSql

open Outcome

namespace Definition

variable {α : Type} {v : Value} {m e : Mapping} {c : Column} {s : String}

/-! ### Columns -/

/-- The entry is written for the column. -/
inductive Spells : Value → Column → Prop
  | text {table name : String} : table ≠ "" → name ≠ "" → '.' ∉ name.toList →
      Spells (.text (table ++ "." ++ name)) ⟨.text table, .text name, false⟩
  | map {m : Mapping} {table name : Value} :
      m.field? "table" = some table → m.field? "name" = some name →
      Spells (.map m) ⟨table, name, ((m.field? "cast").map Value.truthy).getD false⟩

/-- The entry is written for some column. -/
def IsColumn (v : Value) : Prop := ∃ c, Spells v c

theorem takeWhile_reverse_append {name : List Char} (hname : '.' ∉ name) (before : List Char) :
    (before ++ name).reverse.takeWhile (· != '.') =
      name.reverse ++ before.reverse.takeWhile (· != '.') := by
  have hpass : ∀ c ∈ name.reverse, (c != '.') = true := fun c hc =>
    bne_iff_ne.mpr fun h => hname (List.mem_reverse.mp (h ▸ hc))
  rw [List.reverse_append, List.takeWhile_append_of_pos hpass]

theorem splitLastPoint_append {table name : List Char} (hname : '.' ∉ name) :
    splitLastPoint (table ++ '.' :: name) = (table, name) := by
  have htake : (table ++ '.' :: name).reverse.takeWhile (· != '.') = name.reverse := by
    have hsplit : table ++ '.' :: name = (table ++ ['.']) ++ name := by simp
    rw [hsplit, takeWhile_reverse_append hname, List.reverse_append]
    exact List.append_nil _
  have hlength : (table ++ '.' :: name).length - name.length - 1 = table.length := by
    rw [List.length_append, List.length_cons]
    omega
  unfold splitLastPoint
  rw [htake, List.reverse_reverse]
  dsimp only
  rw [hlength, List.take_left]

theorem splitLastPoint_of_not_mem {cs : List Char} (hcs : '.' ∉ cs) :
    splitLastPoint cs = ([], cs) := by
  have htake : cs.reverse.takeWhile (· != '.') = cs.reverse :=
    (takeWhile_reverse_append hcs []).trans (List.append_nil _)
  unfold splitLastPoint
  rw [htake, List.reverse_reverse]
  dsimp only
  rw [Nat.sub_self, Nat.zero_sub, List.take_zero]

/-- A text with a point has a last one. -/
theorem exists_last_point {cs : List Char} (h : '.' ∈ cs) :
    ∃ table name, cs = table ++ '.' :: name ∧ '.' ∉ name := by
  obtain ⟨name, table, hcs, hname⟩ := List.eq_append_cons_of_mem (List.mem_reverse.mpr h)
  refine ⟨table.reverse, name.reverse, ?_, fun hmem => hname (List.mem_reverse.mp hmem)⟩
  have hreverse := congrArg List.reverse hcs
  rw [List.reverse_reverse, List.reverse_append, List.reverse_cons, List.append_assoc] at hreverse
  exact hreverse

theorem columnOfText_eq_ok_iff : columnOfText s = .ok c ↔ Spells (.text s) c := by
  constructor
  · intro h
    by_cases hpoint : '.' ∈ s.toList
    · obtain ⟨table, name, hs, hname⟩ := exists_last_point hpoint
      rw [columnOfText, hs, splitLastPoint_append hname] at h
      dsimp only at h
      split at h
      · cases h
      next hparts =>
      cases h
      rw [Bool.or_eq_true, not_or, List.isEmpty_iff, List.isEmpty_iff] at hparts
      have htext : s = String.ofList table ++ "." ++ String.ofList name := by
        rw [← String.toList_inj, hs]
        simp
      rw [htext]
      refine .text ?_ ?_ (by rwa [String.toList_ofList])
      · exact fun h => hparts.1 (by simpa using congrArg String.toList h)
      · exact fun h => hparts.2 (by simpa using congrArg String.toList h)
    · rw [columnOfText, splitLastPoint_of_not_mem hpoint] at h
      cases h
  · rintro ⟨htable, hname, hpoint⟩
    next table name =>
    have htoList : (table ++ "." ++ name).toList = table.toList ++ '.' :: name.toList := by simp
    have htable' : table.toList.isEmpty = false := by
      rw [List.isEmpty_eq_false_iff]
      exact fun h => htable (String.toList_inj.mp h)
    have hname' : name.toList.isEmpty = false := by
      rw [List.isEmpty_eq_false_iff]
      exact fun h => hname (String.toList_inj.mp h)
    rw [columnOfText, htoList, splitLastPoint_append hpoint]
    dsimp only
    rw [htable', hname', String.ofList_toList, String.ofList_toList]
    rfl

theorem columnOfMapping_eq_ok_iff : columnOfMapping m = .ok c ↔ Spells (.map m) c := by
  constructor
  · intro h
    unfold columnOfMapping at h
    split at h
    · cases h
    · cases h
    · next table name htable hname =>
      cases h
      exact .map htable hname
  · rintro (_ | ⟨htable, hname⟩)
    rw [columnOfMapping, htable, hname]

/-- A column is read from an entry exactly if the entry is written for it. -/
theorem columnOfValue_eq_ok_iff : columnOfValue v = .ok c ↔ Spells v c := by
  unfold columnOfValue
  split
  · exact columnOfText_eq_ok_iff
  · exact columnOfMapping_eq_ok_iff
  · next htext hmap =>
    refine iff_of_false nofun ?_
    rintro (_ | _)
    · exact htext _ rfl
    · exact hmap _ rfl

theorem isOk_columnOfValue_iff (v : Value) : (columnOfValue v).isOk = true ↔ IsColumn v :=
  isOk_iff_exists.trans (exists_congr fun _ => columnOfValue_eq_ok_iff)

/-! ### Lists -/

/-- What may stand where a list is read: nothing, null or a list. -/
inductive IsListPlace : Option Value → Prop
  | absent : IsListPlace none
  | null : IsListPlace (some .null)
  | list (vs : List Value) : IsListPlace (some (.list vs))

/-- The entries of a list, none if nothing is there. -/
def entriesAt : Option Value → List Value
  | some (.list vs) => vs
  | _ => []

section
variable {o : Option Value} (ho : IsListPlace o)
include ho

theorem membersOr_of_isListPlace : Value.membersOr o = .ok (entriesAt o) := by
  rcases ho with _ | _ | vs
  · rfl
  · rfl
  · -- an empty list is no different from nothing
    cases vs <;> rfl

theorem isUnlisted_of_isListPlace : isUnlisted o = false := by
  rcases ho with _ | _ | vs <;> rfl

theorem isOk_readAll_iff (f : Value → Outcome α) :
    (readAll f o).isOk = true ↔ ∀ v ∈ entriesAt o, (f v).isOk = true := by
  rw [readAll, membersOr_of_isListPlace ho]
  exact mapM_isOk_iff

theorem isOk_readAll_columns_iff :
    (readAll columnOfValue o).isOk = true ↔ ∀ v ∈ entriesAt o, IsColumn v :=
  (isOk_readAll_iff ho columnOfValue).trans (forall₂_congr fun v _ => isOk_columnOfValue_iff v)

end

/-! ### Computed columns -/

/-- The entry is written for a computed column. -/
structure IsDerived (e : Mapping) : Prop where
  columns : ∀ v ∈ entriesAt (e.field? "columns"), IsColumn v
  expression : ∀ v, e.field? "expression" = some v → v.isText = true
  subquery : ∀ v, e.field? "subquery" = some v → v.isText = true
  name : ∀ v, e.field? "name" = some v → v = .null ∨ v.isText = true
  /-- There is an expression, or else a subquery and a name for it. -/
  kind : (e.field? "expression").isSome = true ∨ (e.field? "subquery").isSome = true ∧
    ∃ n, e.field? "name" = some (.text n) ∧ Text.isBlank n = false

theorem isOk_requireText_iff (m : Mapping) (key : String) :
    (requireText m key).isOk = true ↔ ∀ v, m.field? key = some v → v.isText = true := by
  unfold requireText
  split
  · next h => exact iff_of_true rfl fun v hv => by rw [h] at hv; cases hv
  · next s h => exact iff_of_true rfl fun v hv => by rw [h] at hv; cases hv; rfl
  · next v htext h =>
    refine iff_of_false nofun fun hall => ?_
    exact htext _ (Value.eq_text_plain (hall v h))

theorem isOk_derivedName_iff (m : Mapping) : (derivedName m).isOk = true ↔
    ∀ v, m.field? "name" = some v → v = .null ∨ v.isText = true := by
  unfold derivedName
  split
  · next h => exact iff_of_true rfl fun v hv => by rw [h] at hv; cases hv
  · next h => exact iff_of_true rfl fun v hv => by rw [h] at hv; cases hv; exact Or.inl rfl
  · next s h => exact iff_of_true rfl fun v hv => by rw [h] at hv; cases hv; exact Or.inr rfl
  · next v hnull htext h =>
    refine iff_of_false nofun fun hall => ?_
    rcases hall v h with hv | hv
    · exact hnull hv
    · exact htext _ (Value.eq_text_plain hv)

theorem derivedName_eq {name : Value} (h : derivedName m = .ok name) :
    name = (m.field? "name").getD .null := by
  unfold derivedName at h
  split at h
  · next hm => cases h; rw [hm]; rfl
  · next hm => cases h; rw [hm]; rfl
  · next hm => cases h; rw [hm]; rfl
  · cases h

/-- What is made of the parts of a computed column. -/
def makeDerived (e : Mapping) (columns : List Column) (name : Value) : Outcome Item :=
  match e.field? "expression", e.field? "subquery" with
  | some x, _ => return .expression x columns name
  | none, some q => do
    if ← name.isBlank then refuse .unnamedSubquery else return .subquery q columns name
  | none, none => refuse (.derivedKind (.map e))

theorem isOk_makeDerived_iff {columns : List Column} {name : Value} (hname : derivedName e = .ok name) :
    (makeDerived e columns name).isOk = true ↔ (e.field? "expression").isSome = true ∨
      (e.field? "subquery").isSome = true ∧
        ∃ n, e.field? "name" = some (.text n) ∧ Text.isBlank n = false := by
  unfold makeDerived
  split
  · next hexpression => exact iff_of_true rfl (Or.inl (by rw [hexpression]; rfl))
  · next q hexpression hsubquery =>
    have hlook := derivedName_eq hname
    rw [hexpression, hsubquery]
    rcases isOptionalText_of_derivedName hname with rfl | htext
    · refine iff_of_false nofun ?_
      rintro (h | ⟨-, n, hn, -⟩)
      · cases h
      · rw [hn] at hlook
        cases hlook
    · obtain ⟨n, rfl⟩ : ∃ n, name = .text n := ⟨_, Value.eq_text_plain htext⟩
      have hn : e.field? "name" = some (.text n) := by
        rcases hfield : e.field? "name" with _ | v
        · rw [hfield] at hlook
          cases hlook
        · rw [hfield] at hlook
          exact congrArg some hlook.symm
      rw [hn]
      change (if Text.isBlank n = true then refuse .unnamedSubquery
        else Except.ok (Item.subquery q columns (.text n)) : Outcome Item).isOk = true ↔ _
      rcases hblank : Text.isBlank n with _ | _
      · exact iff_of_true rfl (Or.inr ⟨rfl, n, rfl, hblank⟩)
      · refine iff_of_false nofun ?_
        rintro (h | ⟨-, n', hn', hblank'⟩)
        · cases h
        · cases hn'
          cases hblank.symm.trans hblank'
  · next hexpression hsubquery =>
    rw [hexpression, hsubquery]
    exact iff_of_false nofun nofun

theorem isOk_derivedOfMapping_iff (he : IsListPlace (e.field? "columns")) :
    (derivedOfMapping e).isOk = true ↔ IsDerived e := by
  have hsplit : derivedOfMapping e = (do
      let columns ← readAll columnOfValue (e.field? "columns")
      requireText e "expression"
      requireText e "subquery"
      let name ← derivedName e
      makeDerived e columns name) := derivedOfMapping_eq e
  rw [hsplit]
  simp only [isOk_bind_iff]
  constructor
  · rintro ⟨columns, hcolumns, _, hexpression, _, hsubquery, name, hname, hmake⟩
    exact ⟨(isOk_readAll_columns_iff he).mp (isOk_iff_exists.mpr ⟨_, hcolumns⟩),
      (isOk_requireText_iff e _).mp (isOk_iff_exists.mpr ⟨_, hexpression⟩),
      (isOk_requireText_iff e _).mp (isOk_iff_exists.mpr ⟨_, hsubquery⟩),
      (isOk_derivedName_iff e).mp (isOk_iff_exists.mpr ⟨_, hname⟩),
      (isOk_makeDerived_iff hname).mp hmake⟩
  · intro h
    obtain ⟨columns, hcolumns⟩ := isOk_iff_exists.mp ((isOk_readAll_columns_iff he).mpr h.columns)
    obtain ⟨_, hexpression⟩ := isOk_iff_exists.mp ((isOk_requireText_iff e _).mpr h.expression)
    obtain ⟨_, hsubquery⟩ := isOk_iff_exists.mp ((isOk_requireText_iff e _).mpr h.subquery)
    obtain ⟨name, hname⟩ := isOk_iff_exists.mp ((isOk_derivedName_iff e).mpr h.name)
    exact ⟨columns, hcolumns, _, hexpression, _, hsubquery, name, hname,
      (isOk_makeDerived_iff hname).mpr h.kind⟩

theorem isOk_derivedOfValue_iff (hv : ∀ e : Mapping, v = .map e → IsListPlace (e.field? "columns")) :
    (derivedOfValue v).isOk = true ↔ ∃ e, v = .map e ∧ IsDerived e := by
  unfold derivedOfValue
  split
  · next e =>
    rw [isOk_derivedOfMapping_iff (hv e rfl)]
    exact ⟨fun h => ⟨e, rfl, h⟩, fun ⟨_, he, h⟩ => Value.map.inj he ▸ h⟩
  · next hmap => exact iff_of_false nofun fun ⟨e, he, _⟩ => hmap e he

/-! ### Conditions -/

/-- The entry is written for a condition. -/
inductive IsCondition (e : Mapping) : Prop
  | eq {c : Value} : (e.field? "value").isSome = true → e.field? "eq" = some c → IsColumn c →
      IsCondition e
  | between {a b : Value} : (e.field? "value").isSome = true → e.field? "eq" = none →
      e.field? "between" = some (.list [a, b]) → IsColumn a → IsColumn b → IsCondition e

theorem isOk_conditionOfMapping_iff (e : Mapping) :
    (conditionOfMapping e).isOk = true ↔ IsCondition e := by
  unfold conditionOfMapping
  split
  · next hvalue =>
    refine iff_of_false nofun ?_
    rintro (⟨h, -, -⟩ | ⟨h, -, -, -, -⟩) <;> rw [hvalue] at h <;> cases h
  · next c hvalue heq =>
    rw [isOk_bind_iff]
    constructor
    · rintro ⟨column, hc, -⟩
      exact .eq (by rw [hvalue]; rfl) heq ⟨column, columnOfValue_eq_ok_iff.mp hc⟩
    · rintro (⟨-, hc, column, hcolumn⟩ | ⟨-, hnone, -, -, -⟩)
      · cases heq.symm.trans hc
        exact ⟨column, columnOfValue_eq_ok_iff.mpr hcolumn, rfl⟩
      · cases heq.symm.trans hnone
  · next a b hvalue heq hbetween =>
    simp only [isOk_bind_iff]
    constructor
    · rintro ⟨first, ha, last, hb, -⟩
      exact .between (by rw [hvalue]; rfl) heq hbetween ⟨first, columnOfValue_eq_ok_iff.mp ha⟩
        ⟨last, columnOfValue_eq_ok_iff.mp hb⟩
    · rintro (⟨-, hc, -⟩ | ⟨-, -, hab, ⟨first, hfirst⟩, ⟨last, hlast⟩⟩)
      · cases heq.symm.trans hc
      · cases hbetween.symm.trans hab
        exact ⟨first, columnOfValue_eq_ok_iff.mpr hfirst, last, columnOfValue_eq_ok_iff.mpr hlast, rfl⟩
  · next hother _ heq hbetween =>
    refine iff_of_false nofun ?_
    rintro (⟨-, hc, -⟩ | ⟨-, -, hab, -, -⟩)
    · cases heq.symm.trans hc
    · exact hother _ _ (Option.some.inj (hbetween.symm.trans hab))
  · next heq hbetween =>
    refine iff_of_false nofun ?_
    rintro (⟨-, hc, -⟩ | ⟨-, -, hab, -, -⟩)
    · cases heq.symm.trans hc
    · cases hbetween.symm.trans hab

theorem isOk_conditionOfValue_iff (v : Value) :
    (conditionOfValue v).isOk = true ↔ ∃ e, v = .map e ∧ IsCondition e := by
  unfold conditionOfValue
  split
  · next e =>
    rw [isOk_conditionOfMapping_iff]
    exact ⟨fun h => ⟨e, rfl, h⟩, fun ⟨_, he, h⟩ => Value.map.inj he ▸ h⟩
  · next hmap => exact iff_of_false nofun fun ⟨e, he, _⟩ => hmap e he

/-! ### Documents -/

/-- Lists stand where lists are read. -/
structure HasLists (m : Mapping) : Prop where
  projection : IsListPlace (m.field? "projection")
  derived : IsListPlace (m.field? "derived")
  columns : ∀ e : Mapping, .map e ∈ entriesAt (m.field? "derived") → IsListPlace (e.field? "columns")
  conditions : IsListPlace (m.field? "where")

/-- The document follows the grammar. -/
structure IsGrammatical (m : Mapping) : Prop where
  table : ∃ s, m.field? "from" = some (.text s) ∧ s ≠ ""
  aliases : ∀ v, m.field? "aliases" = some v → v.truthy = false ∨ ∃ kvs, v = .map kvs
  sortBy : ∀ v, m.field? "sort_by" = some v → v = .null ∨ v.isText = true
  limit : ∀ v, m.field? "limit" = some v → ∃ b, v = .bool b
  projection : ∀ v ∈ entriesAt (m.field? "projection"), IsColumn v
  derived : ∀ v ∈ entriesAt (m.field? "derived"), ∃ e, v = .map e ∧ IsDerived e
  conditions : ∀ v ∈ entriesAt (m.field? "where"), ∃ e, v = .map e ∧ IsCondition e

theorem isOk_tableOf_iff (m : Mapping) :
    (tableOf m).isOk = true ↔ ∃ s, m.field? "from" = some (.text s) ∧ s ≠ "" := by
  unfold tableOf
  rcases hfield : m.field? "from" with _ | v
  · exact iff_of_false nofun nofun
  · dsimp only
    rcases htruthy : v.truthy with _ | _
    · refine iff_of_false nofun ?_
      rintro ⟨s, hs, hne⟩
      cases hs
      exact hne (by simpa [Value.truthy] using htruthy)
    · cases v with
      | text s =>
        refine iff_of_true rfl ⟨s, rfl, ?_⟩
        rintro rfl
        cases htruthy
      | _ => exact iff_of_false nofun fun ⟨s, hs, _⟩ => by cases hs

theorem isOk_aliasesOf_iff (m : Mapping) : (aliasesOf m).isOk = true ↔
    ∀ v, m.field? "aliases" = some v → v.truthy = false ∨ ∃ kvs, v = .map kvs := by
  unfold aliasesOf
  rcases hfield : m.field? "aliases" with _ | v
  · exact iff_of_true rfl nofun
  · dsimp only
    rcases htruthy : v.truthy with _ | _
    · exact iff_of_true rfl fun w hw => Or.inl (Option.some.inj hw ▸ htruthy)
    · cases v with
      | map kvs => exact iff_of_true rfl fun w hw => Or.inr ⟨kvs, (Option.some.inj hw).symm⟩
      | _ =>
        refine iff_of_false nofun fun hall => ?_
        rcases hall _ rfl with h | ⟨kvs, h⟩
        · cases htruthy.symm.trans h
        · cases h

theorem isOk_sortByOf_iff (m : Mapping) : (sortByOf m).isOk = true ↔
    ∀ v, m.field? "sort_by" = some v → v = .null ∨ v.isText = true := by
  unfold sortByOf
  rcases m.field? "sort_by" with _ | v
  · exact iff_of_true rfl nofun
  · cases v with
    | null => exact iff_of_true rfl fun w hw => Or.inl (Option.some.inj hw).symm
    | text s => exact iff_of_true rfl fun w hw => Or.inr (Option.some.inj hw ▸ rfl)
    | _ =>
      refine iff_of_false nofun fun hall => ?_
      rcases hall _ rfl with h | h <;> cases h

theorem isOk_limitOf_iff (m : Mapping) :
    (limitOf m).isOk = true ↔ ∀ v, m.field? "limit" = some v → ∃ b, v = .bool b := by
  unfold limitOf
  rcases m.field? "limit" with _ | v
  · exact iff_of_true rfl nofun
  · cases v with
    | bool b => exact iff_of_true rfl fun w hw => ⟨b, (Option.some.inj hw).symm⟩
    | _ => exact iff_of_false nofun fun hall => by obtain ⟨b, hb⟩ := hall _ rfl; cases hb

/-- A document with lists in their places is read exactly if it follows the grammar. -/
theorem isOk_ofMapping_iff (hm : HasLists m) : (ofMapping m).isOk = true ↔ IsGrammatical m := by
  have hderived : (readAll derivedOfValue (m.field? "derived")).isOk = true ↔
      ∀ v ∈ entriesAt (m.field? "derived"), ∃ e, v = .map e ∧ IsDerived e :=
    (isOk_readAll_iff hm.derived derivedOfValue).trans <| forall₂_congr fun v hv =>
      isOk_derivedOfValue_iff fun e he => hm.columns e (he ▸ hv)
  have hconditions : (readAll conditionOfValue (m.field? "where")).isOk = true ↔
      ∀ v ∈ entriesAt (m.field? "where"), ∃ e, v = .map e ∧ IsCondition e :=
    (isOk_readAll_iff hm.conditions conditionOfValue).trans <|
      forall₂_congr fun v _ => isOk_conditionOfValue_iff v
  rw [ofMapping_eq]
  simp only [isOk_bind_iff]
  constructor
  · rintro ⟨_, ht, _, ha, _, hs, _, hl, _, hp, _, hd, _, hc, -⟩
    exact ⟨(isOk_tableOf_iff m).mp (isOk_iff_exists.mpr ⟨_, ht⟩),
      (isOk_aliasesOf_iff m).mp (isOk_iff_exists.mpr ⟨_, ha⟩),
      (isOk_sortByOf_iff m).mp (isOk_iff_exists.mpr ⟨_, hs⟩),
      (isOk_limitOf_iff m).mp (isOk_iff_exists.mpr ⟨_, hl⟩),
      (isOk_readAll_columns_iff hm.projection).mp (isOk_iff_exists.mpr ⟨_, hp⟩),
      hderived.mp (isOk_iff_exists.mpr ⟨_, hd⟩), hconditions.mp (isOk_iff_exists.mpr ⟨_, hc⟩)⟩
  · intro h
    obtain ⟨_, ht⟩ := isOk_iff_exists.mp ((isOk_tableOf_iff m).mpr h.table)
    obtain ⟨_, ha⟩ := isOk_iff_exists.mp ((isOk_aliasesOf_iff m).mpr h.aliases)
    obtain ⟨_, hs⟩ := isOk_iff_exists.mp ((isOk_sortByOf_iff m).mpr h.sortBy)
    obtain ⟨_, hl⟩ := isOk_iff_exists.mp ((isOk_limitOf_iff m).mpr h.limit)
    obtain ⟨_, hp⟩ := isOk_iff_exists.mp ((isOk_readAll_columns_iff hm.projection).mpr h.projection)
    obtain ⟨_, hd⟩ := isOk_iff_exists.mp (hderived.mpr h.derived)
    obtain ⟨_, hc⟩ := isOk_iff_exists.mp (hconditions.mpr h.conditions)
    exact ⟨_, ht, _, ha, _, hs, _, hl, _, hp, _, hd, _, hc, rfl⟩

end Definition

end BoundSql
