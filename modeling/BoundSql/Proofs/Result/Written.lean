import BoundSql.Proofs.Quotation
import BoundSql.Proofs.Result.Rows

/-! # What a table holds can be written

A column holds no integer of more than 64 bits, whether by itself or as a part of lists and maps
(`ColumnType.isShort_convert`). So all values that can be read from a table can be written
(`Table.short_of_rows`), and so can those of a row under the names of the columns
(`Table.short_of_kept`). -/

namespace BoundSql

open Outcome

namespace Value

theorem anyLongNumeral_of_forall : ∀ {xs : List Value}, (∀ x ∈ xs, x.hasLongNumeral = false) →
    anyLongNumeral xs = false
  | [], _ => rfl
  | _ :: _, h => by
    obtain ⟨hx, hxs⟩ := List.forall_mem_cons.mp h
    exact Bool.or_eq_false_iff.mpr ⟨hx, anyLongNumeral_of_forall hxs⟩

theorem anyLongEntry_of_forall : ∀ {kvs : Mapping},
    (∀ e ∈ kvs, e.1.hasLongNumeral = false ∧ e.2.hasLongNumeral = false) → anyLongEntry kvs = false
  | [], _ => rfl
  | _ :: _, h => by
    obtain ⟨he, hkvs⟩ := List.forall_mem_cons.mp h
    exact Bool.or_eq_false_iff.mpr ⟨Bool.or_eq_false_iff.mpr he, anyLongEntry_of_forall hkvs⟩

end Value

/-! ### Cells -/

namespace Cell

/-- What reading the cell gives, if anything, can be written. -/
def IsShort (c : Cell) : Prop := ∀ v, c = .ok v → v.hasLongNumeral = false

theorem IsShort.ok {v : Value} (h : v.hasLongNumeral = false) : IsShort (.ok v) := by
  rintro _ ⟨⟩
  exact h

theorem isShort_ofDayNumber (n : Int) : (ofDayNumber n).IsShort := by
  intro v h
  unfold ofDayNumber at h
  repeat' split at h
  all_goals cases h
  rfl

theorem isShort_ofMicros (offset : Option Int) (n : Int) : (ofMicros offset n).IsShort := by
  intro v h
  unfold ofMicros at h
  split at h <;> cases h
  rfl

theorem isShort_ofTextBytes (bs : List UInt8) : (ofTextBytes bs).IsShort := by
  intro v h
  unfold ofTextBytes at h
  split at h <;> cases h
  rfl

theorem isShort_ofItems {cells : List Cell} (h : ∀ c ∈ cells, c.IsShort) :
    (ofItems cells).IsShort := by
  intro v hv
  unfold ofItems at hv
  rcases hread : cells.mapM id with f | xs <;> rw [hread] at hv <;> cases hv
  refine Value.anyLongNumeral_of_forall fun x hx => ?_
  obtain ⟨c, hc, hx⟩ := exists_mem_of_forall₂ (mapM_ok_iff.mp hread).flip x hx
  exact h c hc x hx

theorem isShort_ofFields {cells : List (Value × Cell)}
    (h : ∀ e ∈ cells, e.1.hasLongNumeral = false ∧ e.2.IsShort) : (ofFields cells).IsShort := by
  intro v hv
  obtain ⟨m, hread, hv⟩ := bind_ok_iff.mp hv
  cases hv
  refine Value.anyLongEntry_of_forall fun e he => ?_
  obtain ⟨⟨k, c⟩, hc, he⟩ := exists_mem_of_forall₂ (mapM_ok_iff.mp hread).flip e he
  obtain ⟨v, hv, he⟩ := bind_ok_iff.mp he
  cases he
  exact ⟨(h _ hc).1, (h _ hc).2 v hv⟩

end Cell

/-! ### Columns -/

namespace ColumnType

theorem short_of_toInt {v : Value} {n : Int} (h : toInt v = .ok n) :
    (Value.int n).hasLongNumeral = false := by
  have hwithin : within intRange n = true := by
    unfold toInt at h
    split at h
    · cases h
    · split at h
      · cases h
      · obtain ⟨k, -, h⟩ := bind_ok_iff.mp h
        split at h
        · next hk =>
          cases h
          exact hk
        · cases h
  obtain ⟨hleast, hmost⟩ := Bool.and_eq_true_iff.mp hwithin
  have hleast : -9223372036854775808 ≤ n := of_decide_eq_true hleast
  have hmost : n ≤ 9223372036854775807 := of_decide_eq_true hmost
  have hfew : n.natAbs < 18446744073709551616 := by omega
  exact Value.short_of_natAbs_lt hfew

theorem short_of_intCell {v : Value} {n : Int} (h : intCell v = .ok n) :
    (Value.int n).hasLongNumeral = false := by
  unfold intCell at h
  split at h
  · exact short_of_toInt h
  · exact short_of_toInt h
  · exact short_of_toInt (mapError_eq_ok_iff.mp h)

theorem short_of_uuidCell {v w : Value} (h : uuidCell v = .ok w) : w.hasLongNumeral = false := by
  unfold uuidCell at h
  split at h
  · cases h
    rfl
  · obtain ⟨bs, -, h⟩ := bind_ok_iff.mp h
    split at h <;> cases h
    rfl

theorem isShort_convertScalar {t : ColumnType} {v : Value} {c : Cell}
    (h : convertScalar t v = .ok c) : c.IsShort := by
  have hmap : ∀ {α : Type} {x : Outcome α} {f : α → Cell}, x.map f = .ok c →
      ∃ a, x = .ok a ∧ f a = c := by
    rintro α (e | a) f ⟨⟩
    exact ⟨a, rfl, rfl⟩
  unfold convertScalar at h
  split at h
  · cases h
    exact .ok rfl
  · obtain ⟨n, hn, rfl⟩ := hmap h
    exact .ok (short_of_intCell hn)
  · obtain ⟨x, -, rfl⟩ := hmap h
    exact .ok rfl
  · cases h
    exact .ok rfl
  · obtain ⟨bs, -, rfl⟩ := hmap h
    exact Cell.isShort_ofTextBytes bs
  · obtain ⟨bs, -, rfl⟩ := hmap h
    exact .ok rfl
  · cases h
    exact .ok rfl
  · cases h
    exact .ok rfl
  · obtain ⟨n, -, rfl⟩ := hmap h
    exact Cell.isShort_ofDayNumber n
  · cases h
    exact Cell.isShort_ofMicros _ _
  · obtain ⟨n, -, rfl⟩ := hmap h
    exact Cell.isShort_ofMicros _ n
  · obtain ⟨d, -, rfl⟩ := hmap h
    exact .ok rfl
  · obtain ⟨w, hw, rfl⟩ := hmap h
    exact .ok (short_of_uuidCell hw)
  · cases h

mutual

/-- **A value in a column**, whatever its type is, can be written. -/
theorem isShort_convert : ∀ (t : ColumnType) {v : Value} {c : Cell}, t.convert v = .ok c → c.IsShort
  | .list t, v, c, h => by
    have hitems : ∀ {xs : List Value}, (xs.mapM t.convert).map Cell.ofItems = .ok c → c.IsShort := by
      intro xs h
      rcases hcells : xs.mapM t.convert with f | cells <;> rw [hcells] at h <;> cases h
      refine Cell.isShort_ofItems fun c hc => ?_
      obtain ⟨x, -, hx⟩ := exists_mem_of_forall₂ (mapM_ok_iff.mp hcells).flip c hc
      exact isShort_convert t hx
    cases v with
    | null =>
      cases h
      exact .ok rfl
    | list xs | tuple xs | set xs => exact hitems h
    | _ => cases h
  | .record byteKeys fields, v, c, h => by
    cases v with
    | null =>
      cases h
      exact .ok rfl
    | map m =>
      rcases hcells : convertFields byteKeys m fields with f | cells
      · have hrefused : (convertFields byteKeys m fields).map Cell.ofFields = .ok c := h
        rw [hcells] at hrefused
        cases hrefused
      · have hread : (convertFields byteKeys m fields).map Cell.ofFields = .ok c := h
        rw [hcells] at hread
        cases hread
        exact Cell.isShort_ofFields (isShort_convertFields byteKeys m fields hcells)
    | _ => cases h
  | .null, v, c, h | .bool, v, c, h | .int, v, c, h | .float, v, c, h | .text, v, c, h
  | .bytes, v, c, h | .date, v, c, h | .moment _, v, c, h | .decimal .., v, c, h
  | .uuid, v, c, h => by
    cases v with
    | null =>
      cases h
      exact .ok rfl
    | _ => exact isShort_convertScalar h

theorem isShort_convertFields (byteKeys : Bool) (m : Mapping) :
    ∀ (fields : List (FieldName × ColumnType)) {cells : List (Value × Cell)},
      convertFields byteKeys m fields = .ok cells →
      ∀ e ∈ cells, e.1.hasLongNumeral = false ∧ e.2.IsShort
  | [], _, h => by
    cases h
    exact List.forall_mem_nil _
  | (name, t) :: fields, _, h => by
    obtain ⟨c, hc, h⟩ := bind_ok_iff.mp h
    obtain ⟨cells, hcells, h⟩ := bind_ok_iff.mp h
    cases h
    exact List.forall_mem_cons.mpr
      ⟨⟨rfl, isShort_convert t hc⟩, isShort_convertFields byteKeys m fields hcells⟩

end

theorem isShort_column {vs : List Value} {cells : List Cell} (h : column vs = .ok cells) :
    ∀ c ∈ cells, c.IsShort := by
  obtain ⟨t, -, h⟩ := bind_ok_iff.mp h
  obtain ⟨-, -, h⟩ := bind_ok_iff.mp h
  intro c hc
  obtain ⟨v, -, hv⟩ := exists_mem_of_forall₂ (mapM_ok_iff.mp h).flip c hc
  exact isShort_convert _ hv

end ColumnType

/-! ### Tables -/

namespace Table

variable {t : Table} {names : List String} {rows : List (List Value)}

theorem isShort_ofRows (h : ofRows names rows = .ok t) :
    ∀ cells ∈ t.columns, ∀ c ∈ cells, c.IsShort := by
  obtain ⟨-, -, h⟩ := bind_ok_iff.mp h
  obtain ⟨values, -, h⟩ := bind_ok_iff.mp h
  obtain ⟨columns, hcolumns, h⟩ := bind_ok_iff.mp h
  cases h
  intro cells hcells
  obtain ⟨vs, -, hvs⟩ := exists_mem_of_forall₂ (mapM_ok_iff.mp hcolumns).flip cells hcells
  exact ColumnType.isShort_column hvs

theorem exists_mem_of_mem_rowsOf {count : Nat} {r : List Value} {v : Value} (hv : v ∈ r) :
    ∀ {columns : List (List Value)}, r ∈ rowsOf count columns → ∃ c ∈ columns, v ∈ c
  | [], h => by
    rw [List.eq_of_mem_replicate h] at hv
    cases hv
  | c :: cs, h => by
    rw [rowsOf_cons, List.mem_iff_getElem] at h
    obtain ⟨i, hi, rfl⟩ := h
    rw [List.getElem_zipWith] at hv
    rcases List.mem_cons.mp hv with rfl | hv
    · exact ⟨c, List.mem_cons_self, List.getElem_mem _⟩
    · obtain ⟨c', hc', hv'⟩ := exists_mem_of_mem_rowsOf hv (List.getElem_mem _)
      exact ⟨c', List.mem_cons_of_mem c hc', hv'⟩

/-- **What can be read from a table** can be written. -/
theorem short_of_rows {given : List (List Value)} (h : ofRows names given = .ok t)
    (hrows : t.rows = .ok rows) : ∀ r ∈ rows, ∀ v ∈ r, v.hasLongNumeral = false := by
  rcases hvalues : t.values with e | columns <;> rw [Table.rows, hvalues] at hrows <;> cases hrows
  intro r hr v hv
  obtain ⟨c, hc, hv⟩ := exists_mem_of_mem_rowsOf hv hr
  have hcells : c.map Except.ok ∈ t.columns := by
    rw [values_eq_ok_iff.mp hvalues]
    exact List.mem_map_of_mem hc
  exact isShort_ofRows h _ hcells _ (List.mem_map_of_mem hv) v rfl

/-- So can what a row has under the names of the columns. -/
theorem short_of_kept {r : List Value} (h : ∀ v ∈ r, v.hasLongNumeral = false) :
    ∀ v ∈ t.kept r, v.hasLongNumeral = false := by
  intro v hv
  obtain ⟨name, -, rfl⟩ := List.mem_map.mp hv
  unfold under
  rcases hget : Mapping.get? (Mapping.named (t.names.zip r)).reverse (.text name) with _ | v
  · rfl
  · obtain ⟨e, he, rfl⟩ := Option.map_eq_some_iff.mp hget
    obtain ⟨pair, hpair, rfl⟩ := List.mem_map.mp (List.mem_reverse.mp (List.mem_of_find?_eq_some he))
    exact h _ (List.of_mem_zip hpair).2

end Table

end BoundSql
