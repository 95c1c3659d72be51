import BoundSql.Proofs.Definition.Reference
import BoundSql.Session.Query

/-! # Rows of a result

A result keeps its values column by column, and every column has a cell for each row
(`Table.isRectangular_ofRows`). Rows are read in batches, which together are all the rows, each once
and in order: the rows in a shape do not depend on the size of a batch (`shapeRows_of_rows`), and
there are none unless every cell can be read (`rows_of_shapeRows`).

As a map a row has an entry for each name, at the place of the first column with this name
(`Mapping.keys_ofNames`), and if the names are distinct then one for each column
(`Mapping.ofNames_of_nodup`). -/

namespace BoundSql

open Outcome

/-! ### Maps from names -/

namespace Mapping

/-- Entries whose keys are these texts. -/
def named (es : List (String × Value)) : Mapping := es.map fun e => (.text e.1, e.2)

/-- The map that results from setting values at these texts. -/
def ofNames (es : List (String × Value)) : Mapping := ofEntries (named es)

theorem keys_named (es : List (String × Value)) :
    (named es).map Prod.fst = (es.map Prod.fst).map .text := by
  rw [named, List.map_map, List.map_map]
  rfl

theorem ofNames_concat (es : List (String × Value)) (e : String × Value) :
    ofNames (es ++ [e]) = set (ofNames es) (.text e.1) e.2 := by
  rw [ofNames, named, List.map_append, ofEntries, List.foldl_append]
  rfl

/-- At a text stands what the last entry says. -/
theorem get?_ofNames (es : List (String × Value)) (name : String) :
    get? (ofNames es) (.text name) = get? (named es).reverse (.text name) := by
  have htext : ∀ e ∈ named es, e.1.isText = true := by
    intro e he
    obtain ⟨e, -, rfl⟩ := List.mem_map.mp he
    rfl
  exact (get?_update name htext []).trans Option.or_none

theorem has_text_iff {m : Mapping} {name : String} :
    has m (.text name) = true ↔ .text name ∈ m.map Prod.fst := by
  rw [has, List.any_eq_true, List.mem_map]
  exact exists_congr fun e => and_congr_right fun _ => Value.eq_text_iff

theorem isSome_get?_text {m : Mapping} {name : String} :
    (get? m (.text name)).isSome = true ↔ .text name ∈ m.map Prod.fst := by
  rw [← has_text_iff, get?, has, Option.isSome_map, List.find?_isSome, List.any_eq_true]

theorem keys_set_text (m : Mapping) (name : String) (v : Value) : (set m (.text name) v).map Prod.fst =
    if has m (.text name) then m.map Prod.fst else m.map Prod.fst ++ [.text name] := by
  unfold set
  rcases has m (.text name) with _ | _
  · rw [if_neg Bool.false_ne_true, if_neg Bool.false_ne_true, List.map_append, List.map_singleton]
  · rw [if_pos rfl, if_pos rfl, List.map_map]
    refine List.map_congr_left fun e _ => ?_
    rw [Function.comp_apply]
    split <;> rfl

theorem eraseDups_concat (names : List String) (name : String) : (names ++ [name]).eraseDups =
    if name ∈ names then names.eraseDups else names.eraseDups ++ [name] := by
  rw [List.eraseDups_append]
  by_cases h : name ∈ names <;> simp [List.removeAll, List.eraseDups_cons, h]

theorem length_eraseDups_le (names : List String) : names.eraseDups.length ≤ names.length := by
  induction names using List.reverseRecOn with
  | nil => exact Nat.le_refl 0
  | append_singleton names name ih =>
    rw [eraseDups_concat, List.length_append, List.length_singleton]
    split
    · exact Nat.le_succ_of_le ih
    · rw [List.length_append, List.length_singleton]
      exact Nat.succ_le_succ ih

/-- Something is erased unless all names are distinct. -/
theorem length_eraseDups_eq_iff {names : List String} :
    names.eraseDups.length = names.length ↔ names.Nodup := by
  induction names using List.reverseRecOn with
  | nil => exact iff_of_true rfl List.nodup_nil
  | append_singleton names name ih =>
    have hle := length_eraseDups_le names
    rw [eraseDups_concat, List.nodup_append, List.length_append, List.length_singleton]
    by_cases h : name ∈ names
    · rw [if_pos h]
      exact iff_of_false (by omega) fun hnodup => hnodup.2.2 name h name List.mem_cons_self rfl
    · rw [if_neg h, List.length_append, List.length_singleton, Nat.add_right_cancel_iff, ih]
      refine ⟨fun hnodup => ⟨hnodup, List.pairwise_singleton _ name, ?_⟩, fun hnodup => hnodup.1⟩
      rintro a ha b hb rfl
      rw [List.mem_singleton.mp hb] at ha
      exact h ha

theorem eraseDups_of_nodup {names : List String} (h : names.Nodup) : names.eraseDups = names := by
  induction names using List.reverseRecOn with
  | nil => rfl
  | append_singleton names name ih =>
    rw [List.nodup_append] at h
    rw [eraseDups_concat, if_neg fun hmem => h.2.2 name hmem name List.mem_cons_self rfl, ih h.1]

/-- **The keys of a row** are the names of its columns, each at its first place. -/
theorem keys_ofNames (es : List (String × Value)) :
    (ofNames es).map Prod.fst = (es.map Prod.fst).eraseDups.map .text := by
  induction es using List.reverseRecOn with
  | nil => rfl
  | append_singleton es e ih =>
    have hhas : has (ofNames es) (.text e.1) = true ↔ e.1 ∈ es.map Prod.fst := by
      rw [has_text_iff, ih, List.mem_map_of_injective fun _ _ h => Value.text.inj h, List.mem_eraseDups]
    rw [ofNames_concat, keys_set_text, ih, List.map_append, List.map_singleton, eraseDups_concat]
    by_cases h : e.1 ∈ es.map Prod.fst
    · rw [if_pos (hhas.mpr h), if_pos h]
    · rw [if_neg (mt hhas.mp h), if_neg h, List.map_append, List.map_singleton]

/-- **Distinct names** are the keys, in order, each with its own value. -/
theorem ofNames_of_nodup {es : List (String × Value)} (h : (es.map Prod.fst).Nodup) :
    ofNames es = named es := by
  induction es using List.reverseRecOn with
  | nil => rfl
  | append_singleton es e ih =>
    rw [List.map_append, List.nodup_append] at h
    obtain ⟨hes, -, hdisjoint⟩ := h
    have hnot : ¬has (ofNames es) (.text e.1) = true := by
      rw [has_text_iff, keys_ofNames, List.mem_map_of_injective fun _ _ h => Value.text.inj h,
        List.mem_eraseDups]
      exact fun hmem => hdisjoint _ hmem _ List.mem_cons_self rfl
    rw [ofNames_concat, set, if_neg hnot, ih hes, named, named, List.map_append,
      List.map_singleton]

/-- At distinct texts stand the values, in order. -/
theorem map_get?_named : ∀ {names : List String} {vs : List Value}, names.Nodup →
    vs.length = names.length →
    (names.map fun name => (get? (named (names.zip vs)) (.text name)).getD .null) = vs
  | [], [], _, _ => rfl
  | name :: names, v :: vs, h, hlength => by
    obtain ⟨hname, hnames⟩ := List.nodup_cons.mp h
    have hself : get? (named ((name, v) :: names.zip vs)) (.text name) = some v := by
      rw [named, List.map_cons, get?_cons, if_pos (Value.eq_text_iff.mpr rfl)]
    have hother : ∀ other ∈ names, get? (named ((name, v) :: names.zip vs)) (.text other) =
        get? (named (names.zip vs)) (.text other) := by
      intro other hmem
      rw [named, List.map_cons, get?_cons, if_neg fun heq => ?_]
      · rfl
      · cases Value.eq_text_iff.mp heq
        exact hname hmem
    rw [List.zip_cons_cons, List.map_cons, hself]
    refine congrArg (v :: ·) (Eq.trans ?_ (map_get?_named hnames (Nat.succ.inj hlength)))
    exact List.map_congr_left fun other hmem => by rw [hother other hmem]

end Mapping

/-! ### Rows and columns -/

namespace Table

variable {t : Table} {count : Nat} {columns : List (List Value)} {rows : List (List Value)}

/-- The table has a column for each name and each column a cell for each row. -/
structure IsRectangular (t : Table) (count : Nat) : Prop where
  width : t.columns.length = t.names.length
  height : ∀ c ∈ t.columns, c.length = count

theorem length_column {vs : List Value} {cells : List Cell} (h : ColumnType.column vs = .ok cells) :
    cells.length = vs.length := by
  obtain ⟨type, -, h⟩ := bind_ok_iff.mp h
  obtain ⟨-, -, h⟩ := bind_ok_iff.mp h
  exact length_of_mapM_ok h

theorem isRectangular_ofRows {names : List String} (h : ofRows names rows = .ok t) :
    t.names = names ∧ t.IsRectangular rows.length := by
  obtain ⟨-, -, h⟩ := bind_ok_iff.mp h
  obtain ⟨values, hvalues, h⟩ := bind_ok_iff.mp h
  obtain ⟨cells, hcells, h⟩ := bind_ok_iff.mp h
  cases h
  refine ⟨rfl, ?_, fun c hc => ?_⟩
  · rw [length_of_mapM_ok hcells, length_of_mapM_ok hvalues, List.length_range]
  · obtain ⟨vs, hvs, hc⟩ := exists_mem_of_forall₂ (mapM_ok_iff.mp hcells).flip c hc
    obtain ⟨i, -, hi⟩ := exists_mem_of_forall₂ (mapM_ok_iff.mp hvalues).flip vs hvs
    rw [length_column hc, length_of_mapM_ok hi]

theorem IsRectangular.rowCount_eq (h : t.IsRectangular count) (hnames : t.names ≠ []) :
    t.rowCount = count := by
  rcases hcolumns : t.columns with _ | ⟨c, cs⟩
  · have hwidth := h.width
    rw [hcolumns] at hwidth
    exact absurd (List.length_eq_zero_iff.mp hwidth.symm) hnames
  · rw [rowCount, hcolumns]
    exact h.height c (by rw [hcolumns]; exact List.mem_cons_self)

/-- The values are there exactly if every cell can be read. -/
theorem values_eq_ok_iff : t.values = .ok columns ↔ t.columns = columns.map (List.map Except.ok) := by
  have hcells : ∀ (cells : List Cell) (vs : List Value),
      cells.mapM id = .ok vs ↔ cells = vs.map Except.ok := by
    intro cells vs
    rw [mapM_ok_iff, ← List.forall₂_eq_eq_eq, List.forall₂_map_right_iff]
    rfl
  rw [values, mapM_ok_iff, ← List.forall₂_eq_eq_eq, List.forall₂_map_right_iff]
  simp only [hcells]

theorem isOk_rows_iff : t.rows.isOk = true ↔ ∀ c ∈ t.columns, ∀ x ∈ c, x.isOk = true := by
  have hvalues : t.rows.isOk = t.values.isOk := by
    rw [rows]
    cases t.values <;> rfl
  rw [hvalues, values, mapM_isOk_iff]
  exact forall₂_congr fun c _ => mapM_isOk_iff

theorem rowsOf_cons (count : Nat) (c : List Value) (cs : List (List Value)) :
    rowsOf count (c :: cs) = List.zipWith List.cons c (rowsOf count cs) := rfl

theorem height_of_columns (hrect : t.IsRectangular count)
    (h : t.columns = columns.map (List.map Except.ok)) : ∀ c ∈ columns, c.length = count := by
  intro c hc
  rw [← hrect.height (c.map .ok) (by rw [h]; exact List.mem_map_of_mem hc), List.length_map]

theorem length_rowsOf (h : ∀ c ∈ columns, c.length = count) :
    (rowsOf count columns).length = count := by
  induction columns with
  | nil => exact List.length_replicate
  | cons c cs ih =>
    obtain ⟨hc, hcs⟩ := List.forall_mem_cons.mp h
    rw [rowsOf_cons, List.length_zipWith, hc, ih hcs, Nat.min_self]

theorem length_of_mem_rowsOf {r : List Value} : ∀ {columns : List (List Value)},
    r ∈ rowsOf count columns → r.length = columns.length
  | [], h => by
    rw [List.eq_of_mem_replicate h]
    rfl
  | c :: cs, h => by
    rw [rowsOf_cons, List.mem_iff_getElem] at h
    obtain ⟨i, hi, rfl⟩ := h
    rw [List.getElem_zipWith, List.length_cons, List.length_cons,
      length_of_mem_rowsOf (List.getElem_mem _)]

theorem length_rows (hrect : t.IsRectangular count) (hnames : t.names ≠ []) (h : t.rows = .ok rows) :
    rows.length = count ∧ ∀ r ∈ rows, r.length = t.names.length := by
  rcases hvalues : t.values with e | columns <;> rw [Table.rows, hvalues] at h <;> cases h
  have hcolumns := values_eq_ok_iff.mp hvalues
  rw [hrect.rowCount_eq hnames]
  refine ⟨length_rowsOf (height_of_columns hrect hcolumns), fun r hr => ?_⟩
  rw [length_of_mem_rowsOf hr, ← hrect.width, hcolumns, List.length_map]

/-- Taking some of the rows is taking them in every column. -/
theorem rowsOf_slice (start size : Nat) (h : ∀ c ∈ columns, c.length = count) :
    rowsOf (min size (count - start)) (columns.map fun c => (c.drop start).take size) =
      ((rowsOf count columns).drop start).take size := by
  induction columns with
  | nil =>
    change List.replicate _ [] = ((List.replicate count []).drop start).take size
    rw [List.drop_replicate, List.take_replicate]
  | cons c cs ih =>
    rw [List.map_cons, rowsOf_cons, rowsOf_cons, ih (List.forall_mem_cons.mp h).2, List.drop_zipWith,
      List.take_zipWith]

/-! ### Rows as maps -/

/-- A row as a map from the names of the columns. -/
def entries (t : Table) (r : List Value) : Mapping := Mapping.ofNames (t.names.zip r)

/-- The value of a row in the last column of a name. -/
def under (t : Table) (r : List Value) (name : String) : Value :=
  (Mapping.get? (Mapping.named (t.names.zip r)).reverse (.text name)).getD .null

/-- The values of a row under the distinct names. -/
def kept (t : Table) (r : List Value) : List Value := t.names.eraseDups.map (t.under r)

theorem records_of_rows (h : t.rows = .ok rows) : t.records = .ok (rows.map t.entries) := by
  have hentries : ∀ r : List Value,
      Mapping.ofEntries ((t.names.map .text).zip r) = t.entries r := by
    intro r
    rw [entries, Mapping.ofNames, Mapping.named, List.zip_map_left]
    rfl
  rw [records, h]
  simp only [hentries]
  rfl

section
variable {r : List Value} (hr : r.length = t.names.length)
include hr

theorem keys_entries : (t.entries r).map Prod.fst = t.names.eraseDups.map .text := by
  rw [entries, Mapping.keys_ofNames, List.map_fst_zip hr.ge]

theorem get?_entries {name : String} (h : name ∈ t.names) :
    (t.entries r).get? (.text name) = some (t.under r name) := by
  have hmem : Value.text name ∈ (Mapping.named (t.names.zip r)).reverse.map Prod.fst := by
    rw [List.map_reverse, List.mem_reverse, Mapping.keys_named, List.map_fst_zip hr.ge]
    exact List.mem_map_of_mem h
  obtain ⟨v, hv⟩ := Option.isSome_iff_exists.mp (Mapping.isSome_get?_text.mpr hmem)
  rw [under, hv, entries, Mapping.get?_ofNames, hv]
  rfl

/-- If all names are distinct, these are all values. -/
theorem kept_of_nodup (h : t.names.Nodup) : t.kept r = r := by
  have hkeys : ((t.names.zip r).map Prod.fst).Nodup := by
    rw [List.map_fst_zip hr.ge]
    exact h
  have hunder : t.under r = fun name =>
      ((Mapping.named (t.names.zip r)).get? (.text name)).getD .null := by
    funext name
    rw [under, ← Mapping.get?_ofNames, Mapping.ofNames_of_nodup hkeys]
  rw [kept, Mapping.eraseDups_of_nodup h, hunder]
  exact Mapping.map_get?_named h hr

end

/-! ### Batches -/

/-- The rows of a part are that part of the rows. -/
theorem rows_slice (hrect : t.IsRectangular count) (hnames : t.names ≠ []) (h : t.rows = .ok rows)
    (start size : Nat) : (t.slice start size).rows = .ok ((rows.drop start).take size) := by
  rcases hvalues : t.values with e | columns <;> rw [Table.rows, hvalues] at h <;> cases h
  have hcolumns := values_eq_ok_iff.mp hvalues
  rw [hrect.rowCount_eq hnames]
  have hslice : (t.slice start size).values =
      .ok (columns.map fun c => (c.drop start).take size) := by
    rw [values_eq_ok_iff, slice, hcolumns, List.map_map, List.map_map]
    refine List.map_congr_left fun c _ => ?_
    rw [Function.comp_apply, Function.comp_apply, List.map_take, List.map_drop]
  have hcount : (t.slice start size).IsRectangular (min size (count - start)) := by
    refine ⟨by rw [slice, List.length_map, hrect.width], fun c hc => ?_⟩
    obtain ⟨c', hc', rfl⟩ := List.mem_map.mp hc
    rw [List.length_take, List.length_drop, hrect.height c' hc']
  rw [Table.rows, hslice, hcount.rowCount_eq hnames,
    ← rowsOf_slice start size (height_of_columns hrect hcolumns)]
  rfl

/-- Parts of one size, one after another, are the beginning of a list. -/
theorem flatten_parts {α : Type} (xs : List α) (size : Nat) : ∀ parts : Nat,
    ((List.range parts).map fun i => (xs.drop (i * size)).take size).flatten = xs.take (parts * size)
  | 0 => by
    rw [Nat.zero_mul, List.take_zero]
    rfl
  | parts + 1 => by
    rw [List.range_succ, List.map_append, List.flatten_append, flatten_parts xs size parts,
      Nat.succ_mul, List.take_add]
    simp only [List.map_cons, List.map_nil, List.flatten_cons, List.flatten_nil, List.append_nil]

/-- So many parts of a size hold at least so many members. -/
theorem le_parts_mul (count : Nat) {size : Nat} (hsize : size ≠ 0) :
    count ≤ (count + size - 1) / size * size := by
  have hlt := Nat.lt_div_mul_add (a := count + size - 1) (Nat.pos_of_ne_zero hsize)
  omega

/-- **The batches of a table**, whatever their size is, are its rows in order. -/
theorem rows_batches (hrect : t.IsRectangular count) (hnames : t.names ≠ []) (h : t.rows = .ok rows)
    {size : Option Nat} (hsize : size ≠ some 0) :
    ∃ parts, (t.batches size).mapM Table.rows = .ok parts ∧ parts.flatten = rows := by
  rcases size with _ | size
  · refine ⟨[rows], mapM_ok_iff.mpr (.cons h .nil), ?_⟩
    rw [List.flatten_cons, List.flatten_nil, List.append_nil]
  have hsize : size ≠ 0 := fun hzero => hsize (congrArg some hzero)
  refine ⟨(List.range ((count + size - 1) / size)).map fun i => (rows.drop (i * size)).take size,
    ?_, ?_⟩
  · rw [batches, hrect.rowCount_eq hnames, mapM_ok_iff, List.forall₂_map_left_iff,
      List.forall₂_map_right_iff]
    exact List.forall₂_same.mpr fun i _ => rows_slice hrect hnames h (i * size) size
  · have hlength : rows.length = count := (length_rows hrect hnames h).1
    rw [flatten_parts, List.take_of_length_le]
    rw [hlength]
    exact le_parts_mul count hsize

/-- Every cell is in one of the batches. -/
theorem isOk_rows_of_batches (hrect : t.IsRectangular count) {size : Option Nat} (hsize : size ≠ some 0)
    (h : ∀ b ∈ t.batches size, b.rows.isOk = true) : t.rows.isOk = true := by
  rcases size with _ | size
  · exact h t (List.mem_singleton_self t)
  have hsize : 0 < size := Nat.pos_of_ne_zero fun hzero => hsize (congrArg some hzero)
  refine isOk_rows_iff.mpr fun column hcolumn x hx => ?_
  obtain ⟨j, hj, rfl⟩ := List.mem_iff_getElem.mp hx
  have hnames : t.names ≠ [] := by
    rintro hnil
    rw [List.length_eq_zero_iff.mp (hrect.width.trans (congrArg List.length hnil))] at hcolumn
    cases hcolumn
  have hj' : j < count := hrect.height column hcolumn ▸ hj
  have hbatch : t.slice (j / size * size) size ∈ t.batches (some size) := by
    refine List.mem_map_of_mem (List.mem_range.mpr ?_)
    rw [hrect.rowCount_eq hnames, Nat.div_lt_iff_lt_mul hsize]
    exact Nat.lt_of_lt_of_le hj' (le_parts_mul count hsize.ne')
  have hmem : column[j] ∈ (column.drop (j / size * size)).take size := by
    have hle := Nat.div_mul_le_self j size
    have hlt := Nat.lt_div_mul_add (a := j) hsize
    refine List.mem_iff_getElem.mpr ⟨j - j / size * size, ?_, ?_⟩
    · rw [List.length_take, List.length_drop]
      omega
    · rw [List.getElem_take, List.getElem_drop]
      congr 1
      omega
  exact isOk_rows_iff.mp (h _ hbatch) _ (List.mem_map_of_mem hcolumn) _ hmem

theorem names_of_mem_batches {size : Option Nat} {b : Table} (h : b ∈ t.batches size) :
    b.names = t.names := by
  rcases size with _ | size
  · rw [List.mem_singleton.mp h]
  · obtain ⟨i, -, rfl⟩ := List.mem_map.mp h
    rfl

theorem width_of_mem_batches {size : Option Nat} {b : Table} (h : b ∈ t.batches size) :
    b.columns.length = t.columns.length := by
  rcases size with _ | size
  · rw [List.mem_singleton.mp h]
  · obtain ⟨i, -, rfl⟩ := List.mem_map.mp h
    exact List.length_map _

end Table

namespace Session

variable {config : ExecutorConfig} {shape : Shape} {t : Table} {count : Nat} {size : Option Nat}

/-- The rows of a batch in a shape. -/
def batchRows (shape : Shape) (b : Table) : Outcome (List Row) := do
  (← b.records).mapM shape.ofRecord

theorem shapeRows_eq (hshape : shape ≠ .tuple) (t : Table) : shapeRows config shape t =
    batchSize config.batchSize >>= fun size => ((t.batches size).mapM (batchRows shape)).map
      List.flatten := by
  cases shape with
  | tuple => exact absurd rfl hshape
  | map => exact rfl
  | record fields => exact rfl

/-- **The rows of a shape** are those of the table, whatever the size of a batch is. -/
theorem shapeRows_of_rows {rows : List (List Value)} (hrect : t.IsRectangular count)
    (hnames : t.names ≠ []) (h : t.rows = .ok rows) (hshape : shape ≠ .tuple)
    (hbatch : batchSize config.batchSize = .ok size) (hsize : size ≠ some 0) :
    shapeRows config shape t = (rows.map t.entries).mapM shape.ofRecord := by
  obtain ⟨parts, hparts, rfl⟩ := Table.rows_batches hrect hnames h hsize
  have heach : (t.batches size).mapM (batchRows shape) =
      (parts.map (List.map t.entries)).mapM fun records => records.mapM shape.ofRecord := by
    refine mapM_eq_of_forall₂ (List.forall₂_map_right_iff.mpr ?_)
    refine ((List.forall₂_and_left _ _).mpr ⟨fun b => Table.names_of_mem_batches,
      mapM_ok_iff.mp hparts⟩).imp fun b part hb => ?_
    have hentries : b.entries = t.entries := by
      unfold Table.entries
      rw [hb.1]
    rw [batchRows, Table.records_of_rows hb.2, hentries]
    rfl
  rw [shapeRows_eq hshape, hbatch, List.map_flatten, mapM_flatten]
  exact congrArg (Except.map List.flatten) heach

/-- A table with rows has columns. -/
theorem columns_ne_nil {rows : List (List Value)} (h : t.rows = .ok rows) (hne : rows ≠ []) :
    t.columns ≠ [] := by
  intro hnil
  rw [Table.rows, Table.values, Table.rowCount, hnil] at h
  cases h
  exact hne rfl

/-- If there are rows of a shape, then there are columns, and every cell can be read. -/
theorem rows_of_shapeRows {rows : List Row} (hrect : t.IsRectangular count)
    (h : shapeRows config shape t = .ok rows) (hne : rows ≠ []) (hshape : shape ≠ .tuple) :
    ∃ size, batchSize config.batchSize = .ok size ∧ size ≠ some 0 ∧ t.rows.isOk = true ∧
      t.names ≠ [] := by
  rw [shapeRows_eq hshape] at h
  obtain ⟨size, hbatch, h⟩ := bind_ok_iff.mp h
  have hsize : size ≠ some 0 := by
    rintro rfl
    rw [Table.batches, Nat.div_zero] at h
    cases h
    exact hne rfl
  rcases hparts : (t.batches size).mapM (batchRows shape) with e | parts <;> rw [hparts] at h <;>
    cases h
  have hread : ∀ {b : Table} {part : List Row}, batchRows shape b = .ok part →
      ∃ rows, b.rows = .ok rows ∧ rows.length = part.length := by
    intro b part hb
    obtain ⟨records, hrecords, hb⟩ := bind_ok_iff.mp hb
    obtain ⟨rows, hrows, hrecords⟩ := bind_ok_iff.mp hrecords
    cases hrecords
    exact ⟨rows, hrows, by rw [length_of_mapM_ok hb, List.length_map]⟩
  refine ⟨size, hbatch, hsize, Table.isOk_rows_of_batches hrect hsize fun b hb => ?_, ?_⟩
  · obtain ⟨part, -, hpart⟩ := exists_mem_of_forall₂ (mapM_ok_iff.mp hparts) b hb
    obtain ⟨rows, hrows, -⟩ := hread hpart
    rw [hrows]
    rfl
  · -- some batch has rows, so it has columns, and so has the table
    obtain ⟨part, hpart, hpartne⟩ := List.flatten_ne_nil_iff.mp hne
    obtain ⟨b, hb, hbatch⟩ := exists_mem_of_forall₂ (mapM_ok_iff.mp hparts).flip part hpart
    obtain ⟨rows, hrows, hlength⟩ := hread hbatch
    have hcolumns : b.columns.length ≠ 0 := by
      refine mt List.length_eq_zero_iff.mp (columns_ne_nil hrows fun hnil => hpartne ?_)
      rw [← List.length_eq_zero_iff, ← hlength, hnil, List.length_nil]
    rw [Table.width_of_mem_batches hb, hrect.width] at hcolumns
    exact mt List.length_eq_zero_iff.mpr hcolumns

end Session

end BoundSql
