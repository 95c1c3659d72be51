import BoundSql.Proofs.Result.Rows
import Mathlib.Algebra.Group.Int.Defs
import Mathlib.Algebra.Group.Nat.Defs

/-! # Columns that keep their values

A column is kept if each of its values is read back as it was (`ColumnType.IsKept`); columns of integers
of 64 bits and columns of texts are, with nulls among them or not (`isKept_of_integers`,
`isKept_of_texts`).

If all columns are kept, then the table made of rows gives back the rows (`Table.rows_of_areKept`). In
a shape they are the same rows whatever the size of a batch is: as maps from the names
(`Session.shapeRows_map_of_areKept`), and as records whose fields are the names
(`Session.shapeRows_record_of_areKept`). -/

namespace BoundSql

open Outcome

/-! ### Columns -/

namespace ColumnType

/-- The values of a column are read back as they were. -/
def IsKept (vs : List Value) : Prop := column vs = .ok (vs.map .ok)

theorem note_note (k : CellKind) (s : Seen) : (s.note k).note k = s.note k := by
  have hhas : (s.note k).has k = true := by
    unfold Seen.has Seen.note
    dsimp only
    split
    · next h => exact h
    · exact List.contains_iff_mem.mpr (List.mem_append_right _ (List.mem_singleton_self k))
  rw [Seen.note, if_pos hhas]
  rfl

/-- Among values of one kind nothing else is seen. -/
theorem visitAll_of_kind {k : CellKind} : ∀ {vs : List Value},
    (∀ v ∈ vs, v = .null ∨ v.cellKind? = some k ∧ ∀ s : Seen, s.visit v = .ok (s.note k)) →
    ∀ s : Seen, (∀ v ∈ vs, v = .null) ∧ s.visitAll vs = .ok s ∨ s.visitAll vs = .ok (s.note k)
  | [], _, s => Or.inl ⟨nofun, rfl⟩
  | v :: vs, h, s => by
    obtain ⟨hv, hvs⟩ := List.forall_mem_cons.mp h
    rcases hv with rfl | ⟨hkind, hvisit⟩
    · have hnull : s.visitAll (.null :: vs) = s.visitAll vs := rfl
      rw [hnull]
      exact (visitAll_of_kind hvs s).imp_left fun ⟨hall, hs⟩ =>
        ⟨List.forall_mem_cons.mpr ⟨rfl, hall⟩, hs⟩
    · right
      have hcons : s.visitAll (v :: vs) =
          if k.settles then .ok (s.note k) else (s.note k).visitAll vs := by
        rw [Seen.visitAll, hvisit s, hkind]
        rfl
      rw [hcons]
      rcases k.settles with _ | _
      · rcases visitAll_of_kind hvs (s.note k) with ⟨-, hs⟩ | hs
        · exact hs
        · rw [note_note] at hs
          exact hs
      · rfl

/-- Values of one kind are kept in the type of their kind. -/
theorem isKept_of_kind {vs : List Value} {k : CellKind} {t : ColumnType}
    (htype : (Seen.nothing.note k).type = .ok t) (hcheck : t.check = .ok ⟨⟩)
    (hsettled : (t.keyed vs).settleText vs = t)
    (h : ∀ v ∈ vs, v = .null ∨ v.cellKind? = some k ∧ ∀ s : Seen, s.visit v = .ok (s.note k))
    (hconvert : ∀ v ∈ vs, t.convert v = .ok (.ok v)) : IsKept vs := by
  rcases visitAll_of_kind h Seen.nothing with ⟨hnull, hseen⟩ | hseen
  · have hvalues : ofValues vs = .ok .null := by
      rw [ofValues, hseen]
      rfl
    have hnulls : vs.mapM (convert .null) = .ok (vs.map .ok) := mapM_ok fun v hv => by
      rw [hnull v hv]
      rfl
    rw [IsKept, column, hvalues]
    exact hnulls
  · have hvalues : ofValues vs = .ok t := by
      rw [ofValues, hseen]
      exact htype
    have hcells : vs.mapM t.convert = .ok (vs.map .ok) := mapM_ok hconvert
    rw [IsKept, column, hvalues]
    change (t.check >>= fun _ => vs.mapM ((t.keyed vs).settleText vs).convert) = _
    rw [hcheck, hsettled]
    exact hcells

/-- The value is null or an integer of 64 bits. -/
def IsInteger (v : Value) : Prop := v = .null ∨ ∃ n : Int, v = .int n ∧ n.natAbs < 2 ^ 63

/-- The value is null or a text. -/
def IsText (v : Value) : Prop := v = .null ∨ v.isText = true

theorem isKept_of_integers {vs : List Value} (h : ∀ v ∈ vs, IsInteger v) : IsKept vs := by
  refine isKept_of_kind (k := .int) (t := .int) rfl rfl rfl (fun v hv => ?_) fun v hv => ?_
  · exact (h v hv).imp_right fun ⟨n, hn, _⟩ => by rw [hn]; exact ⟨rfl, fun _ => rfl⟩
  · rcases h v hv with rfl | ⟨n, rfl, hn⟩
    · rfl
    · have hwithin : within intRange n = true := by
        have hpow : Nat.pow 2 63 = 2 ^ 63 := rfl
        rw [within, intRange, Bool.and_eq_true, decide_eq_true_eq, decide_eq_true_eq, hpow]
        omega
      have hint : toInt (.int n) = .ok n := by
        change (if within intRange n then _ else _) = _
        rw [hwithin]
        rfl
      change ((toInt (.int n)).map fun n => Except.ok (Value.int n)) = _
      rw [hint]
      rfl

theorem isKept_of_texts {vs : List Value} (h : ∀ v ∈ vs, IsText v) : IsKept vs := by
  have htext : ∀ v ∈ vs, v = .null ∨ ∃ s, v = .text s := fun v hv =>
    (h v hv).imp_right fun hv => ⟨_, Value.eq_text_plain hv⟩
  have hsettled : (keyed vs .text).settleText vs = .text := by
    have hnone : (vs.any fun v => v.cellKind? == some .bytes) = false := by
      refine List.any_eq_false.mpr fun v hv => ?_
      rcases htext v hv with rfl | ⟨s, rfl⟩ <;> exact Bool.false_ne_true
    change (if vs.any fun v => v.cellKind? == some .bytes then _ else _) = _
    rw [hnone]
    rfl
  refine isKept_of_kind (k := .text) (t := .text) rfl rfl hsettled (fun v hv => ?_) fun v hv => ?_
  · exact (htext v hv).imp_right fun ⟨s, hs⟩ => by rw [hs]; exact ⟨rfl, fun _ => rfl⟩
  · rcases htext v hv with rfl | ⟨s, rfl⟩ <;> rfl

end ColumnType

/-! ### The table of kept columns -/

namespace Table

variable {names : List String} {rows : List (List Value)}

/-- The values of the rows at a place. -/
def valuesAt (rows : List (List Value)) (i : Nat) : List Value := rows.map fun r => r.getD i .null

/-- The columns of rows of one length, side by side, are the rows. -/
theorem rowsOf_valuesAt : ∀ (width : Nat) {rows : List (List Value)}, (∀ r ∈ rows, r.length = width) →
    rowsOf rows.length ((List.range width).map (valuesAt rows)) = rows
  | 0, rows, h => by
    have hnil : rows = List.replicate rows.length [] :=
      List.eq_replicate_of_mem fun r hr => List.length_eq_zero_iff.mp (h r hr)
    exact hnil.symm
  | width + 1, rows, h => by
    have htails : ∀ r ∈ rows.map List.tail, r.length = width := by
      intro r hr
      obtain ⟨r, hmem, rfl⟩ := List.mem_map.mp hr
      rw [List.length_tail, h r hmem]
      rfl
    have hshift : ((List.range width).map fun i => valuesAt rows (i + 1)) =
        (List.range width).map (valuesAt (rows.map List.tail)) := by
      refine List.map_congr_left fun i _ => ?_
      rw [valuesAt, valuesAt, List.map_map]
      refine List.map_congr_left fun r _ => ?_
      cases r <;> rfl
    have hrest := rowsOf_valuesAt width htails
    rw [List.length_map] at hrest
    rw [List.range_succ_eq_map, List.map_cons, List.map_map, rowsOf_cons]
    change List.zipWith List.cons (valuesAt rows 0)
      (rowsOf rows.length ((List.range width).map fun i => valuesAt rows (i + 1))) = rows
    rw [hshift, hrest, valuesAt, List.zipWith_map, List.zipWith_self]
    refine (List.map_congr_left fun r hr => ?_).trans (List.map_id rows)
    cases r with
    | nil => cases h [] hr
    | cons => rfl

/-- The rows have a value for each of the names, which are distinct, and every column is of integers or
of texts, or is kept for another reason. -/
structure AreKept (names : List String) (rows : List (List Value)) : Prop where
  names_ne_nil : names ≠ []
  nodup : names.Nodup
  width : ∀ r ∈ rows, r.length = names.length
  columns : ∀ i < names.length, (∀ v ∈ valuesAt rows i, ColumnType.IsInteger v) ∨
    (∀ v ∈ valuesAt rows i, ColumnType.IsText v) ∨ ColumnType.IsKept (valuesAt rows i)

theorem AreKept.isKept (h : AreKept names rows) {i : Nat} (hi : i < names.length) :
    ColumnType.IsKept (valuesAt rows i) := by
  obtain hintegers | htexts | hkept := h.columns i hi
  · exact ColumnType.isKept_of_integers hintegers
  · exact ColumnType.isKept_of_texts htexts
  · exact hkept

section
variable (h : AreKept names rows)
include h

theorem ofRows_of_areKept : ofRows names rows =
    .ok ⟨names, (List.range names.length).map fun i => (valuesAt rows i).map .ok⟩ := by
  have hcell : ∀ i < names.length, ∀ r ∈ rows, cell i r = .ok (r.getD i .null) := by
    intro i hi r hr
    rw [cell, List.getD_eq_getElem?_getD, List.getElem?_eq_getElem (h.width r hr ▸ hi)]
    rfl
  have hcheck : checkRows names.length rows = .ok PUnit.unit := by
    refine forM_ok fun r hr => forM_ok fun i hi => ?_
    rw [hcell i (List.mem_range.mp hi) r hr]
    rfl
  have hvalues : (List.range names.length).mapM (fun i => rows.mapM (cell i)) =
      .ok ((List.range names.length).map (valuesAt rows)) :=
    mapM_ok fun i hi => mapM_ok (hcell i (List.mem_range.mp hi))
  have hcolumns : ((List.range names.length).map (valuesAt rows)).mapM ColumnType.column =
      .ok (((List.range names.length).map (valuesAt rows)).map (List.map .ok)) := by
    refine mapM_ok fun vs hvs => ?_
    obtain ⟨i, hi, rfl⟩ := List.mem_map.mp hvs
    exact h.isKept (List.mem_range.mp hi)
  refine bind_ok_iff.mpr ⟨PUnit.unit, hcheck, bind_ok_iff.mpr ⟨_, hvalues, ?_⟩⟩
  rw [hcolumns, List.map_map]
  rfl

/-- The table gives back the rows. -/
theorem rows_of_areKept {t : Table} (ht : ofRows names rows = .ok t) : t.rows = .ok rows := by
  obtain ⟨hnames, hrect⟩ := isRectangular_ofRows ht
  have hcount : t.rowCount = rows.length := hrect.rowCount_eq (hnames ▸ h.names_ne_nil)
  have hvalues : t.values = .ok ((List.range names.length).map (valuesAt rows)) := by
    rw [values_eq_ok_iff, List.map_map]
    cases (ofRows_of_areKept h).symm.trans ht
    rfl
  rw [Table.rows, hvalues, hcount]
  exact congrArg Except.ok (rowsOf_valuesAt names.length h.width)

theorem entries_of_areKept {t : Table} (ht : t.names = names) {r : List Value} (hr : r ∈ rows) :
    t.entries r = Mapping.named (names.zip r) := by
  rw [entries, ht, Mapping.ofNames_of_nodup]
  rw [List.map_fst_zip (h.width r hr).ge]
  exact h.nodup

end

end Table

/-! ### Records -/

/-- The value at a text is the first one with this name. -/
theorem Mapping.get?_named (f : String) : ∀ es : List (String × Value),
    get? (named es) (.text f) = es.lookup f
  | [] => rfl
  | (name, v) :: es => by
    have hrest := get?_named f es
    rw [named, List.map_cons, get?_cons, List.lookup_cons]
    by_cases hname : name = f
    · subst hname
      rw [if_pos (Value.eq_text_iff.mpr rfl), beq_self_eq_true]
    · have hne : (f == name) = false := beq_false_of_ne (Ne.symm hname)
      rw [if_neg fun heq => hname (Value.text.inj (Value.eq_text_iff.mp heq)), hne]
      exact hrest

namespace Shape

theorem unexpected?_named {fields : List String} : ∀ {es : List (String × Value)},
    (∀ e ∈ es, e.1 ∈ fields) → unexpected? fields (Mapping.named es) = none
  | [], _ => rfl
  | (name, v) :: es, h => by
    obtain ⟨hname, hes⟩ := List.forall_mem_cons.mp h
    change (if name ∈ fields then unexpected? fields (Mapping.named es) else _) = none
    rw [if_pos hname, unexpected?_named hes]

/-- A record with exactly the fields that there are values for. -/
theorem ofRecord_named {fields names : List String} {r : List Value} (hfields : fields.Perm names)
    (hr : r.length = names.length) : ofRecord (.record fields) (Mapping.named (names.zip r)) =
      .ok (.record (fields.map fun f => (f, ((names.zip r).lookup f).getD .null))) := by
  have hexpected : unexpected? fields (Mapping.named (names.zip r)) = none :=
    unexpected?_named fun e he => hfields.mem_iff.mpr (List.of_mem_zip he).1
  have hmissing : fields.filter (fun f => (Mapping.field? (Mapping.named (names.zip r)) f).isNone) =
      [] := by
    refine List.filter_eq_nil_iff.mpr fun f hf => ?_
    have hkey : Value.text f ∈ (Mapping.named (names.zip r)).map Prod.fst := by
      rw [Mapping.keys_named, List.map_fst_zip hr.ge]
      exact List.mem_map_of_mem (hfields.mem_iff.mp hf)
    have hsome := Mapping.isSome_get?_text.mpr hkey
    rw [Mapping.field?, Option.isNone_eq_false_iff.mpr hsome]
    exact Bool.false_ne_true
  rw [ofRecord, hexpected]
  dsimp only
  rw [hmissing]
  simp only [Mapping.field?, Mapping.get?_named]

end Shape

/-! ### Rows in shapes -/

namespace Session

variable {config : ExecutorConfig} {names : List String} {rows : List (List Value)} {t : Table}

/-- The size of a batch is a number from one on that fits 64 bits with a sign, or there is none. -/
def IsBatchSize (v : Value) : Prop := v = .null ∨ ∃ n : Int, v = .int n ∧ 1 ≤ n ∧ n < 2 ^ 63

theorem batchSize_int_of_pos {n : Int} (h : 1 ≤ n) : batchSize (.int n) =
    if 2 ^ 63 ≤ n then .error .longInteger else .ok (some n.toNat) := by
  change (if n ≤ 0 then _ else batchSize.wholeSize (.int n)) = _
  rw [if_neg (by omega)]
  rfl

theorem batchSize_of_isBatchSize {v : Value} (h : IsBatchSize v) :
    ∃ size, batchSize v = .ok size ∧ size ≠ some 0 := by
  rcases h with rfl | ⟨n, rfl, hpos, hn⟩
  · exact ⟨none, rfl, nofun⟩
  · refine ⟨some n.toNat, ?_, fun hzero => ?_⟩
    · rw [batchSize_int_of_pos hpos, if_neg (Int.not_le.mpr hn)]
    · have := Option.some.inj hzero
      omega

/-- The map from the names to the values of a row. -/
def mapOf (names : List String) (r : List Value) : Row := .map (Mapping.named (names.zip r))

/-- The record of the values of a row under the names of fields. -/
def recordOf (fields names : List String) (r : List Value) : Row :=
  .record (fields.map fun f => (f, ((names.zip r).lookup f).getD .null))

section
variable (h : Table.AreKept names rows) (ht : Table.ofRows names rows = .ok t)
include h ht

theorem shapeRows_tuple_of_areKept : shapeRows config .tuple t = .ok (rows.map .tuple) := by
  rw [shapeRows, Table.rows_of_areKept h ht]
  rfl

/-- In batches of any size the rows are shaped one by one. -/
theorem shapeRows_of_areKept {shape : Shape} {row : List Value → Row} (hshape : shape ≠ .tuple)
    (hsize : IsBatchSize config.batchSize)
    (hrow : ∀ r ∈ rows, shape.ofRecord (Mapping.named (names.zip r)) = .ok (row r)) :
    shapeRows config shape t = .ok (rows.map row) := by
  obtain ⟨hnames, hrect⟩ := Table.isRectangular_ofRows ht
  obtain ⟨size, hbatch, hpos⟩ := batchSize_of_isBatchSize hsize
  have hrows := Table.rows_of_areKept h ht
  rw [shapeRows_of_rows hrect (hnames ▸ h.names_ne_nil) hrows hshape hbatch hpos]
  refine mapM_ok_iff.mpr (List.forall₂_map_left_iff.mpr (List.forall₂_map_right_iff.mpr ?_))
  refine List.forall₂_same.mpr fun r hr => ?_
  rw [Table.entries_of_areKept h hnames hr]
  exact hrow r hr

theorem shapeRows_map_of_areKept (hsize : IsBatchSize config.batchSize) :
    shapeRows config .map t = .ok (rows.map (mapOf names)) :=
  shapeRows_of_areKept h ht nofun hsize fun _ _ => rfl

theorem shapeRows_record_of_areKept {fields : List String} (hfields : fields.Perm names)
    (hsize : IsBatchSize config.batchSize) :
    shapeRows config (.record fields) t = .ok (rows.map (recordOf fields names)) :=
  shapeRows_of_areKept h ht nofun hsize fun r hr => Shape.ofRecord_named hfields (h.width r hr)

end

/-- No batch can be so large. -/
theorem shapeRows_of_long {shape : Shape} (hshape : shape ≠ .tuple) {n : Int}
    (hconfig : config.batchSize = .int n) (hn : 2 ^ 63 ≤ n) (t : Table) :
    shapeRows config shape t = .error .longInteger := by
  rw [shapeRows_eq hshape, hconfig, batchSize_int_of_pos (by omega), if_pos hn]
  rfl

end Session

end BoundSql
