import BoundSql.Grid
import BoundSql.Proofs.Outcome

/-! # The table of maps with texts for keys

Rows that are maps with texts for keys can be laid out as soon as every key of the first row has a
value in each of them, and these values can be written (`table_of_names`, `table_of_long`). The line of
the headers is laid out like any other (`headerLine_of_names`), and there is a width for every header
(`length_fit`). -/

namespace BoundSql.Grid

open Outcome

/-- A cell as text, however long; null has a name of its own. -/
def cellPlain : Value → String
  | .null => "NULL"
  | v => v.plain

theorem cellText_of_short {v : Value} (h : v.hasLongNumeral = false) :
    cellText v = .ok (cellPlain v) := by
  cases v with
  | null => rfl
  | _ => exact Value.shown_of_short h

theorem cellText_of_long {v : Value} (h : v.hasLongNumeral = true) :
    cellText v = .error (.unwritable Text.numeralLimit) := by
  cases v with
  | null => cases h
  | _ => exact Value.shown_of_long h

/-- The cells of a row as text. -/
def cells (r : List Value) : List (List Char) := r.map fun v => (cellPlain v).toList

theorem cellTexts_of_short {r : List Value} (h : ∀ v ∈ r, v.hasLongNumeral = false) :
    r.mapM (fun v => (cellText v).map String.toList) = .ok (cells r) := by
  refine mapM_ok fun v hv => ?_
  rw [cellText_of_short (h v hv)]
  rfl

theorem failsWith_cellText (v : Value) :
    FailsWith (· = .unwritable Text.numeralLimit) ((cellText v).map String.toList) := by
  rcases h : v.hasLongNumeral with _ | _
  · rw [cellText_of_short h]
    exact .ok _
  · rw [cellText_of_long h]
    exact .error rfl

/-- What a border shows of a column. -/
def dashes (width : Nat) : List Char := List.replicate (width + 2) '-'

/-- The widths of the columns: as wide as the names and all cells. -/
def fit (names : List String) (rows : List (List Value)) : List Nat :=
  (rows.map cells).foldl widen (names.map String.length)

theorem length_foldl_widen {width : Nat} : ∀ (rows : List (List (List Char))) (widths : List Nat),
    widths.length = width → (∀ r ∈ rows, r.length = width) →
    (rows.foldl widen widths).length = width
  | [], _, h, _ => h
  | r :: rows, widths, h, hrows => by
    obtain ⟨hr, hrows⟩ := List.forall_mem_cons.mp hrows
    refine length_foldl_widen rows (widen widths r) ?_ hrows
    rw [widen, List.length_map, List.length_zip, h, hr, Nat.min_self]

theorem length_fit {names : List String} {rows : List (List Value)}
    (h : ∀ r ∈ rows, r.length = names.length) : (fit names rows).length = names.length := by
  refine length_foldl_widen _ _ (List.length_map _) fun r hr => ?_
  obtain ⟨r, hr', rfl⟩ := List.mem_map.mp hr
  rw [cells, List.length_map, h r hr']

/-- The header is laid out like any other line. -/
theorem headerLine_of_names (names : List String) (widths : List Nat) :
    headerLine (names.map .text) widths = .ok (row (names.map String.toList) widths) := by
  have hcells : ((names.map Value.text).zip widths).mapM (fun p => headerCell p.1 p.2) =
      .ok ((names.zip widths).map fun p => leftJustify p.2 p.1.toList) := by
    rw [List.zip_map_left, mapM_ok_iff, List.forall₂_map_left_iff, List.forall₂_map_right_iff]
    exact List.forall₂_same.mpr fun p _ => rfl
  rw [headerLine, hcells, row, List.zip_map_left, List.map_map]
  change Except.ok _ = _
  rw [List.map_map]
  rfl

section
variable {first : Mapping} {ms : List Mapping} {names : List String} {rows : List (List Value)}
  (hkeys : first.map Prod.fst = names.map .text)
  (hvalues : (first :: ms).mapM (rowValues (names.map .text)) = .ok rows)
include hkeys hvalues

/-- **Maps with texts for keys** and with values that can be written are laid out as a table. -/
theorem table_of_names (hshort : ∀ r ∈ rows, ∀ v ∈ r, v.hasLongNumeral = false) :
    table first (first :: ms) =
      .ok ((lines (row (names.map String.toList) (fit names rows)) (fit names rows)
        (rows.map cells)).map String.ofList) := by
  have hcells : rows.mapM (fun r => r.mapM fun v => (cellText v).map String.toList) =
      .ok (rows.map cells) := mapM_ok fun r hr => cellTexts_of_short (hshort r hr)
  have hsize : (names.map Value.text).mapM Value.size = .ok (names.map String.length) := by
    rw [mapM_ok_iff, List.forall₂_map_left_iff, List.forall₂_map_right_iff]
    exact List.forall₂_same.mpr fun name _ => rfl
  rw [table, hkeys]
  exact bind_ok_iff.mpr ⟨rows, hvalues, bind_ok_iff.mpr ⟨_, hcells, bind_ok_iff.mpr ⟨_, hsize,
    bind_ok_iff.mpr ⟨_, headerLine_of_names names _, rfl⟩⟩⟩⟩

/-- A value that cannot be written keeps the whole table from being laid out. -/
theorem table_of_long {r : List Value} (hr : r ∈ rows) {v : Value} (hv : v ∈ r)
    (hlong : v.hasLongNumeral = true) :
    table first (first :: ms) = .error (.unwritable Text.numeralLimit) := by
  have hcell : ((cellText v).map String.toList).isOk = false := by
    rw [cellText_of_long hlong]
    rfl
  have hrow : r.mapM (fun v => (cellText v).map String.toList) =
      .error (.unwritable Text.numeralLimit) :=
    mapM_eq_error (fun v _ => failsWith_cellText v) hv hcell
  have hcells : rows.mapM (fun r => r.mapM fun v => (cellText v).map String.toList) =
      .error (.unwritable Text.numeralLimit) := by
    refine mapM_eq_error (fun r _ => FailsWith.mapM fun v _ => failsWith_cellText v) hr ?_
    rw [hrow]
    rfl
  rw [table, hkeys]
  exact bind_error_iff.mpr (.inr ⟨rows, hvalues, bind_error_iff.mpr (.inl hcells)⟩)

end

end BoundSql.Grid
