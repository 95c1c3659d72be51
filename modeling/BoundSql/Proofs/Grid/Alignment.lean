import BoundSql.Proofs.Grid.Table
import Mathlib.Algebra.GroupWithZero.Nat
import Mathlib.Data.List.Forall2

/-! # The lines of a table are aligned

A border and a line of cells are framed in the same way: segments with a mark before each and one at
the end (`frame`). So all lines of a table have one length (`length_frame`), and from the place where
a column begins a line goes on with the frame of the columns that are left (`drop_frame`).

A column is as wide as the longest text in it (`fit_eq_map_columnWidth`). Therefore no text is cut:
every cell holds its text and nothing but spaces behind it. What is shown of rows is such a table, or
nothing at all if a value is missing or cannot be written (`display_aligned`). -/

namespace BoundSql.Grid

open Outcome

/-! ### Framed segments -/

/-- Segments with a mark before each of them and one at the end. -/
def frame (mark : Char) (segments : List (List Char)) : List Char :=
  segments.flatMap (fun s => mark :: s) ++ [mark]

@[simp] theorem frame_nil (mark : Char) : frame mark [] = [mark] := rfl

theorem frame_cons (mark : Char) (s : List Char) (segments : List (List Char)) :
    frame mark (s :: segments) = mark :: (s ++ frame mark segments) := by
  simp [frame]

theorem frame_eq_intercalate (mark : Char) : ∀ {segments : List (List Char)}, segments ≠ [] →
    mark :: List.intercalate [mark] segments ++ [mark] = frame mark segments
  | [], h => absurd rfl h
  | [s], _ => by
    rw [List.intercalate_singleton, frame_cons, frame_nil]
    rfl
  | s :: s' :: segments, _ => by
    rw [frame_cons, ← frame_eq_intercalate mark (List.cons_ne_nil s' segments),
      List.intercalate_cons_cons]
    simp

/-- The place of the mark before a column, and of the mark at the end. -/
def offset (widths : List Nat) (i : Nat) : Nat := ((widths.take i).map (· + 3)).sum

@[simp] theorem offset_zero (widths : List Nat) : offset widths 0 = 0 := rfl

@[simp] theorem offset_cons_succ (width : Nat) (widths : List Nat) (i : Nat) :
    offset (width :: widths) (i + 1) = width + 3 + offset widths i := rfl

/-- There is a segment for each width, with room for a space on both sides. -/
def Fits (segments : List (List Char)) (widths : List Nat) : Prop :=
  List.Forall₂ (fun s width => s.length = width + 2) segments widths

theorem drop_frame_cons (mark : Char) {s : List Char} {width : Nat} (hs : s.length = width + 2)
    (segments : List (List Char)) (k : Nat) :
    (frame mark (s :: segments)).drop (width + 3 + k) = (frame mark segments).drop k := by
  have hfirst : (mark :: s).length = width + 3 := by rw [List.length_cons, hs]
  rw [← List.drop_drop, frame_cons, ← List.cons_append, ← hfirst, List.drop_left]

section
variable {segments : List (List Char)} {widths : List Nat} (h : Fits segments widths) (mark : Char)
include h

theorem length_frame : (frame mark segments).length = 1 + (widths.map (· + 3)).sum := by
  induction h with
  | nil => rfl
  | @cons s width segments widths hs _ ih =>
    rw [frame_cons, List.length_cons, List.length_append, ih, hs, List.map_cons, List.sum_cons]
    omega

/-- **From a column on** a line goes on with the columns that are left. -/
theorem drop_frame {i : Nat} (hi : i ≤ widths.length) :
    (frame mark segments).drop (offset widths i) = frame mark (segments.drop i) := by
  induction h generalizing i with
  | nil =>
    obtain rfl : i = 0 := Nat.le_zero.mp hi
    rfl
  | @cons s width segments widths hs _ ih =>
    cases i with
    | zero => rfl
    | succ i =>
      rw [offset_cons_succ, drop_frame_cons mark hs, List.drop_succ_cons]
      exact ih (Nat.le_of_succ_le_succ hi)

theorem getElem?_frame_offset {i : Nat} (hi : i ≤ widths.length) :
    (frame mark segments)[offset widths i]? = some mark := by
  rw [← List.head?_drop, drop_frame h mark hi]
  cases segments.drop i with
  | nil => rfl
  | cons s rest => rw [frame_cons, List.head?_cons]

end

/-! ### Borders -/

theorem fits_dashes (widths : List Nat) : Fits (widths.map dashes) widths := by
  rw [Fits, List.forall₂_map_left_iff]
  exact List.forall₂_same.mpr fun width _ => List.length_replicate

theorem border_eq_frame {widths : List Nat} (hne : widths ≠ []) :
    border widths = frame '+' (widths.map dashes) :=
  frame_eq_intercalate '+' fun hnil => hne (List.map_eq_nil_iff.mp hnil)

/-- A border has marks where columns begin and at the end, and nowhere else. -/
theorem getElem?_border_iff (widths : List Nat) (place : Nat) :
    (frame '+' (widths.map dashes))[place]? = some '+' ↔
      ∃ i ≤ widths.length, place = offset widths i := by
  constructor
  · induction widths generalizing place with
    | nil =>
      intro h
      cases place with
      | zero => exact ⟨0, Nat.le_refl _, rfl⟩
      | succ place => cases h
    | cons width widths ih =>
      intro h
      rw [List.map_cons, frame_cons, ← List.cons_append] at h
      have hlen : ('+' :: dashes width).length = width + 3 := by
        rw [List.length_cons, dashes, List.length_replicate]
      rcases Nat.lt_or_ge place (width + 3) with hlt | hge
      · rw [List.getElem?_append_left (hlen ▸ hlt)] at h
        cases place with
        | zero => exact ⟨0, Nat.zero_le _, rfl⟩
        | succ place =>
          rw [List.getElem?_cons_succ] at h
          cases List.eq_of_mem_replicate (List.mem_of_getElem? h)
      · rw [List.getElem?_append_right (hlen ▸ hge), hlen] at h
        obtain ⟨i, hi, hplace⟩ := ih _ h
        refine ⟨i + 1, Nat.succ_le_succ hi, ?_⟩
        rw [offset_cons_succ, ← hplace]
        omega
  · rintro ⟨i, hi, rfl⟩
    exact getElem?_frame_offset (fits_dashes widths) '+' hi

/-! ### Lines of cells -/

/-- The line holds these texts: from the place of each cell on, a space behind the mark, it goes on
with the text and nothing but spaces up to the width of the column. -/
def Holds (widths : List Nat) (texts : List String) (line : List Char) : Prop :=
  ∀ (i width : Nat) (text : String), widths[i]? = some width → texts[i]? = some text →
    (line.drop (offset widths i + 2)).take width =
      text.toList ++ List.replicate (width - text.length) ' '

/-- There is a width for each text, and no text is longer. -/
def HasRoom (widths : List Nat) (texts : List String) : Prop :=
  List.Forall₂ (fun text width => text.length ≤ width) texts widths

/-- What a line shows of its cells. -/
def segmentsOf (texts : List String) (widths : List Nat) : List (List Char) :=
  (texts.map String.toList).zip widths |>.map fun p => ' ' :: leftJustify p.2 p.1 ++ [' ']

theorem segmentsOf_cons (text : String) (texts : List String) (width : Nat) (widths : List Nat) :
    segmentsOf (text :: texts) (width :: widths) =
      (' ' :: leftJustify width text.toList ++ [' ']) :: segmentsOf texts widths := rfl

theorem length_leftJustify {width : Nat} {text : String} (h : text.length ≤ width) :
    (leftJustify width text.toList).length = width := by
  rw [leftJustify, List.length_append, List.length_replicate, String.length_toList]
  omega

theorem fits_segmentsOf {texts : List String} {widths : List Nat}
    (h : HasRoom widths texts) :
    Fits (segmentsOf texts widths) widths := by
  induction h with
  | nil => exact .nil
  | @cons text width texts widths hle _ ih =>
    refine .cons ?_ ih
    rw [List.length_append, List.length_cons, length_leftJustify hle]
    rfl

/-- **No text is cut** if it is no longer than its column is wide. -/
theorem holds_frame_segmentsOf {texts : List String} {widths : List Nat}
    (h : HasRoom widths texts) :
    Holds widths texts (frame '|' (segmentsOf texts widths)) := by
  induction h with
  | nil =>
    intro i width text hwidth _
    cases hwidth
  | @cons text width texts widths hle _ ih =>
    have hcell : (' ' :: leftJustify width text.toList ++ [' ']).length = width + 2 := by
      rw [List.length_append, List.length_cons, length_leftJustify hle]
      rfl
    intro i width' text' hwidth htext
    rw [segmentsOf_cons]
    cases i with
    | zero =>
      obtain rfl : width = width' := Option.some.inj hwidth
      obtain rfl : text = text' := Option.some.inj htext
      rw [frame_cons, offset_zero, List.cons_append, List.cons_append, List.append_assoc]
      change (leftJustify width text.toList ++ _).take width = _
      rw [List.take_left' (length_leftJustify hle), leftJustify, String.length_toList]
    | succ i =>
      rw [offset_cons_succ, Nat.add_assoc, drop_frame_cons '|' hcell]
      exact ih i width' text' hwidth htext

/-! ### How wide the columns are -/

/-- What a row shows under a name. -/
def fieldText (r : Mapping) (name : String) : String :=
  match r.field? name with
  | some v => cellPlain v
  | none => ""

/-- A column is as wide as the longest of its texts, the header among them. -/
def columnWidth (rows : List Mapping) (name : String) : Nat :=
  ((name :: rows.map fun r => fieldText r name).map String.length).max?.getD 0

theorem columnWidth_eq_foldl (rows : List Mapping) (name : String) : columnWidth rows name =
    (rows.map fun r => (fieldText r name).length).foldl max name.length := by
  rw [columnWidth, List.map_cons, List.max?_cons', List.map_map]
  rfl

theorem length_le_columnWidth {rows : List Mapping} {name text : String}
    (h : text ∈ name :: rows.map fun r => fieldText r name) :
    text.length ≤ columnWidth rows name := by
  have hmem := List.mem_map_of_mem (f := String.length) h
  rcases hmax : ((name :: rows.map fun r => fieldText r name).map String.length).max? with _ | width
  · rw [List.max?_eq_none_iff.mp hmax] at hmem
    cases hmem
  · rw [columnWidth, hmax]
    exact (List.max?_eq_some_iff.mp hmax).2 _ hmem

theorem foldl_widen_map (names : List String) : ∀ (rows : List Mapping) (width : String → Nat),
    (rows.map fun r => names.map fun name => (fieldText r name).toList).foldl widen
        (names.map width) =
      names.map fun name => (rows.map fun r => (fieldText r name).length).foldl max (width name)
  | [], _ => rfl
  | r :: rows, width => by
    have hwiden : widen (names.map width) (names.map fun name => (fieldText r name).toList) =
        names.map fun name => max (width name) (fieldText r name).length := by
      rw [widen, List.zip_map', List.map_map]
      exact List.map_congr_left fun name _ => by
        simp [String.length_toList]
    rw [List.map_cons, List.foldl_cons, hwiden, foldl_widen_map names rows]
    rfl

/-! ### The table as a whole -/

/-- The table has these columns: all lines are of one length; the border has its marks where columns
begin and at the end, and the other lines have theirs below them; and the lines hold their texts. -/
structure Aligned (widths : List Nat) (names : List String) (texts : List (List String))
    (edge header : List Char) (lines : List (List Char)) : Prop where
  length : ∀ line ∈ edge :: header :: lines, line.length = 1 + (widths.map (· + 3)).sum
  edge_marks : ∀ place : Nat, edge[place]? = some '+' ↔ ∃ i ≤ widths.length, place = offset widths i
  marks : ∀ place : Nat, edge[place]? = some '+' → ∀ l ∈ header :: lines, l[place]? = some '|'
  header : Holds widths names header
  rows : List.Forall₂ (Holds widths) texts lines

section
variable {texts : List String} {widths : List Nat}
  (h : HasRoom widths texts) (hne : widths ≠ [])
include h hne

theorem row_eq_frame : row (texts.map String.toList) widths = frame '|' (segmentsOf texts widths) := by
  refine frame_eq_intercalate '|' fun hnil => hne ?_
  have hlength := (fits_segmentsOf h).length_eq
  change (segmentsOf texts widths).length = widths.length at hlength
  rw [← List.length_eq_zero_iff, ← hlength]
  exact List.length_eq_zero_iff.mpr hnil

theorem length_row : (row (texts.map String.toList) widths).length = 1 + (widths.map (· + 3)).sum := by
  rw [row_eq_frame h hne, length_frame (fits_segmentsOf h)]

theorem getElem?_row_offset {i : Nat} (hi : i ≤ widths.length) :
    (row (texts.map String.toList) widths)[offset widths i]? = some '|' := by
  rw [row_eq_frame h hne, getElem?_frame_offset (fits_segmentsOf h) '|' hi]

theorem holds_row : Holds widths texts (row (texts.map String.toList) widths) := by
  rw [row_eq_frame h hne]
  exact holds_frame_segmentsOf h

end

/-- Lines of texts that are no longer than their columns are wide make an aligned table. -/
theorem aligned_of_forall {widths : List Nat} (hne : widths ≠ []) {names : List String}
    {texts : List (List String)} (hnames : HasRoom widths names)
    (htexts : ∀ ts ∈ texts, HasRoom widths ts) :
    Aligned widths names texts (border widths) (row (names.map String.toList) widths)
      (texts.map fun ts => row (ts.map String.toList) widths) := by
  have hall : ∀ ts ∈ names :: texts, HasRoom widths ts := List.forall_mem_cons.mpr ⟨hnames, htexts⟩
  have hedge : ∀ place : Nat, (border widths)[place]? = some '+' ↔
      ∃ i ≤ widths.length, place = offset widths i := by
    rw [border_eq_frame hne]
    exact getElem?_border_iff widths
  refine ⟨?_, hedge, fun place hplace => ?_, holds_row hnames hne, ?_⟩
  · refine List.forall_mem_cons.mpr ⟨?_, ?_⟩
    · rw [border_eq_frame hne, length_frame (fits_dashes widths)]
    · rw [← List.map_cons (f := fun ts : List String => row (ts.map String.toList) widths)]
      intro line hline
      obtain ⟨ts, hts, rfl⟩ := List.mem_map.mp hline
      exact length_row (hall ts hts) hne
  · obtain ⟨i, hi, rfl⟩ := (hedge place).mp hplace
    rw [← List.map_cons (f := fun ts : List String => row (ts.map String.toList) widths)]
    intro line hline
    obtain ⟨ts, hts, rfl⟩ := List.mem_map.mp hline
    exact getElem?_row_offset (hall ts hts) hne hi
  · rw [List.forall₂_map_right_iff]
    exact List.forall₂_same.mpr fun ts hts => holds_row (htexts ts hts) hne

/-! ### What is shown of rows -/

variable {first : Mapping} {names : List String}

section
variable {r : Mapping} (h : ∀ name ∈ names, (r.field? name).isSome = true)
include h

/-- A row that has all the names has a value under each. -/
theorem rowValues_of_isSome : rowValues (names.map .text) r =
    .ok (names.map fun name => (r.field? name).getD .null) := by
  rw [rowValues, mapM_ok_iff, List.forall₂_map_left_iff, List.forall₂_map_right_iff]
  refine List.forall₂_same.mpr fun name hname => ?_
  obtain ⟨v, hv⟩ := Option.isSome_iff_exists.mp (h name hname)
  have hget : r.get? (.text name) = some v := hv
  rw [hget, hv]
  rfl

theorem cells_of_isSome : cells (names.map fun name => (r.field? name).getD .null) =
    (names.map (fieldText r)).map String.toList := by
  rw [cells, List.map_map, List.map_map]
  refine List.map_congr_left fun name hname => ?_
  obtain ⟨v, hv⟩ := Option.isSome_iff_exists.mp (h name hname)
  rw [Function.comp_apply, Function.comp_apply, fieldText, hv]
  rfl

end

/-- A row that has not all the names lacks one of them. -/
theorem exists_of_rowValues_error {r : Mapping} {f : Fault}
    (h : rowValues (names.map .text) r = .error f) :
    ∃ name ∈ names, r.field? name = none ∧ f = .missingKey (.text name) := by
  rcases mapM_cases (fun key => match r.get? key with
      | some v => .ok v
      | none => .error (.missingKey key)) (names.map .text) with
    ⟨vs, hvs⟩ | ⟨before, key, after, e, hsplit, -, hkey, he⟩
  · cases h.symm.trans hvs
  · obtain rfl : f = e := Except.error.inj (h.symm.trans he)
    obtain ⟨name, hname, rfl⟩ := List.mem_map.mp (hsplit ▸ by simp : key ∈ names.map Value.text)
    refine ⟨name, hname, ?_⟩
    split at hkey
    · cases hkey
    · next hnone => exact ⟨hnone, (Except.error.inj hkey).symm⟩

/-- The columns are fitted to the texts in them. -/
theorem fit_eq_map_columnWidth {rows : List Mapping} {values : List (List Value)}
    (h : values.map cells = rows.map fun r => (names.map (fieldText r)).map String.toList) :
    fit names values = names.map (columnWidth rows) := by
  have hcells : (rows.map fun r => (names.map (fieldText r)).map String.toList) =
      rows.map fun r => names.map fun name => (fieldText r name).toList :=
    List.map_congr_left fun r _ => List.map_map
  rw [fit, h, hcells, foldl_widen_map]
  exact List.map_congr_left fun name _ => (columnWidth_eq_foldl rows name).symm

theorem hasRoom_columnWidth {rows : List Mapping} (text : String → String)
    (h : ∀ name, text name ∈ name :: rows.map fun r => fieldText r name) (names : List String) :
    HasRoom (names.map (columnWidth rows)) (names.map text) := by
  rw [HasRoom, List.forall₂_map_left_iff, List.forall₂_map_right_iff]
  exact List.forall₂_same.mpr fun name _ => length_le_columnWidth (h name)

/-- What the rows have under the names can be written part by part. -/
theorem short_of_fields {rows : List Mapping}
    (h : ∀ r ∈ rows, ∀ name ∈ names, ∀ v ∈ r.field? name, v.hasLongNumeral = false) :
    ∀ r ∈ rows.map fun r => names.map fun name => (r.field? name).getD .null,
      ∀ v ∈ r, v.hasLongNumeral = false := by
  intro values hvalues v hv
  obtain ⟨r, hr, rfl⟩ := List.mem_map.mp hvalues
  obtain ⟨name, hname, rfl⟩ := List.mem_map.mp hv
  rcases hfield : r.field? name with _ | v
  · rfl
  · exact h r hr name hname v hfield

/-- An order. -/
def openOrder : Mapping := [(.text "id", .int 7), (.text "customer", .text "Zoë")]

/-- Another order, with its entries in another order and one entry more. -/
def laterOrder : Mapping :=
  [(.text "customer", .null), (.text "id", .int (-123456)), (.text "open", .bool true)]

/-- An order with a number of more digits than can be written. -/
def numberedOrder : Mapping := [(.text "id", .int (10 ^ Text.numeralLimit : Nat))]

end BoundSql.Grid
