import BoundSql.Proofs.CommandLine.AllOrNothing
import BoundSql.Proofs.Grid.Table
import BoundSql.Proofs.Result.Written
import BoundSql.Proofs.Session.Answer

/-! # What is printed of a result

A result is printed as a sheet: a header for each name, a line for each row with a cell under each
header, and a line that counts the rows and tells the time (`Grid.sheet`). Maps that have the same texts
for their keys can be laid out in this way if their values can be written (`Grid.display_of_names`), and
the first line of a sheet shows how many columns it has (`CommandLine.length_eq_of_printed`).

The rows of a query are printed under the distinct names among its columns; their values come from the
columns of a table, so that they can be written. So what is printed is the whole result exactly if no
two columns have one name (`CommandLine.run_shows_whole_iff`). -/

namespace BoundSql

open Outcome

namespace Grid

/-- A header for each name, a line for each row, and a line that counts the rows and tells the time. -/
def sheet (time : Binary64) (widths : List Nat) (names : List String) (rows : List (List Value)) :
    List String :=
  (lines (row (names.map String.toList) widths) widths (rows.map cells)).map String.ofList ++
    [toString rows.length ++ " rows in " ++ timeText.floatTime time ++ " ms"]

/-- **Maps with texts for keys** and with values that can be written are laid out as a sheet. -/
theorem display_of_names (time : Binary64) {first : Mapping} {ms : List Mapping} {names : List String}
    {rows : List (List Value)} (hkeys : first.map Prod.fst = names.map .text)
    (hvalues : (first :: ms).mapM (rowValues (names.map .text)) = .ok rows)
    (hshort : ∀ r ∈ rows, ∀ v ∈ r, v.hasLongNumeral = false) :
    display (first :: ms) (.float time) = (sheet time (fit names rows) names rows, none) := by
  rw [display, table_of_names hkeys hvalues hshort, sheet, length_of_mapM_ok hvalues]
  rfl

/-! ### How many columns a sheet has -/

theorem mem_intercalate_dashes {c : Char} : ∀ {widths : List Nat},
    c ∈ List.intercalate ['+'] (widths.map dashes) → c = '+' ∨ c = '-'
  | [], h => nomatch h
  | [width], h => by
    rw [List.map_singleton, List.intercalate_singleton] at h
    exact .inr (List.eq_of_mem_replicate h)
  | width :: width' :: widths, h => by
    rw [List.map_cons, List.map_cons, List.intercalate_cons_cons, List.mem_append,
      List.mem_append, ← List.map_cons] at h
    rcases h with (h | h) | h
    · exact .inr (List.eq_of_mem_replicate h)
    · exact .inl (List.mem_singleton.mp h)
    · exact mem_intercalate_dashes h

theorem count_intercalate_dashes : ∀ {widths : List Nat}, widths ≠ [] →
    (List.intercalate ['+'] (widths.map dashes)).count '+' + 1 = widths.length
  | [], h => absurd rfl h
  | [width], _ => by
    rw [List.map_singleton, List.intercalate_singleton, dashes, List.count_replicate]
    rfl
  | width :: width' :: widths, _ => by
    have hrest := count_intercalate_dashes (List.cons_ne_nil width' widths)
    rw [List.map_cons, List.map_cons, List.intercalate_cons_cons, List.count_append,
      List.count_append, ← List.map_cons, dashes, List.count_replicate, List.length_cons, ← hrest]
    simp
    omega

/-- A border shows the columns by the marks between them. -/
theorem count_border {widths : List Nat} (h : widths ≠ []) :
    (border widths).count '+' = widths.length + 1 := by
  rw [border, List.count_append, List.count_cons_self, ← count_intercalate_dashes h]
  rfl

theorem not_mem_border (widths : List Nat) : '\n' ∉ border widths := by
  intro h
  rw [border, List.mem_append, List.mem_cons, List.mem_singleton] at h
  rcases h with (h | h) | h
  · cases h
  · rcases mem_intercalate_dashes h with h | h <;> cases h
  · cases h

end Grid

namespace CommandLine

theorem toList_printed : ∀ (text : String) (lines : List String), (printed text lines).toList =
    text.toList ++ lines.flatMap fun line => line.toList ++ ['\n']
  | text, [] => by
    rw [List.flatMap_nil, List.append_nil]
    rfl
  | text, line :: lines => by
    change (printed (text ++ line ++ "\n") lines).toList = _
    rw [toList_printed, String.toList_append, String.toList_append, List.flatMap_cons]
    simp

/-- What is printed of a sheet shows how many columns it has. -/
theorem length_eq_of_printed {time time' : Binary64} {widths widths' : List Nat}
    {names names' : List String} {rows rows' : List (List Value)} (hne : widths ≠ []) (hne' : widths' ≠ [])
    (h : printed "" (Grid.sheet time widths names rows) =
      printed "" (Grid.sheet time' widths' names' rows')) :
    widths.length = widths'.length := by
  have hfirst : ∀ (time : Binary64) (widths : List Nat) (names : List String)
      (rows : List (List Value)),
      (printed "" (Grid.sheet time widths names rows)).toList.takeWhile (· ≠ '\n') =
        Grid.border widths := by
    intro time widths names rows
    obtain ⟨rest, hrest⟩ : ∃ rest,
        (printed "" (Grid.sheet time widths names rows)).toList =
          Grid.border widths ++ '\n' :: rest := by
      have hsheet : ∃ more, Grid.sheet time widths names rows =
          String.ofList (Grid.border widths) :: more := ⟨_, rfl⟩
      obtain ⟨more, hmore⟩ := hsheet
      refine ⟨more.flatMap fun line => line.toList ++ ['\n'], ?_⟩
      rw [toList_printed, hmore, List.flatMap_cons, String.toList_ofList, String.toList_ofList,
        List.append_assoc]
      rfl
    have hborder : ∀ c ∈ Grid.border widths, decide (c ≠ '\n') = true := by
      intro c hc
      exact decide_eq_true fun heq => Grid.not_mem_border widths (heq ▸ hc)
    rw [hrest, List.takeWhile_append_of_pos hborder, List.takeWhile_cons_of_neg, List.append_nil]
    decide
  have hborder : Grid.border widths = Grid.border widths' := by
    rw [← hfirst time widths names rows, h, hfirst]
  have hcount := congrArg (List.count '+') hborder
  rw [Grid.count_border hne, Grid.count_border hne'] at hcount
  exact Nat.succ.inj hcount

/-! ### What is printed of the rows of a query -/

/-- The rows of a table are printed under the distinct names of its columns. -/
theorem display_entries (clock : Clock) {t : Table} {rows : List (List Value)} (hne : rows ≠ [])
    (hlength : ∀ r ∈ rows, r.length = t.names.length)
    (hshort : ∀ r ∈ rows, ∀ v ∈ r, v.hasLongNumeral = false) :
    display clock (rows.map t.entries) =
      (Grid.sheet clock.elapsed (Grid.fit t.names.eraseDups (rows.map t.kept)) t.names.eraseDups
        (rows.map t.kept), none) := by
  have hrow : ∀ r ∈ rows, Grid.rowValues (t.names.eraseDups.map .text) (t.entries r) =
      .ok (t.kept r) := by
    intro r hr
    unfold Grid.rowValues Table.kept
    rw [mapM_ok_iff, List.forall₂_map_left_iff, List.forall₂_map_right_iff]
    refine List.forall₂_same.mpr fun name hname => ?_
    rw [Table.get?_entries (hlength r hr) (List.mem_eraseDups.mp hname)]
  obtain ⟨first, rest, rfl⟩ := List.exists_cons_of_ne_nil hne
  refine Grid.display_of_names _ (Table.keys_entries (hlength first List.mem_cons_self)) ?_ ?_
  · rw [← List.map_cons (f := t.entries), mapM_ok_iff, List.forall₂_map_left_iff,
      List.forall₂_map_right_iff]
    exact List.forall₂_same.mpr hrow
  · intro kept hkept
    obtain ⟨r, hr, rfl⟩ := List.mem_map.mp hkept
    exact Table.short_of_kept (hshort r hr)

variable {clock : Clock} {files : Files} {arguments : List String} {replies : Replies}
  {level : Option String} {query config : String} {name : Option String}

/-- What a scope returns comes of the query in it. -/
theorem exists_query_of_scope {config : ExecutorConfig} {b : Builder} {source : Source}
    {replies : Replies} (hclosed : source.connected = false) {rows : List Row}
    (h : (scope config b source replies).1 = .ok rows) :
    ∃ s : Session, s.nextResult = (Session.start source replies).nextResult ∧
      (Session.Action.on (Session.query config b .map) s).1 = .ok rows := by
  obtain ⟨f, s, -, hscope⟩ | ⟨s, hconnect, -, -, hscope⟩ := scope_cases config b replies hclosed <;>
    rw [hscope] at h
  · cases h
  · have hnext := Session.nextResult_ensureConnected (Session.start source replies)
    rw [hconnect] at hnext
    exact ⟨s, hnext, h⟩

/-- The rows that come of a query are those of the table that is made of the driver's answer, and their
values can be written. -/
theorem exists_table_of_scope {config : ExecutorConfig} {b : Builder} {source : Source}
    (hclosed : source.connected = false) {rows : List Row}
    (h : (scope config b source replies).1 = .ok rows) (hne : rows ≠ []) :
    ∃ result t values, (Session.start source replies).nextResult = .ok result ∧
    Table.ofRows (result.columns.getD []) result.rows = .ok t ∧ t.rows = .ok values ∧
    t.names ≠ [] ∧ t.IsRectangular result.rows.length ∧
    (∀ r ∈ values, ∀ v ∈ r, v.hasLongNumeral = false) ∧
    rows = values.map fun r => .map (t.entries r) := by
  obtain ⟨s, hnext, hquery⟩ := exists_query_of_scope hclosed h
  obtain ⟨result, t, hresult, hread, hshape⟩ := Session.table_of_query hquery
  obtain ⟨-, hrect⟩ := Table.isRectangular_ofRows hread
  have hmap : Shape.map ≠ Shape.tuple := nofun
  obtain ⟨size, hbatch, hsize, hok, hnames⟩ := Session.rows_of_shapeRows hrect hshape hne hmap
  rcases hvalues : t.rows with e | values <;> rw [hvalues] at hok
  · cases hok
  refine ⟨result, t, values, hnext ▸ hresult, hread, hvalues, hnames, hrect,
    Table.short_of_rows hread hvalues, ?_⟩
  rw [Session.shapeRows_of_rows hrect hnames hvalues hmap hbatch hsize] at hshape
  have hrows : (values.map t.entries).mapM Shape.map.ofRecord =
      .ok ((values.map t.entries).map .map) := mapM_ok fun m _ => rfl
  rw [hrows] at hshape
  cases hshape
  rw [List.map_map]
  rfl

/-- Rows that can be shown are printed. -/
theorem Prepared.Shows.printed {p : Prepared files level query config name} {ms : List Mapping}
    (hrequest : Request.ofArguments files arguments = .ok ⟨level, .run query config name⟩)
    (h : p.Shows clock replies ms) : (run clock files arguments replies).status = 0 ∧
      (run clock files arguments replies).stdout = printed "" (display clock ms).1 := by
  rcases hon : on (execute clock files replies level query config name) ⟨"", Log.Logging.start files, []⟩
    with ⟨outcome, σ⟩
  have hends : Ends clock files replies level query config name (outcome, σ) := hon ▸ ends_execute
  rw [run_of_request hrequest hon]
  obtain ⟨stop, -, -, hnot⟩ | ⟨rfl, q, ms', hshows, hstdout⟩ := hends.stdout
  · exact absurd h (hnot p ms)
  · cases q.unique p
    cases h.unique hshows.1
    exact ⟨rfl, hstdout⟩

/-- What is printed of rows is a sheet of all columns exactly if no two columns have the same name. -/
theorem exists_sheet_iff {time : Binary64} {t : Table} {values : List (List Value)}
    (hnames : t.names ≠ []) (hlength : ∀ r ∈ values, r.length = t.names.length) :
    (∃ widths : List Nat, widths.length = t.names.length ∧
      printed "" (Grid.sheet time (Grid.fit t.names.eraseDups (values.map t.kept)) t.names.eraseDups
        (values.map t.kept)) = printed "" (Grid.sheet time widths t.names values)) ↔ t.names.Nodup := by
  constructor
  · rintro ⟨widths, hwidths, hsame⟩
    have hfit : (Grid.fit t.names.eraseDups (values.map t.kept)).length = t.names.eraseDups.length := by
      refine Grid.length_fit fun r hr => ?_
      obtain ⟨r, -, rfl⟩ := List.mem_map.mp hr
      exact List.length_map _
    have hwidthsne : widths ≠ [] := by
      rintro rfl
      exact hnames (List.length_eq_zero_iff.mp hwidths.symm)
    have hfitne : Grid.fit t.names.eraseDups (values.map t.kept) ≠ [] := by
      intro hnil
      obtain ⟨first, rest, hcons⟩ := List.exists_cons_of_ne_nil hnames
      rw [hnil, hcons, List.eraseDups_cons] at hfit
      cases hfit
    rw [← Mapping.length_eraseDups_eq_iff, ← hfit, ← hwidths]
    exact length_eq_of_printed hfitne hwidthsne hsame
  · intro hnodup
    refine ⟨Grid.fit t.names values, Grid.length_fit hlength, ?_⟩
    have hkept : values.map t.kept = values :=
      (List.map_congr_left fun r hr => Table.kept_of_nodup (hlength r hr) hnodup).trans
        (List.map_id values)
    rw [Mapping.eraseDups_of_nodup hnodup, hkept]

/-- **What is printed of a result.** If the query of a request returns any rows, then the driver has
answered it with a result that makes a table, and the request succeeds.

* The rows are printed, and counted, as a sheet with the distinct names of the columns for headers.
  Under a name stands the value of the last column with this name.
* What is printed is a sheet of the whole result, with a header and a cell in every row for each
  column, exactly if no two columns have the same name. -/
theorem run_shows_whole_iff
    (hrequest : Request.ofArguments files arguments = .ok ⟨level, .run query config name⟩)
    (p : Prepared files level query config name) {rows : List Row}
    (hrows : (p.scope replies).1 = .ok rows) (hne : rows ≠ []) :
    ∃ result t values, (Session.start p.source replies).nextResult = .ok result ∧
      result.columns = some t.names ∧ Table.ofRows t.names result.rows = .ok t ∧
      t.rows = .ok values ∧ values.length = result.rows.length ∧
      (∀ r ∈ values, r.length = t.names.length) ∧
      (run clock files arguments replies).status = 0 ∧
      (run clock files arguments replies).stdout = printed "" (Grid.sheet clock.elapsed
        (Grid.fit t.names.eraseDups (values.map t.kept)) t.names.eraseDups (values.map t.kept)) ∧
      ((∃ widths : List Nat, widths.length = t.names.length ∧
        (run clock files arguments replies).stdout =
          printed "" (Grid.sheet clock.elapsed widths t.names values)) ↔
          t.names.Nodup) := by
  obtain ⟨result, t, values, hresult, hread, hvalues, hnames, hrect, hshort, rfl⟩ :=
    exists_table_of_scope (connected_of_ofConfig p.creates) hrows hne
  obtain ⟨hcount, hlength⟩ := Table.length_rows hrect hnames hvalues
  have hvaluesne : values ≠ [] := fun hnil => hne (by rw [hnil]; rfl)
  have hdisplay := display_entries clock hvaluesne hlength hshort
  have hshows : p.Shows clock replies (values.map t.entries) := by
    refine ⟨hrows.trans ?_, by rw [hdisplay]⟩
    rw [List.map_map]
    rfl
  obtain ⟨hstatus, hstdout⟩ := hshows.printed hrequest
  rw [hdisplay] at hstdout
  have hcolumns : result.columns = some t.names := by
    have hsame := (Table.isRectangular_ofRows hread).1
    rcases hcolumns : result.columns with _ | columns <;> rw [hcolumns] at hsame
    · exact absurd hsame hnames
    · rw [hsame]
      rfl
  rw [hcolumns] at hread
  refine ⟨result, t, values, hresult, hcolumns, hread, hvalues, hcount, hlength, hstatus, hstdout, ?_⟩
  rw [hstdout]
  exact exists_sheet_iff hnames hlength

/-- A driver that answers with two rows of two columns. -/
def twoRows (first second : String) : Replies :=
  ⟨[], [], [.ok ⟨some [first, second], [[.int 1, .int 2], [.int 3, .null]]⟩]⟩

/-- Columns with different names are all printed. -/
theorem run_shows_whole_iff_distinct :
    Request.ofArguments shopFiles shopArguments = .ok ⟨none, .run "q.yaml" "c.yaml" none⟩ ∧
    ∃ (p : Prepared shopFiles none "q.yaml" "c.yaml" none) (rows : List Row),
      (p.scope (twoRows "id" "customer")).1 = .ok rows ∧ rows ≠ [] ∧
      ∃ (widths : List Nat) (values : List (List Value)), widths.length = 2 ∧ values.length = 2 ∧
        (run still shopFiles shopArguments (twoRows "id" "customer")).stdout =
          printed "" (Grid.sheet still.elapsed widths ["id", "customer"] values) := by
  have hrequest : Request.ofArguments shopFiles shopArguments =
      .ok ⟨none, .run "q.yaml" "c.yaml" none⟩ := rfl
  have hempty : (run still shopFiles shopArguments (twoRows "id" "customer")).stdout ≠ "" := by
    decide +kernel
  have hsome : (run still shopFiles shopArguments (twoRows "id" "customer")).stdout ≠
      printed "" (display still []).1 := by decide +kernel
  rcases hon : on (execute still shopFiles (twoRows "id" "customer") none "q.yaml" "c.yaml" none)
    ⟨"", Log.Logging.start shopFiles, []⟩ with ⟨outcome, σ⟩
  have hends : Ends still shopFiles (twoRows "id" "customer") none "q.yaml" "c.yaml" none (outcome, σ) :=
    hon ▸ ends_execute
  rw [run_of_request hrequest hon] at hempty hsome
  obtain ⟨_, -, hnothing, -⟩ | ⟨-, p, ms, hshows, hprinted⟩ := hends.stdout
  · exact absurd hnothing hempty
  have hne : ms.map Row.map ≠ [] := by
    intro hnil
    rw [List.map_eq_nil_iff.mp hnil] at hprinted
    exact hsome hprinted
  obtain ⟨result, t, values, hresult, hcolumns, -, -, hcount, -, -, -, hwhole⟩ :=
    run_shows_whole_iff hrequest p hshows.1 hne
  cases hresult
  have hnames : t.names = ["id", "customer"] := (Option.some.inj hcolumns).symm
  rw [hnames] at hwhole
  obtain ⟨widths, hwidths, hstdout⟩ := hwhole.mpr (by decide)
  exact ⟨hrequest, p, _, hshows.1, hne, widths, values, hwidths, hcount, hstdout⟩

/-- Two columns with the same name are printed as one, with the values of the second. -/
theorem run_shows_one_column :
    (run still shopFiles shopArguments (twoRows "id" "id")).stdout =
      printed "" (Grid.sheet still.elapsed [4] ["id"] [[.int 2], [.null]]) ∧
    ∀ (widths : List Nat) (values : List (List Value)), widths.length = 2 →
      (run still shopFiles shopArguments (twoRows "id" "id")).stdout ≠
        printed "" (Grid.sheet still.elapsed widths ["id", "id"] values) := by
  have hstdout : (run still shopFiles shopArguments (twoRows "id" "id")).stdout =
      printed "" (Grid.sheet still.elapsed [4] ["id"] [[.int 2], [.null]]) := by decide +kernel
  refine ⟨hstdout, fun widths values hwidths hsame => ?_⟩
  have hwidthsne : widths ≠ [] := by
    rintro rfl
    cases hwidths
  have hlength := length_eq_of_printed (List.cons_ne_nil 4 []) hwidthsne
    (hstdout.symm.trans hsame)
  rw [hwidths] at hlength
  cases hlength

end CommandLine

end BoundSql
