import BoundSql.Proofs.Outcome
import BoundSql.Proofs.Placeholder.Cut

/-! # Both drivers are given the same query

A driver with percent markers reads `%%` as a literal percent sign and `%s` as the next argument;
any other percent sign makes the text malformed (`ReadsPercent`). What it reads is a list of pieces.

A text escaped for such a driver is read as itself, whatever follows it (`read_escape_append`), and a
marker is read as an argument, so the reader stays in step from one placeholder to the next
(`read_fill`): it meets one argument for each placeholder, and the ordinary text between them. With
a question mark for each argument this is the text that the other driver is given. -/

namespace BoundSql.Placeholder

/-- What a driver takes from its SQL: a character, or the place of an argument. -/
inductive Piece where
  | literal (c : Char)
  | argument
  deriving DecidableEq, Repr

namespace Piece

/-- A piece as the other driver would be given it. -/
def questioned : Piece → Char
  | literal c => c
  | argument => '?'

end Piece

/-- The reader takes `%%` as a percent sign, `%s` as an argument, no other percent sign, and all else
literally. -/
structure ReadsPercent (read : List Char → Option (List Piece)) : Prop where
  nil : read [] = some []
  percent : ∀ cs, read ('%' :: '%' :: cs) = (read cs).map (.literal '%' :: ·)
  argument : ∀ cs, read ('%' :: 's' :: cs) = (read cs).map (.argument :: ·)
  malformed : ∀ c cs, c ≠ '%' → c ≠ 's' → read ('%' :: c :: cs) = none
  literal : ∀ c cs, c ≠ '%' → read (c :: cs) = (read cs).map (.literal c :: ·)

/-- A reader of percent markers. -/
def readPercent : List Char → Option (List Piece)
  | [] => some []
  | '%' :: '%' :: cs => (readPercent cs).map (.literal '%' :: ·)
  | '%' :: 's' :: cs => (readPercent cs).map (.argument :: ·)
  | '%' :: _ => none
  | c :: cs => (readPercent cs).map (.literal c :: ·)

theorem readsPercent_readPercent : ReadsPercent readPercent where
  nil := rfl
  percent _ := rfl
  argument _ := rfl
  malformed c cs h1 h2 := by simp [readPercent, h1, h2]
  literal c cs h := by simp [readPercent, h]

/-- The pieces of ordinary text and of the placeholders with the text after them. -/
def Cut.pieces (c : Cut) : List Piece :=
  c.before.map .literal ++ c.marks.flatMap fun m => .argument :: m.after.map .literal

/-- The pieces show the text with question marks in place of the placeholders. -/
theorem Cut.map_questioned_pieces (c : Cut) : c.pieces.map Piece.questioned = c.fill .duckdb := by
  have hlit : ∀ cs : List Char, (cs.map Piece.literal).map Piece.questioned = cs := by
    intro cs
    rw [List.map_map]
    exact List.map_id cs
  rw [Cut.pieces, List.map_append, hlit, List.map_flatMap]
  simp only [List.map_cons, hlit]
  rfl

/-- There are as many arguments as placeholders. -/
theorem Cut.count_argument_pieces (c : Cut) : c.pieces.count .argument = c.marks.length := by
  have hlit : ∀ cs : List Char, (cs.map Piece.literal).count .argument = 0 := by
    intro cs
    refine List.count_eq_zero.mpr fun h => ?_
    obtain ⟨c, -, hc⟩ := List.mem_map.mp h
    cases hc
  have hmarks : ∀ ms : List Mark,
      (ms.flatMap fun m => Piece.argument :: m.after.map .literal).count .argument = ms.length := by
    intro ms
    induction ms with
    | nil => rfl
    | cons m ms ih =>
      rw [List.flatMap_cons, List.count_append, ih, List.count_cons_self, hlit, List.length_cons]
      omega
  rw [Cut.pieces, List.count_append, hlit, hmarks, Nat.zero_add]

section
variable {read : List Char → Option (List Piece)} (hr : ReadsPercent read)
include hr

/-- Escaped text is read as the text itself, whatever follows it. -/
theorem read_escape_append {rest : List Char} {ps : List Piece} (h : read rest = some ps)
    (t : List Char) :
    read (Engine.postgresql.escape t ++ rest) = some (t.map .literal ++ ps) := by
  induction t with
  | nil => exact h
  | cons c t ih =>
    by_cases hc : c = '%'
    · subst hc
      change read ('%' :: '%' :: (Engine.postgresql.escape t ++ rest)) = _
      rw [hr.percent, ih]
      rfl
    · rw [escape_cons _ hc, List.cons_append, hr.literal _ _ hc, ih]
      rfl

/-- **The reader stays in step**: one argument for each placeholder, and the text between them. -/
theorem read_fill (c : Cut) : read (c.fill .postgresql) = some c.pieces := by
  have hmarks : ∀ ms : List Mark,
      read (ms.flatMap fun m => Engine.postgresql.marker ++ Engine.postgresql.escape m.after) =
        some (ms.flatMap fun m => .argument :: m.after.map .literal) := by
    intro ms
    induction ms with
    | nil => exact hr.nil
    | cons m ms ih =>
      rw [List.flatMap_cons, List.flatMap_cons, List.append_assoc]
      change read ('%' :: 's' :: (Engine.postgresql.escape m.after ++ _)) = _
      rw [hr.argument, read_escape_append hr ih]
      rfl
  exact read_escape_append hr (hmarks c.marks) c.before

/-- **Both drivers are given the same query.** Binding fails for one exactly if it fails for the
other, with the same fault. Otherwise the arguments are the same, and a driver that reads percent
markers finds one for each argument and, with question marks for them, the other driver's SQL. -/
theorem postgresql_reads_as_duckdb (sql : String) (params : Mapping) :
    (∃ f, bind .duckdb sql params = .error f ∧ bind .postgresql sql params = .error f) ∨
    ∃ plain percent args ps, bind .duckdb sql params = .ok (plain, args) ∧
      bind .postgresql sql params = .ok (percent, args) ∧ read percent.toList = some ps ∧
      ps.count .argument = args.length ∧ String.ofList (ps.map Piece.questioned) = plain := by
  obtain ⟨c, hc⟩ := Cut.exists_text sql.toList
  have hbind := fun e => bind_of_cut e hc params
  rcases hvs : c.marks.mapM (Mark.value params) with f | vs
  · left
    exact ⟨f, by rw [hbind, hvs]; rfl, by rw [hbind, hvs]; rfl⟩
  · right
    refine ⟨String.ofList (c.fill .duckdb), String.ofList (c.fill .postgresql), vs, c.pieces,
      by rw [hbind, hvs]; rfl, by rw [hbind, hvs]; rfl, ?_, ?_, ?_⟩
    · rw [String.toList_ofList, read_fill hr]
    · rw [c.count_argument_pieces, Outcome.length_of_mapM_ok hvs]
    · rw [c.map_questioned_pieces]

end

/-- Percent signs, one of them doubled, and letters stand on both sides of a placeholder. -/
theorem postgresql_reads_as_duckdb_percent : ReadsPercent readPercent ∧
    ∃ plain percent args ps,
      bind .duckdb "a %?1s %%s ?1%" [(.int 1, .null)] = .ok (plain, args) ∧
      bind .postgresql "a %?1s %%s ?1%" [(.int 1, .null)] = .ok (percent, args) ∧
      readPercent percent.toList = some ps ∧ ps.count .argument = args.length ∧
      String.ofList (ps.map Piece.questioned) = plain := by
  refine ⟨readsPercent_readPercent, ?_⟩
  rcases postgresql_reads_as_duckdb readsPercent_readPercent "a %?1s %%s ?1%" [(.int 1, .null)]
    with ⟨f, hf, -⟩ | h
  · have hlist : "a %?1s %%s ?1%".toList =
        ['a', ' ', '%', '?', '1', 's', ' ', '%', '%', 's', ' ', '?', '1', '%'] := by simp
    rw [bind, hlist] at hf
    cases hf
  · exact h

end BoundSql.Placeholder
