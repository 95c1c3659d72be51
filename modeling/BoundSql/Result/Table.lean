import BoundSql.Result.Cell

/-!
# Result tables and rows

The driver hands out rows; a result table holds the same values column by column (`Table.ofRows`),
each column converted to one type.  Rows are read off the table again as tuples, or in batches as
maps from the column names, which are then turned into maps or records (`Shape`).

A record has given fields: every column must be a field and every field a column.  Where two columns
have one name, a map holds the value of the later one at the place of the earlier.
-/

namespace BoundSql

/-- What the driver hands out for a statement; statements without a result have no columns. -/
structure ResultSet where
  columns : Option (List String)
  rows : List (List Value)
  deriving Repr, Inhabited

/-- A result by columns. -/
structure Table where
  names : List String
  columns : List (List Cell)
  deriving Inhabited

/-- A row of a result. -/
inductive Row where
  | tuple (values : List Value)
  | map (entries : Mapping)
  | record (fields : List (String × Value))
  deriving Repr, Inhabited

/-- What rows are turned into. -/
inductive Shape where
  | tuple
  | map
  | record (fields : List String)
  deriving Repr, Inhabited

namespace Table

/-- The value of a row in the column at an index. -/
def cell (index : Nat) (row : List Value) : Outcome Value :=
  match row[index]? with
  | some v => .ok v
  | none => .error .tupleIndex

/-- The cells of the first `count` columns, row after row: the first row that is too short is a
fault before any column is converted. -/
def checkRows (count : Nat) (rows : List (List Value)) : Outcome Unit :=
  rows.forM fun row => (List.range count).forM fun i => do
    let _ ← cell i row

/-- The table with the given column names and rows; what a row has beyond them is dropped. -/
def ofRows (names : List String) (rows : List (List Value)) : Outcome Table := do
  checkRows names.length rows
  let columns ← (List.range names.length).mapM fun i =>
    rows.mapM (cell i)
  return ⟨names, ← columns.mapM ColumnType.column⟩

/-- The number of rows. -/
def rowCount (t : Table) : Nat := ((t.columns.head?).map List.length).getD 0

/-- The values by columns; the first cell that cannot be read, column after column, is a fault. -/
def values (t : Table) : Outcome (List (List Value)) := t.columns.mapM fun cells => cells.mapM id

/-- The rows whose values are given column by column. -/
def rowsOf (count : Nat) (columns : List (List Value)) : List (List Value) :=
  columns.foldr (List.zipWith List.cons) (List.replicate count [])

/-- The rows. -/
def rows (t : Table) : Outcome (List (List Value)) := t.values.map (rowsOf t.rowCount)

/-- The rows as maps from the column names. -/
def records (t : Table) : Outcome (List Mapping) := do
  return (← t.rows).map fun r => Mapping.ofEntries ((t.names.map Value.text).zip r)

/-- The table with some of the rows: `count` of them from `start` on. -/
def slice (start count : Nat) (t : Table) : Table :=
  { t with columns := t.columns.map fun cells => (cells.drop start).take count }

/-- The table in batches of at most `size` rows, in order; without a size it is one batch. -/
def batches (size : Option Nat) (t : Table) : List Table :=
  match size with
  | none => [t]
  | some n =>
    (List.range ((t.rowCount + n - 1) / n)).map fun i => t.slice (i * n) n

end Table

namespace Shape

/-- What a record's constructor is called in diagnostics. -/
def constructorName : String := "Row.__init__"

/-- The first column that a record cannot take. -/
def unexpected? (fields : List String) : Mapping → Option Misuse
  | [] => none
  | (.text k, _) :: r =>
    if k ∈ fields then unexpected? fields r
    else if k == "self" then some (.repeatedField constructorName k)
    else some (.unexpectedField constructorName k)
  | _ :: r => unexpected? fields r

/-- A row of this shape from a map of column names. -/
def ofRecord (shape : Shape) (m : Mapping) : Outcome Row :=
  match shape with
  | .tuple => .ok (.tuple (m.map (·.2)))
  | .map => .ok (.map m)
  | .record fields =>
    match unexpected? fields m with
    | some why => .error (.misuse why)
    | none =>
      match fields.filter fun f => (m.field? f).isNone with
      | [] => .ok (.record (fields.map fun f => (f, (m.field? f).getD .null)))
      | missing => .error (.misuse (.missingFields constructorName missing))

end Shape

end BoundSql
