import BoundSql.Number.Places
import BoundSql.Value.Access

/-!
# Results as a text table

Rows that are maps are shown as a table: a border, the keys of the first row as headers, a border,
a line for each row, and a border.  A column is as wide as its widest text, and every text is
followed by spaces up to that width.  After the table a line counts the rows and tells the time
taken.  Nothing is shown of a table that cannot be laid out.

* `Grid.lines` are the lines of a table, from headers, widths and cells;
* `display` lists what is shown, with the fault that ended it, if any.
-/

namespace BoundSql.Grid

/-- A cell as text; null has a name of its own. -/
def cellText : Value → Outcome String
  | .null => .ok "NULL"
  | v => v.shown

/-- A text followed by spaces up to a width. -/
def leftJustify (width : Nat) (cs : List Char) : List Char :=
  cs ++ List.replicate (width - cs.length) ' '

/-- A border above, below or between the lines of a table. -/
def border (widths : List Nat) : List Char :=
  '+' :: (List.intercalate ['+'] (widths.map fun w => List.replicate (w + 2) '-')) ++ ['+']

/-- A line of a table, each cell with a space on both sides. -/
def row (cells : List (List Char)) (widths : List Nat) : List Char :=
  '|' :: (List.intercalate ['|'] ((cells.zip widths).map fun p =>
    ' ' :: leftJustify p.2 p.1 ++ [' '])) ++ ['|']

/-- The widths that a row of cells asks for, at least those given. -/
def widen (widths : List Nat) (cells : List (List Char)) : List Nat :=
  (widths.zip cells).map fun p => max p.1 p.2.length

/-- The lines of a table with the given headers, already as wide as their columns, and cells. -/
def lines (header : List Char) (widths : List Nat) (cells : List (List (List Char))) :
    List (List Char) :=
  [border widths, header, border widths] ++ cells.map (fun r => row r widths) ++ [border widths]

/-- A header padded to the width of its column; only texts and byte strings can be. -/
def headerCell (header : Value) (width : Nat) : Outcome (List Char) :=
  match header with
  | .text s => .ok (leftJustify width s.toList)
  | .bytes bs => .ok (Text.quotedBytes (bs ++ List.replicate (width - bs.length) 32)).toList
  | v => .error (.misuse (.member v.kind "ljust"))

/-- The line of the headers. -/
def headerLine (headers : List Value) (widths : List Nat) : Outcome (List Char) := do
  let cells ← (headers.zip widths).mapM fun p => headerCell p.1 p.2
  return '|' :: (List.intercalate ['|'] (cells.map fun c => ' ' :: c ++ [' '])) ++ ['|']

/-- The values of a row under the given headers. -/
def rowValues (headers : List Value) (r : Mapping) : Outcome (List Value) :=
  headers.mapM fun h =>
    match r.get? h with
    | some v => .ok v
    | none => .error (.missingKey h)

/-- The table of some rows, the first of which gives the headers. -/
def table (first : Mapping) (rows : List Mapping) : Outcome (List String) := do
  let headers := first.map (·.1)
  let values ← rows.mapM (rowValues headers)
  let cells ← values.mapM fun r => r.mapM fun v => (cellText v).map String.toList
  let widths := cells.foldl widen (← headers.mapM Value.size)
  return (lines (← headerLine headers widths) widths cells).map String.ofList

/-- A time with two places. -/
def timeText : Value → Outcome String
  | .float x => .ok (floatTime x)
  | .int n => ofInt n
  | .bool b => ofInt (if b then 1 else 0)
  | .decimal d => .ok (decimalTime d)
  | .date _ | .moment _ => .ok ".2f"
  | .text _ => .error (.value "Unknown format code 'f' for object of type 'str'")
  | v => .error (.misuse (.formatSpec v.kind))
where
  /-- A sign before a magnitude. -/
  signed (negative : Bool) (cs : List Char) : List Char := if negative then '-' :: cs else cs
  /-- A float with two places. -/
  floatTime : Binary64 → String
    | .finite negative m e =>
      let (num, den) := Binary64.ratio m e
      String.ofList (signed negative (Places.fixed 2 num den))
    | x => x.text
  /-- A decimal number with two places. -/
  decimalTime (d : Decimal) : String :=
    match d, d.quotient? with
    | .finite negative _ _, some (n, den) =>
      String.ofList (signed negative (Places.fixed 2 n.natAbs den))
    | d, _ => d.text
  /-- An integer, which has to be within the range of floats. -/
  ofInt (n : Int) : Outcome String :=
    match Binary64.ofInt n with
    | .infinite _ => .error .floatOverflow
    | x => .ok (floatTime x)

/-- The line that counts the rows. -/
def summary (count : Nat) (elapsed : Value) : Outcome String := do
  return toString count ++ " rows in " ++ (← timeText elapsed) ++ " ms"

/-- What is shown of some rows, and the fault that ended it, if any. -/
def display (rows : List Mapping) (elapsed : Value) : List String × Option Fault :=
  let shown : Outcome (List String) := match rows with
    | [] => .ok []
    | first :: _ => table first rows
  match shown with
  | .error f => ([], some f)
  | .ok ls =>
    match summary rows.length elapsed with
    | .error f => (ls, some f)
    | .ok l => (ls ++ [l], none)

end BoundSql.Grid
