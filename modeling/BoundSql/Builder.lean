import BoundSql.Sql.Rendering

/-!
# Building a query

A builder holds the pieces of SQL text appended so far, the aliases of tables, and the values bound
to positions.  Clauses are rendered when they are appended, with the aliases of that moment.  Values
never enter the text: `addParam` uses up the next position and returns its placeholder.

An operation may fail half way.  What it did until then stays done, so each operation yields a
builder together with its outcome (`Step`).
-/

namespace BoundSql

/-- A query under construction. -/
structure Builder where
  /-- The pieces of the SQL text, in order. -/
  parts : List Value
  /-- The aliases of tables. -/
  aliases : Mapping
  /-- The bound values with their positions, in the order of binding. -/
  params : List (Nat × Value)
  /-- The last position used. -/
  position : Nat
  deriving Repr, Inhabited

namespace Builder

/-- A query of which nothing is built. -/
def empty : Builder := ⟨[], [], [], 0⟩

/-- An operation on a builder, which may fail after it has changed the builder. -/
abbrev Step (α : Type) := ExceptT Fault (StateM Builder) α

/-- The SQL text so far. -/
def sql (b : Builder) : Outcome String := joinTexts "" b.parts

/-- The bound values as a map from positions. -/
def paramMap (b : Builder) : Mapping := b.params.map fun p => (.int p.1, p.2)

/-- The bound values in the order of their positions. -/
def orderedParams (b : Builder) : List Value :=
  (b.params.mergeSort fun p q => p.1 ≤ q.1).map (·.2)

/-- The builder as diagnostics show it. -/
def literal (b : Builder) : Outcome String := do
  return "QueryBuilder(sql=" ++ Text.quoted (← b.sql) ++ ", params="
    ++ (← (Value.map b.paramMap).written) ++ ")"

/-- The placeholder of a position. -/
def placeholder (n : Nat) : String := "?" ++ toString n

/-! ### Operations -/

/-- An outcome as a step that changes nothing. -/
def check {α : Type} (x : Outcome α) : Step α := ExceptT.mk (pure x)

/-- Appends pieces of text. -/
def append (pieces : List Value) : Step Unit :=
  modify fun b => { b with parts := b.parts ++ pieces }

/-- Registers or replaces the alias of a table. -/
def setAlias (table shortName : Value) : Step Unit := do
  let key ← check table.asKey
  modify fun b => { b with aliases := b.aliases.set key shortName }

/-- Appends the select list and the first table.  Every entry is rendered before anything is
appended; the entries are joined, and the table is rendered, in between. -/
def select (projection : List Item) (table : Value) (derived : List Item) : Step Unit := do
  let aliases := (← get).aliases
  let selection ← check ((projection ++ derived).mapM fun item => Sql.selectItem item aliases)
  append [.text "select "]
  append [.text (← check (joinTexts ", " selection))]
  append [.text " from "]
  append [← check (Sql.tableReference table aliases)]

/-- Appends a condition unless it is blank. -/
def where_ (condition : Value) : Step Unit := do
  if !(← check condition.isBlank) then append [.text " where ", condition]

/-- Appends a descending order unless it is blank. -/
def sortBy (order : Value) : Step Unit := do
  if !(← check order.isBlank) then append [.text " order by ", order, .text " DESC "]

/-- Limits the result to one row. -/
def limit : Step Unit := append [.text " limit 1"]

/-- Binds a value to the next position and returns the placeholder. -/
def addParam (v : Value) : Step String := do
  modify fun b =>
    { b with position := b.position + 1, params := b.params ++ [(b.position + 1, v)] }
  return placeholder (← get).position

/-- A column's name, qualified by its table's alias. -/
def column (c : Column) : Step Value := do
  check (Sql.qualifiedName c (← get).aliases)

/-- A column's name as it stands inside a condition. -/
def columnText (c : Column) : Step String := do
  check (Sql.columnText c (← get).aliases)

/-- A column is equal to a value; nothing if there is no value. -/
def eq (c : Column) (v : Value) : Step Value := do
  match v with
  | .null => return .null
  | v =>
    let name ← columnText c
    let p ← addParam v
    return .text (name ++ " = " ++ p)

/-- A value lies between two columns; nothing if there is no value. -/
def between (v : Value) (first last : Column) : Step Value := do
  match v with
  | .null => return .null
  | v =>
    let p ← addParam v
    let a ← columnText first
    let b ← columnText last
    return .text (p ++ " between " ++ a ++ " and " ++ b)

/-- An expression in parentheses; nothing if it is blank. -/
def parentheses (e : Value) : Step Value := do
  if ← check e.isBlank then return .null
  return .text ("(" ++ (← check e.shown) ++ ")")

/-- The conjuncts that a call with these arguments names: a single list or tuple stands for its
members. -/
def conjuncts : List Value → List Value
  | [.list vs] => vs
  | [.tuple vs] => vs
  | vs => vs

/-- The expressions that are not blank, joined by `and`. -/
def conjunction (vs : List Value) : Outcome String := do
  let kept ← (conjuncts vs).filterM fun v => do return !(← v.isBlank)
  joinTexts " and " kept

/-- The expressions that are not blank, joined by `and`. -/
def and_ (vs : List Value) : Step String := check (conjunction vs)

end Builder

end BoundSql
