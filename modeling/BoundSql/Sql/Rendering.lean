import BoundSql.Column
import BoundSql.Sql.Token
import BoundSql.Text.Upper
import BoundSql.Value.Access

/-!
# Columns and tables as SQL

A table with an alias is followed by it; a column of such a table is qualified by it.  In the
templates of computed columns every whole-token occurrence of a listed column's bare name is
replaced by the qualified name, column after column (`replaceReferences`).  Rendering reads the
aliases and never changes them.

A name or template that is no text is passed on as it is where nothing has to be done with it, and
is a fault where something has: it cannot be searched, and it cannot be searched for.  Whatever stands
inside a longer text has to be short enough to be written (`Value.shown`).
-/

namespace BoundSql

namespace Sql

/-- The alias of a table; an alias that is null counts as none. -/
def aliasOf? (aliases : Mapping) (table : Value) : Outcome (Option Value) := do
  let key ← table.asKey
  match aliases.get? key with
  | some .null | none => return none
  | some a => return some a

/-- A table as it stands after `from`. -/
def tableReference (table : Value) (aliases : Mapping) : Outcome Value := do
  match ← aliasOf? aliases table with
  | some a => return .text ((← table.shown) ++ " " ++ (← a.shown))
  | none => return table

/-- A column's name, qualified by the alias of its table if that has one. -/
def qualifiedName (column : Column) (aliases : Mapping) : Outcome Value := do
  match ← aliasOf? aliases column.table with
  | some a => return .text ((← a.shown) ++ "." ++ (← column.name.shown))
  | none => return column.name

/-- A column's name as it stands inside a longer text. -/
def columnText (column : Column) (aliases : Mapping) : Outcome String := do
  (← qualifiedName column aliases).shown

/-- The text that a column's name is searched as. -/
def searchedName : Value → Outcome (List Char)
  | .text s => .ok s.toList
  | .bytes bs => .ok (Text.quotedBytes bs).toList
  | v => .error (.misuse (.decode v.kind))

/-- The text of a template. -/
def searchedText : Value → Outcome (List Char)
  | .text s => .ok s.toList
  | .bytes _ => .error (.misuse .searchBytes)
  | v => .error (.misuse (.search v.kind))

/-- One column's references in a template, qualified. -/
def replaceReference (aliases : Mapping) (template : Value) (column : Column) : Outcome Value := do
  let replacement ← qualifiedName column aliases
  let name ← searchedName column.name
  let text ← searchedText template
  match replacement with
  | .text r => return .text (String.ofList (Token.substitute name r.toList text))
  | v =>
    match Token.firstToken? name text with
    | none => return .text (String.ofList text)
    | some place => throw (.misuse (.join (min place 1) v.kind))

/-- A template in which the references to the listed columns are qualified, one column after
another. -/
def replaceReferences (template : Value) (columns : List Column) (aliases : Mapping) :
    Outcome Value :=
  columns.foldlM (replaceReference aliases) template

/-- A computed column has a name of its own: the name is neither absent nor blank.  Whatever counts
as absent need not be a text. -/
def isNamed (name : Value) : Outcome Bool :=
  if name.truthy then name.isBlank.map not else .ok false

/-- An expression column: the expression with its references qualified, and its name unless that is
absent or blank. -/
def expression (template : Value) (columns : List Column) (name : Value) (aliases : Mapping) :
    Outcome Value := do
  let body ← replaceReferences template columns aliases
  if ← isNamed name then return .text ((← body.shown) ++ " as " ++ (← name.shown))
  else return body

/-- A subquery column: the subquery with its references qualified, in parentheses, named. -/
def subquery (template : Value) (columns : List Column) (name : Value) (aliases : Mapping) :
    Outcome Value := do
  let body ← replaceReferences template columns aliases
  return .text ("(" ++ (← body.shown) ++ ") as " ++ (← name.shown))

/-- An entry of a select list. -/
def selectItem (item : Item) (aliases : Mapping) : Outcome Value := do
  match item with
  | .expression t cs n => expression t cs n aliases
  | .subquery t cs n => subquery t cs n aliases
  | .plain c =>
    if c.needsCast then return .text ("cast(" ++ (← columnText c aliases) ++ " as varchar)")
    else qualifiedName c aliases
  | .raw v => throw (Fault.misuse (.selectItem v)).worded

end Sql

namespace Item

/-- An entry as diagnostics show it. -/
def literal : Item → Outcome String
  | plain c => do return "Column(" ++ (← c.table.shown) ++ "." ++ (← c.name.shown) ++ ")"
  | expression t _ n => do
    return "ColumnExpression(" ++ (← t.written) ++ ", name=" ++ (← n.shown) ++ ")"
  | subquery t _ n => do
    return "ColumnSubquery(" ++ (← t.written) ++ ", name=" ++ (← n.shown) ++ ")"
  | raw v => v.written

/-- A subquery column; its name must not be missing or blank. -/
def ofSubquery (template : Value) (columns : List Column) (name : Value) : Outcome Item := do
  if ← name.isBlank then throw .unnamedSubquery
  return .subquery template columns name

end Item

namespace Column

/-- A column with a data type that a database reports: a `UUID` is selected as text. -/
def ofDescription (table name dataType : Value) : Outcome Column :=
  match dataType with
  | .text t => .ok ⟨table, name, Text.upper t == "UUID"⟩
  | .bytes _ => .ok ⟨table, name, false⟩
  | v => .error (.misuse (.member v.kind "upper"))

end Column

namespace TableDescription

/-- The select list that names every column of a table, in order. -/
def projection (t : TableDescription) : Outcome (List Column) :=
  t.columns.mapM fun c => Column.ofDescription t.table c.name c.dataType

end TableDescription

end BoundSql
