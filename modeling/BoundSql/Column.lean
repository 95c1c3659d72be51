import BoundSql.Value

/-!
# Columns and projections

A select list is made of columns of tables and of columns computed by the database: an expression
over columns, or a scalar subquery that mentions columns of the outer query.  Templates refer to
their columns by bare name.  Names and templates are values because they may come from a document;
in a query that makes sense they are texts.

A table's description lists its columns with their data types.  Identifiers of type `UUID` have to
be cast to text in a select list, whatever the case of the type's name (`Column.ofDescription`).
-/

namespace BoundSql

/-- A column of a table. -/
structure Column where
  table : Value
  name : Value
  /-- The column is selected as text. -/
  needsCast : Bool
  deriving Repr, Inhabited

/-- An entry of a select list. -/
inductive Item where
  | plain (column : Column)
  | expression (template : Value) (columns : List Column) (name : Value)
  | subquery (template : Value) (columns : List Column) (name : Value)
  /-- A value that is no column at all. -/
  | raw (value : Value)
  deriving Repr, Inhabited

/-- A column as the database describes it. -/
structure ColumnDescription where
  name : Value
  dataType : Value
  nullable : Bool
  deriving Repr, Inhabited

/-- A table as the database describes it. -/
structure TableDescription where
  schema : Value
  table : Value
  columns : List ColumnDescription
  deriving Repr, Inhabited

namespace Column

/-- Two columns have equal tables and names and the same cast. -/
def eq (c d : Column) : Bool := c.table.eq d.table && c.name.eq d.name && c.needsCast == d.needsCast

/-- Lists of columns that are equal one by one. -/
def eqAll (cs ds : List Column) : Bool :=
  cs.length == ds.length && (cs.zip ds).all fun p => p.1.eq p.2

end Column

namespace Item

/-- Two entries are of one kind and have equal parts. -/
def eq : Item → Item → Bool
  | plain c, plain d => c.eq d
  | expression t cs n, expression t' cs' n' => t.eq t' && Column.eqAll cs cs' && n.eq n'
  | subquery t cs n, subquery t' cs' n' => t.eq t' && Column.eqAll cs cs' && n.eq n'
  | raw v, raw w => v.eq w
  | _, _ => false

/-- The name of an entry's kind. -/
def kind : Item → String
  | plain _ => "plain"
  | expression .. => "expression"
  | subquery .. => "subquery"
  | raw _ => "raw"

end Item

end BoundSql
