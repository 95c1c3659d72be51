import BoundSql.Config
import BoundSql.Log.Event
import BoundSql.Placeholder
import BoundSql.Result.Table

/-!
# Data sources and their drivers

A data source is a configured database together with what it holds: a connection or a pool of
connections, and whether it counts as connected.  It reaches the database through a driver, of which
only two things are known: the calls made on it, in order (`Call`), and what it answers (`Replies`).
-/

namespace BoundSql

/-- A call on a driver. -/
inductive Call where
  /-- Opens a database file. -/
  | connect (path readOnly : Value)
  /-- Opens a pool of connections. -/
  | openPool (least most : Value) (settings : Mapping)
  /-- Borrows a connection from the pool. -/
  | borrow
  | execute (sql : String) (args : List Value)
  | commit
  | rollback
  /-- Gives a borrowed connection back. -/
  | giveBack
  /-- Closes the database file. -/
  | close
  /-- Closes the pool with all its connections. -/
  | closePool
  deriving Repr, Inhabited

/-- How a call on a driver fails. -/
inductive DriverFault where
  /-- The database refuses. -/
  | refused (message : String)
  /-- Something else breaks. -/
  | broken (message : String)
  deriving Repr, Inhabited

namespace DriverFault

/-- The fault that a failing call causes. -/
def toFault : DriverFault → Fault
  | refused m => .driver m
  | broken m => .driverOther m

end DriverFault

/-- What the driver will answer, call after call; nothing more stands for success and an empty
result. -/
structure Replies where
  /-- Opening a database or a pool. -/
  connect : List (Option DriverFault)
  /-- Borrowing a connection. -/
  borrow : List (Option DriverFault)
  /-- Running a statement. -/
  results : List (Except DriverFault ResultSet)
  deriving Inhabited

namespace Replies

/-- A driver for which everything succeeds. -/
def success : Replies := ⟨[], [], []⟩

end Replies

namespace Engine

/-- The name of the database system. -/
def label : Engine → String
  | duckdb => "DuckDB"
  | postgresql => "PostgreSQL"

/-- The name of a kind of data source in configurations. -/
def typeName : Engine → String
  | duckdb => "duckdb"
  | postgresql => "postgresql"

/-- The logger of a kind of data source. -/
def logger (e : Engine) : String := "query_assembler.datasources." ++ e.typeName

/-- The kind of data source that a configuration names. -/
def ofTypeName? : Value → Option Engine
  | .text "duckdb" => some duckdb
  | .text "postgresql" => some postgresql
  | _ => none

end Engine

/-- A data source. -/
structure Source where
  engine : Engine
  name : Value
  options : Mapping
  /-- A connection or a pool is held. -/
  held : Bool
  /-- The data source counts as connected. -/
  connected : Bool
  deriving Repr, Inhabited

namespace Source

/-- The data source of a type with these settings, not connected. -/
def ofSettings (name type settings : Value) : Outcome Source :=
  match Engine.ofTypeName? type, settings with
  | none, _ => .error (Fault.sourceType type).worded
  | some e, .map m => .ok ⟨e, name, m, false, false⟩
  | some _, v => .error (.misuse (.member v.kind "get"))

/-- The data source that a configuration describes, not connected. -/
def ofConfig (c : SourceConfig) : Outcome Source := ofSettings c.name c.type (.map c.options)

/-- A setting, or its default. -/
def optionOr (s : Source) (key : String) (default : Value) : Value :=
  (s.options.field? key).getD default

/-- A setting that must be there. -/
def option (s : Source) (key : String) : Outcome Value :=
  match s.options.field? key with
  | some v => .ok v
  | none => .error (.missingKey (.text key))

/-- The database file. -/
def path (s : Source) : Value := s.optionOr "path" (.text ":memory:")

/-- Whether the database file is only read. -/
def readOnly (s : Source) : Value := s.optionOr "read_only" (.bool true)

/-- The least number of connections in the pool. -/
def leastConnections (s : Source) : Value := s.optionOr "min_connections" (.int 1)

/-- The greatest number of connections in the pool. -/
def mostConnections (s : Source) : Value := s.optionOr "max_connections" (.int 5)

/-- The name of the data source's type in diagnostics. -/
def typeName (s : Source) : String := s.engine.label ++ "DataSource"

/-- The data source as diagnostics show it. -/
def literal (s : Source) : Outcome String := do
  return s.typeName ++ "(name=" ++ (← s.name.shown) ++ ")"

end Source

end BoundSql
