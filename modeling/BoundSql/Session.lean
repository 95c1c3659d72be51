import BoundSql.Source

/-!
# Sessions

A session is a data source, the replies its driver has left, and the calls and events so far.  The
operations on a data source are actions on a session: they may fail, and what they did until then
stays done (`Session.Action`).  What they report shows names and settings, which have to be short
enough to be written: an event that cannot be worded is a fault at its place.

* `connect`, `disconnect` and `ensureConnected` open and close;
* `listTables`, `describe` and `execute` run statements; on PostgreSQL each borrows a connection and
  gives it back at its end, whatever happens in between (`borrowing`).
-/

namespace BoundSql

/-- A data source at work. -/
structure Session where
  source : Source
  replies : Replies
  calls : List Call
  events : List Log.Event
  deriving Inhabited

namespace Session

/-- A session with a data source that has done nothing yet. -/
def start (source : Source) (replies : Replies) : Session := ⟨source, replies, [], []⟩

/-- An operation on a session, which may fail after it has changed the session. -/
abbrev Action (α : Type) := ExceptT Fault (StateM Session) α

/-- An outcome as an action that changes nothing. -/
def check {α : Type} (x : Outcome α) : Action α := ExceptT.mk (pure x)

/-- Reports an event. -/
def report (level : Log.Level) (logger message : String) (context : Option Mapping) : Action Unit :=
  modify fun s => { s with events := s.events ++ [⟨level, logger, message, context⟩] }

/-- Reports an event of the data source. -/
def reportSource (level : Log.Level) (message : String) : Action Unit := do
  report level (← get).source.engine.logger message none

/-- Makes a call on the driver. -/
def perform (c : Call) : Action Unit := modify fun s => { s with calls := s.calls ++ [c] }

/-- Sets what the data source holds and whether it counts as connected. -/
def setState (held connected : Bool) : Action Unit :=
  modify fun s => { s with source := { s.source with held, connected } }

/-- What the driver answers to opening a database or a pool. -/
def connectReply : Action (Option DriverFault) := do
  let s ← get
  set { s with replies := { s.replies with connect := s.replies.connect.drop 1 } }
  return (s.replies.connect.head?).getD none

/-- What the driver answers to borrowing a connection. -/
def borrowReply : Action (Option DriverFault) := do
  let s ← get
  set { s with replies := { s.replies with borrow := s.replies.borrow.drop 1 } }
  return (s.replies.borrow.head?).getD none

/-- What the driver answers to a statement. -/
def resultReply : Action (Except DriverFault ResultSet) := do
  let s ← get
  set { s with replies := { s.replies with results := s.replies.results.drop 1 } }
  return (s.replies.results.head?).getD (.ok ⟨some [], []⟩)

/-- Fails as the driver does. -/
def demand (reply : Option DriverFault) : Action Unit :=
  match reply with
  | none => pure ()
  | some f => throw f.toFault

/-- Sends a statement to the driver. -/
def send (sql : String) (args : List Value) : Action ResultSet := do
  perform (.execute sql args)
  match ← resultReply with
  | .ok r => return r
  | .error f => throw f.toFault

/-- Performs an action; if the driver refused, performs another before failing all the same. -/
def onRefusal {α : Type} (a : Action α) (f : String → Action Unit) : Action α :=
  tryCatch a fun fault => do
    if let .driver m := fault then f m
    throw fault

/-- Performs an action and then another one, whether or not the first one failed. -/
def finishing {α : Type} (a : Action α) (last : Action Unit) : Action α := do
  let r ← tryCatch (Except.ok <$> a) fun fault => pure (.error fault)
  last
  check r

/-! ### Opening and closing -/

/-- Reports that the database could not be reached, and fails. -/
def connectionFailed (message : String) : Action Unit := do
  let s := (← get).source
  reportSource Log.error
    ("Failed to connect to " ++ s.engine.label ++ " " ++ (← check s.name.shown) ++ ": " ++ message)
  throw (.connection s.engine.label message)

/-- Reports that the database has been reached. -/
def connectionOpened : Action Unit := do
  let s := (← get).source
  reportSource Log.info
    ("Successfully connected to " ++ s.engine.label ++ ": " ++ (← check s.name.shown))

/-- Opens a database file. -/
def connectFile : Action Unit := do
  let s := (← get).source
  reportSource Log.info ("Connecting to DuckDB at '" ++ (← check s.path.shown) ++ "'")
  onRefusal (do perform (.connect s.path s.readOnly); demand (← connectReply)) connectionFailed
  setState true true
  connectionOpened

/-- The settings that a pool is opened with, in order. -/
def poolSettings (s : Source) : Outcome Mapping := do
  return [(.text "host", ← s.option "host"), (.text "port", s.optionOr "port" (.int 5432)),
    (.text "database", ← s.option "database"), (.text "user", ← s.option "user"),
    (.text "password", ← s.option "password")]

/-- Opens a pool and tries it out by borrowing a connection. -/
def connectPool : Action Unit := onRefusal (do
  let s := (← get).source
  let database ← check (s.option "database" >>= Value.shown)
  let host ← check (s.option "host" >>= Value.shown)
  reportSource Log.info ("Connecting to PostgreSQL database '" ++ database ++ "' at " ++ host)
  let settings ← check (poolSettings s)
  perform (.openPool s.leastConnections s.mostConnections settings)
  demand (← connectReply)
  setState true s.connected
  perform .borrow
  demand (← borrowReply)
  perform .giveBack
  setState true true
  connectionOpened) connectionFailed

/-- Opens the data source, whether or not it is open already. -/
def connect : Action Unit := do
  match (← get).source.engine with
  | .duckdb => connectFile
  | .postgresql => connectPool

/-- Closes what the data source holds, if it holds anything. -/
def disconnect : Action Unit := do
  let s := (← get).source
  if s.held then
    perform (match s.engine with
      | .duckdb => .close
      | .postgresql => .closePool)
    reportSource Log.info
      ("Disconnected from " ++ s.engine.label ++ ": " ++ (← check s.name.shown))
    setState false false

/-- Opens the data source unless it counts as connected. -/
def ensureConnected : Action Unit := do
  if !(← get).source.connected then
    connect
    setState (← get).source.held true

/-- Leaves the scope in which the data source was to be open. -/
def leave : Action Unit := do
  disconnect
  setState (← get).source.held false

/-! ### Statements -/

/-- Gives a borrowed connection back, if there still is a pool. -/
def giveBack : Action Unit := do
  if (← get).source.held then perform .giveBack

/-- Borrows a connection for an action and gives it back at the end.  If the driver refuses during
the action, `refused` is performed before that. -/
def borrowing {α : Type} (a : Action α) (refused : String → Action Unit) : Action α := do
  let s := (← get).source
  if !s.held then throw (.notConnected (← check s.name.shown))
  perform .borrow
  demand (← borrowReply)
  finishing (onRefusal a refused) giveBack

/-- The query for the tables of a schema. -/
def tablesQuery (e : Engine) : String :=
  "SELECT table_name FROM information_schema.tables WHERE table_schema = "
    ++ String.ofList e.marker ++ " AND table_type = 'BASE TABLE' ORDER BY table_name"

/-- The query for the columns of a table. -/
def columnsQuery (e : Engine) : String :=
  "SELECT column_name, data_type, is_nullable FROM information_schema.columns "
    ++ "WHERE table_schema = " ++ String.ofList e.marker ++ " AND table_name = "
    ++ String.ofList e.marker ++ " ORDER BY ordinal_position"

/-- Runs a query about the database itself on whatever connection there is.  A refusal by a server is
reported with the words of `failure`. -/
def inspect {α : Type} (sql : Engine → String) (args : List Value) (failure : Outcome String)
    (read : Engine → ResultSet → Outcome α) : Action α := do
  let s := (← get).source
  match s.engine with
  | .duckdb =>
    if !s.held then throw (.misuse (.member "NoneType" "execute"))
    check (read s.engine (← send (sql s.engine) args))
  | .postgresql =>
    borrowing (do check (read s.engine (← send (sql s.engine) args)))
      fun m => do reportSource Log.error ((← check failure) ++ ": " ++ m)

/-- The names of the tables of a schema. -/
def listTables (schema : Value) : Action (List Value) :=
  inspect tablesQuery [schema] (do return "Error listing tables in schema " ++ (← schema.shown))
    fun _ r => r.rows.mapM (Table.cell 0)

/-- A cell of a row, by its place for one kind of driver and by its name for the other. -/
def describedCell (e : Engine) (columns : List String) (row : List Value) (index : Nat)
    (name : String) : Outcome Value :=
  match e with
  | .duckdb => Table.cell index row
  | .postgresql =>
    match Mapping.field? (Mapping.ofEntries ((columns.map Value.text).zip row)) name with
    | some v => .ok v
    | none => .error (.missingKey (.text name))

/-- The description of a column from a row about it. -/
def describedColumn (e : Engine) (columns : List String) (row : List Value) :
    Outcome ColumnDescription := do
  let cell := describedCell e columns row
  return ⟨← cell 0 "column_name", ← cell 1 "data_type",
    (← cell 2 "is_nullable").eq (.text "YES")⟩

/-- The description of a table. -/
def describe (schema table : Value) : Action TableDescription := do
  let columns ← inspect columnsQuery [schema, table]
    (do return "Error getting metadata for " ++ (← schema.shown) ++ "." ++ (← table.shown))
    fun e r => r.rows.mapM (describedColumn e (r.columns.getD []))
  return ⟨schema, table, columns⟩

/-- Reports that a statement is about to run; only its beginning is shown. -/
def reportExecution (sql : String) : Action Unit := do
  reportSource Log.debug ("Executing query on " ++ (← check (← get).source.name.shown) ++ ": "
    ++ String.ofList (sql.toList.take 100) ++ "...")

/-- Runs a statement on the pool: the result is committed before it is put into columns, and a
refusal rolls the transaction back. -/
def executePooled (sql : String) (args : List Value) : Action Table :=
  borrowing (do
    reportExecution sql
    let r ← send sql args
    match r.columns with
    | none => throw (.misuse (.iterate "NoneType"))
    | some names =>
      perform .commit
      check (Table.ofRows names r.rows)) fun m => do
    perform .rollback
    reportSource Log.error
      ("Query execution failed on " ++ (← check (← get).source.name.shown) ++ ": " ++ m)

/-- Runs a statement on the database file. -/
def executeFile (sql : String) (args : List Value) : Action Table := do
  let s := (← get).source
  if !s.held then throw (.notConnected (← check s.name.shown))
  reportExecution sql
  let r ← send sql args
  check (Table.ofRows (r.columns.getD []) r.rows)

/-- Runs a statement for which the placeholders have been replaced already. -/
def execute (sql : String) (args : List Value) : Action Table := do
  match (← get).source.engine with
  | .duckdb => executeFile sql args
  | .postgresql => executePooled sql args

end Session

end BoundSql
