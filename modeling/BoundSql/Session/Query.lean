import BoundSql.Program
import BoundSql.Session

/-!
# Running queries

A query runner binds the parameters of a query, runs it on a data source and turns the result into
rows.  Rows of another shape than tuples are read in batches; the size of a batch does not change
them.  A query that a builder assembled is run in the same way, except that every fault comes out as
one that says the query could not be run (`Session.query`).
-/

namespace BoundSql.Session

/-- The logger of the query runner. -/
def runnerLogger : String := "query_assembler.executor.executor"

/-- The logger of builders. -/
def builderLogger : String := "query_assembler.builder.query_builder"

/-- The query runner as diagnostics show it. -/
def runnerLiteral (s : Source) : Outcome String := do
  return "QueryExecutor(datasource=" ++ (← s.name.shown) ++ ")"

/-- How the values of a query are reported: only if asked for, and then all of them. -/
def shownValues (config : ExecutorConfig) (args : List Value) : Outcome String :=
  if config.logParameters.truthy then do return " with " ++ (← (Value.list args).written)
  else .ok ""

/-- Binds the parameters and runs the query.  It is reported first; values that cannot be written are
a fault of that. -/
def runToTable (config : ExecutorConfig) (sql : String) (params : Mapping) : Action Table := do
  ensureConnected
  let s := (← get).source
  let (driverSql, args) ← check (Placeholder.bind s.engine sql params)
  let shown ← check (shownValues config args)
  report Log.debug runnerLogger ("Running " ++ driverSql ++ shown)
    (some [(.text "datasource", s.name)])
  execute driverSql args

/-- The number of rows in a batch: any positive number, or no limit. -/
def batchSize : Value → Outcome (Option Nat)
  | .null => .ok none
  | .decimal (.nan ..) => .error .unordered
  | v =>
    match v.quotient?, v.infinity? with
    | none, none =>
      match v with
      | .float _ => .error .chunkSize
      | v => .error (.misuse (.compare ">" v.kind "int"))
    | none, some negative => if negative then .error .chunkSize else wholeSize v
    | some (n, _), _ => if n ≤ 0 then .error .chunkSize else wholeSize v
where
  /-- The integer part of a positive number. -/
  wholeSize (v : Value) : Outcome (Option Nat) :=
    match v.wholePart? with
    | none => .error .chunkSize
    | some r => do
      let n ← r
      if Nat.pow 2 63 ≤ n then throw .longInteger else return some n.toNat

/-- The rows of a table in a shape.  Each batch is read as a whole before its rows are shaped. -/
def shapeRows (config : ExecutorConfig) (shape : Shape) (t : Table) : Outcome (List Row) :=
  match shape with
  | .tuple => t.rows.map fun rs => rs.map .tuple
  | shape => do
    let size ← batchSize config.batchSize
    let rows ← (t.batches size).mapM fun batch => do
      (← batch.records).mapM shape.ofRecord
    return rows.flatten

/-- Runs a query and returns its rows. -/
def run (config : ExecutorConfig) (sql : String) (params : Mapping) (shape : Shape) :
    Action (List Row) := do
  check (shapeRows config shape (← runToTable config sql params))

/-- Runs the query that a builder assembled. -/
def query (config : ExecutorConfig) (b : Builder) (shape : Shape) : Action (List Row) := do
  let sql ← check b.sql
  report Log.debug builderLogger ("Prepared query " ++ sql) none
  tryCatch (run config sql b.paramMap shape) fun f => throw (.persisting f)

/-- The builder that a program leaves, or the fault of its first step that fails. -/
def assembled (p : Program) : Outcome Builder :=
  let answers := Program.run p
  match answers.find? fun a => match a.result with | .error _ => true | .ok _ => false with
  | some a => a.result.map fun _ => a.builder
  | none => .ok ((answers.getLast?.map (·.builder)).getD Builder.empty)

/-- Selects every column of a table, as the database describes it. -/
def selectAll (schema table : Value) : Action String := do
  let description ← describe schema table
  let columns ← check description.projection
  let (result, b) := (Builder.select (columns.map .plain) table []).run.run Builder.empty
  check result
  check b.sql

end BoundSql.Session
