import BoundSql.CommandLine.Request
import BoundSql.Grid
import BoundSql.Session.Query
import BoundSql.Yaml.Document

/-!
# Carrying out requests

What the command line does (`CommandLine.run`): its status, what it prints on the two streams, the
calls on the driver, and the files afterwards, for given files, arguments and replies of the driver,
and for what the clock shows meanwhile.

* The status is 0 for success, 2 for arguments that are refused, and 1 for a fault.
* Faults of definitions, configurations, connections and queries are reported on the error stream.
  Any other fault is not caught, and nothing is printed for it.
* A query runs in the scope of its data source, which is closed at the end whatever happens.
-/

namespace BoundSql

namespace CommandLine

/-- What the clock shows in the course of the work. -/
structure Clock where
  /-- At the records of events, by their number. -/
  reading : Nat → Log.Logging.Reading
  /-- How long the query took, in milliseconds. -/
  elapsed : Binary64

/-- What has been done so far. -/
structure State where
  stdout : String
  logging : Log.Logging
  calls : List Call
  deriving Inhabited

/-- Why the work ends early. -/
inductive Stop where
  | usage (f : UsageFault)
  /-- A fault that has been reported. -/
  | reported
  | escaped (f : Fault)
  deriving Repr

/-- Work that may end early. -/
abbrev Action (α : Type) := ExceptT Stop (StateM State) α

/-- Prints a line. -/
def print (line : String) : Action Unit :=
  modify fun s => { s with stdout := s.stdout ++ line ++ "\n" }

/-- Prints a line on the error stream. -/
def complain (line : String) : Action Unit :=
  modify fun s =>
    { s with logging := { s.logging with stderr := s.logging.stderr ++ line ++ "\n" } }

/-- Ends the work because of a fault, which is reported if it is of a kind that is. -/
def stop {α : Type} (isReported : Fault → Bool) (f : Fault) : Action α := do
  if isReported f then
    complain ("error: " ++ f.message)
    throw .reported
  else throw (.escaped f)

/-- The result of an outcome. -/
def require {α : Type} (isReported : Fault → Bool) : Outcome α → Action α
  | .ok a => pure a
  | .error f => stop isReported f

/-- No fault is of a kind that is reported. -/
def never (_ : Fault) : Bool := false

/-- The faults of a definition that are reported. -/
def ofDefinition (f : Fault) : Bool := f.family == .definition || f.family == .document

/-- The faults of a configuration that are reported. -/
def ofConfig (f : Fault) : Bool := f.isValueFault || f.family == .document

/-- The faults of a query that are reported. -/
def ofQuery (f : Fault) : Bool := f.family == .persisting || f.family == .connection

/-- Sets logging up. -/
def setupLogging (level structured logFile : Value) : Action Unit := do
  let s ← get
  let (result, logging) := (Log.Logging.setup level structured logFile).run.run s.logging
  set { s with logging }
  require never result

/-- The level given by an option, unless it is missing or empty. -/
def levelOr (given : Option String) (default : Value) : Value :=
  match given with
  | some level => if level.isEmpty then default else .text level
  | none => default

/-- The builder that the definition at a path makes. -/
def buildQuery (files : Files) (path : String) : Outcome Builder := do
  (← Definition.load path (files.text? path)).build

/-- A parameter with its position. -/
def parameterLine (p : Nat × Value) : Outcome String := do
  return "?" ++ toString p.1 ++ " = " ++ (← p.2.written)

/-- Shows the statement of a query and its parameters. -/
def render (files : Files) (level : Option String) (query : String) : Action Unit := do
  setupLogging (levelOr level (.text "WARNING")) (.bool false) .null
  let b ← require ofDefinition (buildQuery files query)
  print (← require never b.sql)
  b.params.forM fun p => do print (← require never (parameterLine p))

/-- The data source that is chosen by its name, or the only one. -/
def chooseSource (config : Config) (name : Option String) : Except UsageFault SourceConfig :=
  match name.filter fun n => !n.isEmpty with
  | some n =>
    match config.sources.find? fun s => s.name.eq (.text n) with
    | some s => .ok s
    | none => .error (.unknownSource n)
  | none =>
    match config.sources with
    | [s] => .ok s
    | _ => .error .severalSources

/-- Opens the data source, runs a query and closes the data source. -/
def queryInScope (config : ExecutorConfig) (b : Builder) : Session.Action (List Row) := do
  Session.ensureConnected
  Session.finishing (Session.query config b .map) Session.leave

/-- Works on a data source: its calls are recorded and its events are logged. -/
def inSession {α : Type} (clock : Clock) (source : Source) (replies : Replies)
    (a : Session.Action α) : Action (Outcome α) := do
  let (result, session) := a.run.run (Session.start source replies)
  modify fun s => { s with
    logging := session.events.zipIdx.foldl
      (fun l e => l.writeEvent (clock.reading e.2) e.1) s.logging
    calls := s.calls ++ session.calls }
  return result

/-- A row as a map. -/
def rowEntries : Row → Mapping
  | .map m => m
  | _ => []

/-- Shows rows as a table. -/
def showRows (clock : Clock) (rows : List Row) : Action Unit := do
  let (lines, fault) := Grid.display (rows.map rowEntries) (.float clock.elapsed)
  lines.forM print
  match fault with
  | some f => throw (.escaped f)
  | none => pure ()

/-- Runs a query on a data source of a configuration. -/
def execute (clock : Clock) (files : Files) (replies : Replies) (level : Option String)
    (query config : String) (name : Option String) : Action Unit := do
  let c ← require ofConfig (Config.load config (files.text? config))
  setupLogging (levelOr level c.logging.level) c.logging.structured c.logging.logFile
  let chosen ← match chooseSource c name with
    | .ok s => pure s
    | .error f => throw (.usage f)
  let b ← require ofDefinition (buildQuery files query)
  let source ← require Fault.isValueFault (Source.ofConfig chosen)
  let rows ← require ofQuery (← inSession clock source replies (queryInScope c.executor b))
  showRows clock rows

/-- Carries out a request. -/
def perform (clock : Clock) (files : Files) (replies : Replies) (r : Request) : Action Unit :=
  match r.command with
  | .render query => render files r.logLevel query
  | .run query config name => execute clock files replies r.logLevel query config name
  | .help => pure ()

/-- What came of the arguments. -/
structure Report where
  status : Nat
  stdout : String
  stderr : String
  calls : List Call
  files : Files
  /-- A fault that was not caught. -/
  fault : Option Fault
  deriving Inhabited

/-- The status of work that ended in a certain way. -/
def status : Except Stop Unit → Nat
  | .ok _ => 0
  | .error (.usage _) => 2
  | .error _ => 1

/-- The fault that was not caught. -/
def fault? : Except Stop Unit → Option Fault
  | .error (.escaped f) => some f
  | _ => none

/-- What is printed at the end on the error stream: why the arguments are refused. -/
def lastWords : Except Stop Unit → String
  | .error (.usage f) => f.lastLine ++ "\n"
  | _ => ""

/-- Carries out what the arguments ask for. -/
def run (clock : Clock) (files : Files) (arguments : List String) (replies : Replies) : Report :=
  let work : Action Unit := do
    match Request.ofArguments files arguments with
    | .ok r => perform clock files replies r
    | .error f => throw (.usage f)
  let (result, s) := work.run.run ⟨"", Log.Logging.start files, []⟩
  ⟨status result, s.stdout, s.logging.stderr ++ lastWords result, s.calls, s.logging.files,
    fault? result⟩

end CommandLine

end BoundSql
