import BoundSql.CommandLine.Usage
import BoundSql.Log.Setup

/-!
# Requests

What a user may ask of the command line: to show the statement of a query definition with its
parameters, to run it on a configured data source, or help.  A request is read from the arguments
(`Request.ofArguments`); the files that it names have to be there.
-/

namespace BoundSql

/-- The files that there are, by name. -/
abbrev Files := List (String × String)

namespace Files

/-- What a path leads to. -/
inductive Found where
  | file (text : String)
  | directory
  | nothing
  deriving DecidableEq, Repr

/-- The path asks for a directory. -/
def asksDirectory (path : String) : Bool :=
  match path.toList.reverse with
  | '/' :: _ | ['.'] | '.' :: '/' :: _ | ['.', '.'] | '.' :: '.' :: '/' :: _ => true
  | _ => false

/-- What a path leads to. -/
def find (files : Files) (path : String) : Found :=
  let name := Log.Logging.normalPath path
  if path.isEmpty then .nothing
  else if Log.Logging.isDirectory files name then .directory
  else if asksDirectory path then .nothing
  else match files.lookup name with
    | some text => .file text
    | none => .nothing

/-- The text of the file at a path. -/
def text? (files : Files) (path : String) : Option String :=
  match files.find path with
  | .file text => some text
  | _ => none

end Files

/-- What the user asks for. -/
inductive Command where
  | render (query : String)
  | run (query config : String) (source : Option String)
  | help
  deriving DecidableEq, Repr

/-- A command, with the level of log records if one is given. -/
structure Request where
  logLevel : Option String
  command : Command
  deriving DecidableEq, Repr

namespace Request

open Usage

/-- The option that sets the level of log records. -/
def levelFlag : Flag := ⟨none, "log-level", true⟩

/-- The option that names the configuration. -/
def configFlag : Flag := ⟨some 'c', "config", true⟩

/-- The option that chooses a data source. -/
def sourceFlag : Flag := ⟨some 'd', "datasource", true⟩

/-- What the argument with the query definition is called. -/
def queryName : String := "QUERY_FILE"

/-- A path that has to lead to a file. -/
def existing (files : Files) (names : List String) (path : String) : Except UsageFault String :=
  match files.find path with
  | .file _ => .ok path
  | .directory => .error (.directory names path)
  | .nothing => .error (.noSuchFile names path)

/-- The query definition among the arguments. -/
def queryArgument (files : Files) (p : Parsed) : Except UsageFault String :=
  match p.positionals with
  | [] => .error (.missingArgument queryName)
  | path :: _ => existing files [queryName] path

/-- No arguments are left over. -/
def noneLeft (p : Parsed) : Except UsageFault Unit :=
  match p.positionals with
  | _ :: r@(_ :: _) => .error (.extraArguments r)
  | _ => .ok ()

/-- A request to show a statement. -/
def renderCommand (files : Files) (arguments : List String) : Except UsageFault Command := do
  let p ← parse [Flag.help] true arguments
  if p.has Flag.help then return .help
  let query ← queryArgument files p
  noneLeft p
  return .render query

/-- A request to run a query.  Options that are given are examined before arguments, and those that
are missing after them. -/
def runCommand (files : Files) (arguments : List String) : Except UsageFault Command := do
  let p ← parse [configFlag, sourceFlag, Flag.help] true arguments
  if p.has Flag.help then return .help
  let config ← (p.value? configFlag).mapM (existing files configFlag.forms)
  let query ← queryArgument files p
  match config with
  | none => throw (.missingOption configFlag.forms)
  | some config =>
    noneLeft p
    return .run query config (p.value? sourceFlag)

/-- The names of the commands. -/
def commandNames : List String := ["render", "run"]

/-- A command that there is not, with its arguments.  What looks like an option is read as one. -/
def unknownCommand (level : Option String) (name : String) (arguments : List String) :
    Except UsageFault Request := do
  let p ← parse [levelFlag, Flag.help] false (name :: arguments)
  if p.has Flag.help then return ⟨level, .help⟩
  throw (.noSuchCommand name (similar commandNames name))

/-- A request from the arguments of the command line. -/
def ofArguments (files : Files) (arguments : List String) : Except UsageFault Request := do
  if arguments.isEmpty then throw .noArguments
  let p ← parse [levelFlag, Flag.help] false arguments
  let level := p.value? levelFlag
  if p.has Flag.help then return ⟨level, .help⟩
  match p.positionals with
  | [] => throw .missingCommand
  | "render" :: r => return ⟨level, ← renderCommand files r⟩
  | "run" :: r => return ⟨level, ← runCommand files r⟩
  | name :: r => unknownCommand level name r

end Request

end BoundSql
