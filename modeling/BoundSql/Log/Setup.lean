import BoundSql.Log.Format
import BoundSql.Text.Upper

/-!
# Where log records go

Logging is set up once or several times; each setup replaces the handlers of the one before.  There
is always a handler for the error stream, and one for a file if one is named.  A record is written by
every handler whose level it reaches, provided that it reaches the threshold of its logger: the level
of the latest setup, or a warning for loggers of the PostgreSQL driver.  Without any setup, warnings
and worse go to the error stream as bare messages.

Records made with a context go through an adapter, which attaches its own context to each, with the
context of the single call over it.
-/

namespace BoundSql.Log

/-- Something that writes records: to the error stream, or to a file. -/
structure Handler where
  file : Option String
  level : Level
  style : Style
  deriving Repr, Inhabited

/-- The state of logging, and what has been written. -/
structure Logging where
  /-- The threshold of loggers in general. -/
  level : Level
  /-- The threshold of the PostgreSQL driver's loggers; zero stands for none of their own. -/
  driverLevel : Level
  handlers : List Handler
  /-- What has been written to the error stream. -/
  stderr : String
  /-- The files, by name. -/
  files : List (String × String)
  deriving Inhabited

namespace Logging

/-- Logging that has not been set up, with the files that are there already. -/
def start (files : List (String × String)) : Logging := ⟨warning, 0, [], "", files⟩

/-- An operation on the state of logging, which may fail after it has changed the state. -/
abbrev Action (α : Type) := ExceptT Fault (StateM Logging) α

/-- An outcome as an action that changes nothing. -/
def check {α : Type} (x : Outcome α) : Action α := ExceptT.mk (pure x)

/-! ### Levels -/

/-- What a level's name may stand for. -/
inductive NamedLevel where
  | level (l : Level)
  /-- A text that is no level. -/
  | text (s : String)
  /-- Something else, as diagnostics show it. -/
  | other (shown : String)
  deriving Repr

/-- The format that has a name among the levels. -/
def basicFormat : String := "%(levelname)s:%(name)s:%(message)s"

/-- The table of format styles, which has a name among the levels, as diagnostics show it. -/
def stylesLiteral : String :=
  "\x7b'%': (<class 'logging.PercentStyle'>, '%(levelname)s:%(name)s:%(message)s'), "
    ++ "'\x7b': (<class 'logging.StrFormatStyle'>, "
    ++ "'\x7blevelname\x7d:\x7bname\x7d:\x7bmessage\x7d'), "
    ++ "'$': (<class 'logging.StringTemplateStyle'>, "
    ++ "'$\x7blevelname\x7d:$\x7bname\x7d:$\x7bmessage\x7d')\x7d"

/-- What a name, in capitals, stands for; unknown names stand for ordinary progress. -/
def namedLevel (name : String) : NamedLevel :=
  if name == "CRITICAL" || name == "FATAL" then .level critical
  else if name == "ERROR" then .level error
  else if name == "WARNING" || name == "WARN" then .level warning
  else if name == "INFO" then .level info
  else if name == "DEBUG" then .level debug
  else if name == "NOTSET" then .level 0
  else if name == "BASIC_FORMAT" then .text basicFormat
  else if name == "_STYLES" then .other stylesLiteral
  else .level info

/-- What a setup's level stands for, whatever the case of its name. -/
def levelOf : Value → Outcome NamedLevel
  | .text s => .ok (namedLevel (Text.upper s))
  | .bytes _ => .error (.misuse (.formatText "attribute name must be string, not 'bytes'"))
  | v => .error (.misuse (.member v.kind "upper"))

/-- A level that handlers accept. -/
def acceptLevel : NamedLevel → Outcome Level
  | .level l => .ok l
  | .text s => .error (.value ("Unknown level: " ++ Text.quoted s))
  | .other s => .error (.misuse (.formatText ("Level not an integer or a valid string: " ++ s)))

/-! ### Files -/

/-- The parts of a path, with the steps to the same and to the upper directory carried out. -/
def pathParts (cs : List Char) : List (List Char) :=
  (cs.splitOn '/').foldl (fun acc part =>
    if part.isEmpty || part == ['.'] then acc
    else if part == ['.', '.'] then acc.dropLast
    else acc ++ [part]) []

/-- A path in the form that tells files apart. -/
def normalPath (path : String) : String :=
  let cs := path.toList
  let body := List.intercalate ['/'] (pathParts cs)
  String.ofList (if cs.head? == some '/' then '/' :: body else body)

/-- The path that a value is. -/
def path? : Value → Option String
  | .text s => some s
  | .bytes bs => some (String.ofList (bs.map fun b => Char.ofNat b.toNat))
  | _ => none

/-- The file that a setup names, if it names one. -/
def fileOf (v : Value) : Outcome (Option String) :=
  if !v.truthy then .ok none
  else match path? v with
    | some path =>
      if path.toList.contains '\x00' then .error (.value "embedded null byte")
      else .ok (some (normalPath path))
    | none => .error (.misuse (.notPath (shortKind v)))
where
  /-- The last part of the name of a value's kind. -/
  shortKind (v : Value) : String :=
    String.ofList ((v.kind.toList.reverse.takeWhile (· != '.')).reverse)

/-- A directory is there: the one where the program works, the root, or one that holds a file. -/
def isDirectory (files : List (String × String)) (name : String) : Bool :=
  name.isEmpty || name == "/" || files.any fun f => (name ++ "/").toList.isPrefixOf f.1.toList

/-- The directory that a file is in. -/
def directoryOf (name : String) : String :=
  String.ofList ((name.toList.reverse.dropWhile (· != '/')).drop 1).reverse

/-- Makes sure that a file is there.  No directory is made for it. -/
def openFile (name : String) (files : List (String × String)) :
    Outcome (List (String × String)) :=
  if isDirectory files name then .error (.unopened "[Errno 21] Is a directory" name)
  else if isDirectory files (directoryOf name) then
    .ok (if files.any fun f => f.1 == name then files else files ++ [(name, "")])
  else if files.any fun f => (f.1 ++ "/").toList.isPrefixOf name.toList then
    .error (.unopened "[Errno 20] Not a directory" name)
  else .error (.unopened "[Errno 2] No such file or directory" name)

/-- Opens the file that a setup names, if it names one. -/
def opened (file : Option String) (files : List (String × String)) :
    Outcome (List (String × String)) :=
  match file with
  | some name => openFile name files
  | none => .ok files

/-- Adds to the end of a file. -/
def appendFile (name text : String) (files : List (String × String)) : List (String × String) :=
  files.map fun f => if f.1 == name then (f.1, f.2 ++ text) else f

/-! ### Setting up -/

/-- Replaces the handlers and the levels.  The file is opened before the level is checked. -/
def setup (level structured logFile : Value) : Action Unit := do
  let named ← check (levelOf level)
  let style := if structured.truthy then Style.structured else Style.standard
  let file ← check (fileOf logFile)
  let files ← check (opened file (← get).files)
  modify fun l => { l with files }
  let accepted ← check (acceptLevel named)
  let handlers := [⟨none, accepted, style⟩] ++ match file with
    | some name => [⟨some name, accepted, style⟩]
    | none => []
  modify fun l => { l with level := accepted, driverLevel := warning, handlers := handlers }

/-! ### Writing records -/

/-- A logger of the PostgreSQL driver. -/
def isDriverLogger (logger : String) : Bool :=
  logger == "psycopg2" || "psycopg2.".toList.isPrefixOf logger.toList

/-- The level that a record of a logger has to reach. -/
def threshold (l : Logging) (logger : String) : Level :=
  if isDriverLogger logger && l.driverLevel != 0 then l.driverLevel else l.level

/-- A record of this level is of interest; levels that are not positive never are. -/
def isEnabled (l : Logging) (logger : String) (level : Level) : Bool :=
  0 < level && l.threshold logger ≤ level

/-- Writes a text where a handler writes. -/
def emit (h : Handler) (text : String) (l : Logging) : Logging :=
  match h.file with
  | none => { l with stderr := l.stderr ++ text }
  | some name => { l with files := appendFile name text l.files }

/-- Lets one handler write a record; a record that has no text is not written. -/
def handle (r : Record) (l : Logging) (h : Handler) : Logging :=
  if r.level < h.level then l
  else match h.style.line r with
    | .ok line => emit h (line ++ "\n") l
    | .error _ => l

/-- Writes a record where no handlers are set up. -/
def lastResort (r : Record) (l : Logging) : Logging :=
  if r.level < warning then l
  else match r.text with
    | .ok text => { l with stderr := l.stderr ++ text ++ "\n" }
    | .error _ => l

/-- Writes a record that is of interest. -/
def write (r : Record) (l : Logging) : Logging :=
  if !l.isEnabled r.logger r.level then l
  else if l.handlers.isEmpty then lastResort r l
  else l.handlers.foldl (handle r) l

/-- The name that a logger's records carry; the one without a name is the root of all. -/
def shownName (logger : String) : String := if logger.isEmpty then "root" else logger

/-- What the clock shows of a record: the second in which it is made, since the beginning of 1970, and
the moment at which its line is. -/
structure Reading where
  created : Int
  stamped : Moment
  deriving Repr, Inhabited

/-- A record of an event, made in a place of no interest. -/
def recordOf (t : Reading) (e : Event) : Record :=
  { logger := shownName e.logger, level := e.level, message := .text e.message, args := [],
    path := "module", function := "function", line := 1, raised := none, created := t.created,
    stamped := t.stamped, context := e.context.map .map }

/-- Writes the record of an event. -/
def writeEvent (t : Reading) (l : Logging) (e : Event) : Logging := write (recordOf t e) l

end Logging

/-! ### Adapters -/

/-- A logger with a context for all its records. -/
structure Adapter where
  logger : String
  context : Mapping
  deriving Repr, Inhabited

namespace Adapter

/-- The adapter for a logger with a context given as a map or as pairs. -/
def of (logger : String) (context : Value) : Outcome Adapter := do
  return ⟨logger, ← context.asMapping⟩

/-- The value at a key, unless it is absent or says nothing. -/
def present? (m : Mapping) (key : String) : Option Value :=
  (m.field? key).bind fun v => if v.truthy then some v else none

/-- The options of a call, with the contexts of adapter and call merged. -/
def process (a : Adapter) (options : Mapping) : Outcome Mapping := do
  let extra ← match present? options "extra" with
    | some v => v.asMapping
    | none => .ok []
  let own ← match present? extra "context" with
    | some (.map m) => .ok m
    | some v => .error (.misuse (.notMapping v.kind))
    | none => .ok []
  let extra := Mapping.set extra (.text "context") (.map (Mapping.update a.context own))
  return Mapping.set options (.text "extra") (.map extra)

/-- The fields of a record that a call must not set. -/
def reserved : List String :=
  ["message", "asctime", "name", "msg", "args", "levelname", "levelno", "pathname", "filename",
    "module", "exc_info", "exc_text", "stack_info", "lineno", "funcName", "created", "msecs",
    "relativeCreated", "thread", "threadName", "processName", "process"]

/-- The first reserved field that a call sets. -/
def overwritten? : Mapping → Option String
  | [] => none
  | (.text k, _) :: r => if reserved.contains k then some k else overwritten? r
  | _ :: r => overwritten? r

/-- The first option that a call does not have. -/
def unexpected? : Mapping → Option Misuse
  | [] => none
  | (.text k, _) :: r =>
    if ["exc_info", "extra", "stack_info", "stacklevel"].contains k then unexpected? r
    else if ["self", "level", "msg", "args"].contains k then some (.repeatedField "Logger._log" k)
    else some (.unexpectedField "Logger._log" k)
  | _ :: r => unexpected? r

/-- An option that stands for a parameter which the call has already. -/
def repeated? : Mapping → Option Misuse
  | [] => none
  | (.text k, _) :: r =>
    if ["self", "level", "msg"].contains k then some (.repeatedField "LoggerAdapter.log" k)
    else repeated? r
  | _ :: _ => some .keywords

/-- Logs a message through the adapter. -/
def log (a : Adapter) (t : Logging.Reading) (level : Level) (message : Value) (options : Mapping) :
    Logging.Action Unit := do
  if let some why := repeated? options then throw (.misuse why)
  if (← get).isEnabled a.logger level then
    let options ← Logging.check (a.process options)
    if let some why := unexpected? options then throw (.misuse why)
    let _ ← Logging.check (levelName level)
    let extra ← match options.field? "extra" with
      | some (.map m) => pure m
      | _ => pure []
    if let some k := overwritten? extra then throw (.overwrite k)
    let raised := (present? options "exc_info").map fun _ => (⟨"NoneType: None", none⟩ : Raised)
    let record : Record :=
      { Logging.recordOf t ⟨level, a.logger, "", none⟩ with
        message := message, raised := raised, context := Mapping.field? extra "context" }
    modify (Logging.write record)

end Adapter

end BoundSql.Log
