import BoundSql.Definition

/-!
# Configuration

A configuration names data sources and sets how queries are run and how records are logged.  It is
read from a document (`Config.ofValue`).  A data source needs a type and keeps its other settings as
they are; the two sections have fixed fields with defaults, take any values for them and accept no
other field.
-/

namespace BoundSql

/-- A data source as configured. -/
structure SourceConfig where
  name : Value
  type : Value
  /-- The settings other than the type. -/
  options : Mapping
  deriving Repr, Inhabited

/-- How queries are run. -/
structure ExecutorConfig where
  batchSize : Value
  logParameters : Value
  deriving Repr, Inhabited

/-- How records are logged. -/
structure LoggingConfig where
  level : Value
  structured : Value
  logFile : Value
  deriving Repr, Inhabited

/-- A configuration. -/
structure Config where
  sources : List SourceConfig
  executor : ExecutorConfig
  logging : LoggingConfig
  deriving Repr, Inhabited

/-- The fixed fields of a section and what it is called in diagnostics. -/
structure Section where
  key : String
  typeName : String
  defaults : List (String × Value)

namespace Section

/-- The section on running queries. -/
def executor : Section :=
  ⟨"executor", "ExecutorConfig", [("batch_size", .int 10000), ("log_parameters", .bool true)]⟩

/-- The section on logging. -/
def logging : Section :=
  ⟨"logging", "LoggingConfig",
    [("level", .text "INFO"), ("structured", .bool false), ("log_file", .null)]⟩

/-- What a section's constructor is called in diagnostics. -/
def constructorName (s : Section) : String := s.typeName ++ ".__init__"

/-- A key of a section that is no text. -/
def isForeign : Value × Value → Bool
  | (.text _, _) => false
  | _ => true

/-- The first key that is no field. -/
def unexpected? (s : Section) : Mapping → Option Misuse
  | [] => none
  | (.text k, _) :: r =>
    if (s.defaults.map (·.1)).contains k then s.unexpected? r
    else if k == "self" then some (.repeatedField s.constructorName k)
    else some (.unexpectedField s.constructorName k)
  | _ :: r => s.unexpected? r

/-- What the section's type is called when it is applied to something that is no map. -/
def qualifiedName (s : Section) : String := "query_assembler.config.config." ++ s.typeName

/-- The value of every field: the one given or the default. -/
def fill (s : Section) (m : Mapping) : Except Misuse (List Value) :=
  if m.any isForeign then .error .keywords
  else match s.unexpected? m with
    | some why => .error why
    | none => .ok (s.defaults.map fun f => (m.field? f.1).getD f.2)

/-- The values of the fields from settings that have to be a map. -/
def fillFrom (s : Section) : Value → Except Misuse (List Value)
  | .map m => s.fill m
  | v => .error (.unpack s.qualifiedName v.kind)

/-- The values of a section of a document; a section that is absent has its defaults. -/
def read (s : Section) (document : Mapping) : Outcome (List Value) :=
  let fillIn (m : Mapping) : Outcome (List Value) :=
    (s.fill m).mapError fun why => .config (.sectionField s.key why)
  match document.field? s.key with
  | none => fillIn []
  | some v =>
    if !v.truthy then fillIn []
    else match v with
      | .map m => fillIn m
      | _ => .error (.config (.notSection s.key))

end Section

namespace ExecutorConfig

/-- The settings from the fields of their section, in order. -/
def ofFields (vs : List Value) : ExecutorConfig := ⟨vs.getD 0 .null, vs.getD 1 .null⟩

/-- The settings of a query runner that is given none. -/
def default : ExecutorConfig := ofFields (Section.executor.defaults.map (·.2))

end ExecutorConfig

namespace LoggingConfig

/-- The settings from the fields of their section, in order. -/
def ofFields (vs : List Value) : LoggingConfig :=
  ⟨vs.getD 0 .null, vs.getD 1 .null, vs.getD 2 .null⟩

end LoggingConfig

namespace SourceConfig

/-- A data source from its name and its entry in a document. -/
def ofEntry : Value × Value → Outcome SourceConfig
  | (name, .map m) =>
    match Mapping.field? m "type" with
    | some type => .ok ⟨name, type, Mapping.erase m (.text "type")⟩
    | none => .error (.config (.sourceType name))
  | (name, _) => .error (.config (.sourceType name))

/-- The entries of a document's data sources; anything absent stands for none. -/
def entries : Option Value → Outcome Mapping
  | none => .ok []
  | some v =>
    if !v.truthy then .ok []
    else match v with
      | .map m => .ok m
      | v => .error (.misuse (.member v.kind "items"))

end SourceConfig

namespace Config

/-- Reads a configuration written as a map. -/
def ofMapping (m : Mapping) : Outcome Config := do
  let sources ← (← SourceConfig.entries (m.field? "datasources")).mapM SourceConfig.ofEntry
  let executor ← Section.executor.read m
  let logging ← Section.logging.read m
  return ⟨sources, ExecutorConfig.ofFields executor, LoggingConfig.ofFields logging⟩

/-- Reads a configuration. -/
def ofValue : Value → Outcome Config
  | .map m => ofMapping m
  | _ => .error (.config .notMapping)

/-- Reads a configuration, and words the fault if there is one. -/
def read (v : Value) : Outcome Config := (ofValue v).mapError Fault.worded

end Config

end BoundSql
