import BoundSql.Value.Notation
import BoundSql.Text.Utf8

/-!
# Faults

Everything that can go wrong, by cause, and the wording of each (`Fault.message`).  A fault belongs
to a family (`Fault.family`); the command line and the query runner treat faults by family.

* `Misuse` is an operation applied to a value whose kind does not support it;
* `DefinitionFault` and `ConfigFault` are malformed documents;
* the remaining constructors belong to parameters, data sources, results and the runner.
-/

namespace BoundSql

/-- An operation that a value does not support. -/
inductive Misuse where
  /-- The kind of value has no such member. -/
  | member (kind name : String)
  | iterate (kind : String)
  | hash (kind : String)
  /-- The value at this place cannot be joined into a text. -/
  | join (index : Nat) (kind : String)
  /-- The value cannot be turned into a text pattern. -/
  | decode (kind : String)
  /-- The value cannot be searched for a text pattern. -/
  | search (kind : String)
  | searchBytes
  | length (kind : String)
  | compare (operator left right : String)
  | notMapping (kind : String)
  | notPath (kind : String)
  | selectItem (value : Value)
  | updateElement (index : Nat)
  | jsonKey (kind : String)
  | formatSpec (kind : String)
  | formatText (text : String)
  | unpack (function kind : String)
  | unexpectedField (function name : String)
  | missingFields (function : String) (names : List String)
  | repeatedField (function name : String)
  | keywords
  deriving Repr

/-- Why a query definition is refused. -/
inductive DefinitionFault where
  | notMapping
  | noTable
  | table (value : Value)
  | aliases (value : Value)
  | sortBy (value : Value)
  | limit (value : Value)
  | columnText (entry : Value)
  | columnKey (key : String) (entry : Value)
  | column (entry : Value)
  | derived (entry : Value)
  | derivedText (key : String) (entry : Value)
  | derivedKind (entry : Value)
  | unnamedSubquery
  | conditionValue (entry : Value)
  | conditionKind (entry : Value)
  | bounds (entry : Value)
  deriving Repr

/-- Why a configuration is refused. -/
inductive ConfigFault where
  | notMapping
  | sourceType (name : Value)
  | notSection (key : String)
  | sectionField (key : String) (why : Misuse)
  deriving Repr

/-- Everything that can go wrong. -/
inductive Fault where
  | misuse (m : Misuse)
  | definition (d : DefinitionFault)
  | config (c : ConfigFault)
  | calendar (c : CalendarFault)
  /-- A subquery column without a name. -/
  | unnamedSubquery
  /-- A placeholder whose position has no value. -/
  | unbound (position : Nat)
  /-- A numeral with too many digits. -/
  | longNumeral (limit digits : Nat)
  /-- An integer with too many digits to be written. -/
  | unwritable (limit : Nat)
  | missingKey (key : Value)
  | overwrite (field : String)
  | sourceType (value : Value)
  | connection (engine message : String)
  | notConnected (source : String)
  /-- The driver refused the call. -/
  | driver (message : String)
  /-- The driver failed in a way of its own. -/
  | driverOther (message : String)
  /-- An element of the wrong length where a pair was expected. -/
  | pairLength (index length : Nat)
  | tupleIndex
  | textIndex
  | chunkSize
  /-- Values that no type holds, or that do not fit into the type of their column. -/
  | columnMix
  /-- A value of a kind that its column's type does not take. -/
  | columnKind
  /-- A type that columns have but parts of lists and maps do not. -/
  | columnNested
  /-- Bytes that are no UTF-8 where a text was expected. -/
  | undecodable (f : Utf8Fault)
  | longInteger
  | floatOverflow
  /-- A value that is no number has no integer part. -/
  | notWhole (what : String)
  /-- An infinity has no integer part. -/
  | endless (what : String)
  | signalingNan
  /-- An infinity among decimals that are to get places in common. -/
  | infinitePlaces
  /-- A decimal value that is no number cannot be compared. -/
  | unordered
  /-- A day or a moment beyond the calendar. -/
  | beyondCalendar
  /-- More days than can be counted. -/
  | dayCount (days : Int)
  | overflow (message : String)
  | value (message : String)
  | missingFile (what path : String)
  /-- A file that the system does not open for writing. -/
  | unopened (why path : String)
  /-- A document that is no well-formed YAML. -/
  | document
  /-- A query that could not be run, with the fault that stopped it. -/
  | persisting (cause : Fault)
  deriving Repr, Inhabited

/-- The families of faults. -/
inductive Fault.Family where
  | type | member | value | key | index | connection | runtime | driver | missingFile
  | definition | config | binding | document | columnMix | columnKind | columnNested | decoding
  | overflow | arithmetic | persisting
  deriving DecidableEq, Repr

namespace Misuse

/-- Names in the order given, quoted, with `and` before the last. -/
def enumerate (names : List String) : String :=
  let quoted := names.map fun n => "'" ++ n ++ "'"
  match quoted.reverse with
  | [] => ""
  | [x] => x
  | [y, x] => x ++ " and " ++ y
  | x :: r => ", ".intercalate r.reverse ++ ", and " ++ x

/-- The wording of a misuse. -/
def message : Misuse → String
  | member kind name => "'" ++ kind ++ "' object has no attribute '" ++ name ++ "'"
  | iterate kind => "'" ++ kind ++ "' object is not iterable"
  | hash kind => "unhashable type: '" ++ kind ++ "'"
  | join index kind =>
    "sequence item " ++ toString index ++ ": expected str instance, " ++ kind ++ " found"
  | decode kind => "decoding to str: need a bytes-like object, " ++ kind ++ " found"
  | search kind => "expected string or bytes-like object, got '" ++ kind ++ "'"
  | searchBytes => "cannot use a string pattern on a bytes-like object"
  | length kind => "object of type '" ++ kind ++ "' has no len()"
  | compare operator left right =>
    "'" ++ operator ++ "' not supported between instances of '" ++ left ++ "' and '" ++ right ++ "'"
  | notMapping kind => "'" ++ kind ++ "' object is not a mapping"
  | notPath kind => "expected str, bytes or os.PathLike object, not " ++ kind
  | selectItem v => "Unsupported select item: " ++ v.literal
  | updateElement i =>
    "cannot convert dictionary update sequence element #" ++ toString i ++ " to a sequence"
  | jsonKey kind => "keys must be str, int, float, bool or None, not " ++ kind
  | formatSpec kind => "unsupported format string passed to " ++ kind ++ ".__format__"
  | formatText t => t
  | unpack function kind => function ++ "() argument after ** must be a mapping, not " ++ kind
  | unexpectedField function name =>
    function ++ "() got an unexpected keyword argument '" ++ name ++ "'"
  | missingFields function names =>
    function ++ "() missing " ++ toString names.length ++ " required positional argument" ++
      (if names.length = 1 then "" else "s") ++ ": " ++ enumerate names
  | repeatedField function name =>
    function ++ "() got multiple values for argument '" ++ name ++ "'"
  | keywords => "keywords must be strings"

/-- A missing member is a family of its own. -/
def family : Misuse → Fault.Family
  | member .. => .member
  | _ => .type

end Misuse

namespace DefinitionFault

/-- The wording of a refusal. -/
def message : DefinitionFault → String
  | notMapping => "Query definition must be a mapping"
  | noTable => "Query definition requires a 'from' table"
  | table v => "'from' must be a table name: " ++ v.literal
  | aliases v => "'aliases' must map tables to aliases: " ++ v.literal
  | sortBy v => "'sort_by' must be text: " ++ v.literal
  | limit v => "'limit' must be true or false: " ++ v.literal
  | columnText v => "Column must be written as table.name: " ++ v.literal
  | columnKey k v => "Column entry is missing '" ++ k ++ "': " ++ v.literal
  | column v => "Unsupported column entry: " ++ v.literal
  | derived v => "Unsupported derived column entry: " ++ v.literal
  | derivedText k v => "Derived column '" ++ k ++ "' must be text: " ++ v.literal
  | derivedKind v => "Derived column needs an 'expression' or 'subquery': " ++ v.literal
  | unnamedSubquery => "ColumnSubquery requires an output name"
  | conditionValue v => "Condition needs a 'value': " ++ v.literal
  | conditionKind v => "Condition needs 'eq' or 'between': " ++ v.literal
  | bounds v => "'between' takes two columns: " ++ v.literal

/-- The value that the wording of a refusal shows. -/
def shown? : DefinitionFault → Option Value
  | notMapping | noTable | unnamedSubquery => none
  | table v | aliases v | sortBy v | limit v | columnText v | columnKey _ v | column v | derived v
  | derivedText _ v | derivedKind v | conditionValue v | conditionKind v | bounds v => some v

end DefinitionFault

namespace ConfigFault

/-- The wording of a refusal. -/
def message : ConfigFault → String
  | notMapping => "Config must be a mapping"
  | sourceType name => "Data source '" ++ name.plain ++ "' needs a 'type'"
  | notSection key => "'" ++ key ++ "' section must be a mapping"
  | sectionField key why => "Invalid '" ++ key ++ "' section: " ++ why.message

/-- The value that the wording of a refusal shows. -/
def shown? : ConfigFault → Option Value
  | sourceType name => some name
  | notMapping | notSection _ | sectionField .. => none

end ConfigFault

/-- The wording of a date or time that does not exist. -/
def CalendarFault.message : CalendarFault → String
  | year y => "year " ++ toString y ++ " is out of range"
  | month => "month must be in 1..12"
  | day => "day is out of range for month"
  | hour => "hour must be in 0..23"
  | minute => "minute must be in 0..59"
  | second => "second must be in 0..59"
  | offset s =>
    "offset must be a timedelta strictly between -timedelta(hours=24) and timedelta(hours=24), not "
      ++ Value.durationLiteral s ++ "."

namespace Fault

/-- The family of a fault. -/
def family : Fault → Family
  | misuse m => m.family
  | infinitePlaces => .type
  | definition _ => .definition
  | config _ => .config
  | calendar _ | unnamedSubquery | longNumeral .. | unwritable _ | sourceType _ | chunkSize
  | pairLength .. | notWhole _ | signalingNan | value _ => .value
  | unbound _ => .binding
  | missingKey _ | overwrite _ => .key
  | connection .. => .connection
  | notConnected _ | driverOther _ => .runtime
  | driver _ => .driver
  | tupleIndex | textIndex => .index
  | columnMix => .columnMix
  | columnKind => .columnKind
  | columnNested => .columnNested
  | undecodable _ => .decoding
  | longInteger | floatOverflow | endless _ | beyondCalendar | dayCount _ | overflow _ => .overflow
  | unordered => .arithmetic
  | missingFile .. | unopened .. => .missingFile
  | document => .document
  | persisting _ => .persisting

/-- The faults that say that a value is not acceptable. -/
def isValueFault (f : Fault) : Bool :=
  f.family == .value || f.family == .definition || f.family == .config

/-- The wording of a fault. -/
def message : Fault → String
  | misuse m => m.message
  | definition d => d.message
  | config c => c.message
  | calendar c => c.message
  | unnamedSubquery => "ColumnSubquery requires an output name"
  | unbound n => Text.quoted ("No value bound for positional parameter ?" ++ toString n)
  | longNumeral limit n =>
    "Exceeds the limit (" ++ toString limit ++ " digits) for integer string conversion: value has "
      ++ toString n ++ " digits; use sys.set_int_max_str_digits() to increase the limit"
  | unwritable limit =>
    "Exceeds the limit (" ++ toString limit ++ " digits) for integer string conversion; use "
      ++ "sys.set_int_max_str_digits() to increase the limit"
  | missingKey k => k.literal
  | overwrite field => Text.quoted ("Attempt to overwrite '" ++ field ++ "' in LogRecord")
  | sourceType v => "Unsupported data source type: " ++ v.plain
  | connection engine m => engine ++ " connection failed: " ++ m
  | notConnected source => "Not connected to " ++ source
  | driver m => m
  | driverOther m => m
  | pairLength i n =>
    "dictionary update sequence element #" ++ toString i ++ " has length " ++ toString n ++
      "; 2 is required"
  | tupleIndex => "tuple index out of range"
  | textIndex => "string index out of range"
  | chunkSize => "'max_chunksize' should be strictly positive"
  | columnMix | columnKind | columnNested => ""
  | undecodable f => f.message
  | longInteger => "Python int too large to convert to C long"
  | floatOverflow => "int too large to convert to float"
  | notWhole what | endless what => "cannot convert " ++ what ++ " to integer"
  | signalingNan => "cannot convert signaling NaN to float"
  | infinitePlaces => "'str' object cannot be interpreted as an integer"
  | unordered => "[<class 'decimal.InvalidOperation'>]"
  | beyondCalendar => "date value out of range"
  | dayCount days => "days=" ++ toString days ++ "; must have magnitude <= 999999999"
  | overflow m => m
  | value m => m
  | missingFile what path => what ++ " not found: " ++ path
  | unopened why path => why ++ ": " ++ Text.quoted path
  | document => "<yaml error>"
  | persisting cause => cause.message

/-- The value that the wording of a fault shows, if the wording is made when the fault comes up. -/
def shown? : Fault → Option Value
  | misuse (.selectItem v) => some v
  | definition d => d.shown?
  | config c => c.shown?
  | sourceType v => some v
  | _ => none

/-- The fault that comes out when a fault is worded: a value that is too long to be written cannot be
shown, and that is a fault of its own. -/
def worded (f : Fault) : Fault :=
  if f.shown?.any Value.hasLongNumeral then unwritable Text.numeralLimit else f

end Fault

/-- A result, or the fault that prevented it. -/
abbrev Outcome (α : Type) := Except Fault α

end BoundSql
