import BoundSql.Log.Event
import BoundSql.Log.Json
import BoundSql.Log.Template
import BoundSql.Value.Access

/-!
# Log records as text

A record is an event with everything that its line shows.  There are two formats: a readable line,
to which the context is appended as `[key=value …]`, and a JSON object on one line, of which the
context's entries are members; a context entry with the key of a fixed member replaces its value.
-/

namespace BoundSql.Log

/-- A fault that a record reports: its class and what it was raised with. -/
structure Raised where
  className : String
  argument : Option Value
  deriving Repr, Inhabited

/-- An event with what its line shows. -/
structure Record where
  logger : String
  level : Level
  message : Value
  args : List Value
  path : String
  function : String
  line : Int
  raised : Option Raised
  /-- When the record was made, in seconds since the beginning of 1970. -/
  created : Int
  /-- When its line is made. -/
  stamped : Moment
  /-- What was attached as context, if anything. -/
  context : Option Value
  deriving Repr, Inhabited

/-- The formats of a record. -/
inductive Style where
  | structured
  | standard
  deriving DecidableEq, Repr, Inhabited

namespace Raised

/-- What a fault was raised with; a missing key is shown as a literal. -/
def argumentText (r : Raised) : Outcome String :=
  match r.argument with
  | none => .ok ""
  | some v => if r.className == "KeyError" then v.written else v.shown

/-- A fault as a record shows it. -/
def text (r : Raised) : String :=
  let shown := match r.argumentText with
    | .ok s => s
    | .error _ => "<exception str() failed>"
  if shown.isEmpty then r.className else r.className ++ ": " ++ shown

/-- The text of a fault without the line break that may end it. -/
def trimmed (r : Raised) : String :=
  let cs := r.text.toList
  if cs.getLast? == some '\n' then String.ofList cs.dropLast else r.text

end Raised

namespace Record

/-- The message with its arguments filled in. -/
def text (r : Record) : Outcome String := do
  let message ← r.message.shown
  if r.args.isEmpty then return message else Template.format message r.args

/-- The part of a path after its last slash. -/
def fileName (path : String) : List Char :=
  ((path.toList.reverse).takeWhile (· != '/')).reverse

/-- A file name without its last extension; points at its beginning begin no extension. -/
def stem (name : List Char) : List Char :=
  let points := name.takeWhile (· == '.')
  let rest := name.dropWhile (· == '.')
  if rest.contains '.' then
    points ++ rest.take (rest.length - (rest.reverse.takeWhile (· != '.')).length - 1)
  else name

/-- Where a record was made: module, function and line. -/
def location (r : Record) : Outcome String := do
  return String.ofList (stem (fileName r.path)) ++ "." ++ r.function ++ ":" ++
    (← (Value.int r.line).shown)

theorem exists_location {r : Record} (h : (Value.int r.line).hasLongNumeral = false) :
    ∃ s, r.location = .ok s := by
  rw [location, Value.shown_of_short h]
  exact ⟨_, rfl⟩

theorem location_of_long {r : Record} (h : (Value.int r.line).hasLongNumeral = true) :
    r.location = .error (.unwritable Text.numeralLimit) := by
  rw [location, Value.shown_of_long h]
  rfl

/-- The context of a record, if it says anything. -/
def attached (r : Record) : Option Value :=
  match r.context with
  | some v => if v.truthy then some v else none
  | none => none

end Record

namespace Style

/-- The members of a structured line that do not come from the context. -/
def fixedMembers (r : Record) : Outcome Mapping := do
  let level ← levelName r.level
  let message ← r.text
  let location ← r.location
  return [(.text "timestamp", .text (r.stamped.text "T")), (.text "level", .text level),
    (.text "logger", .text r.logger), (.text "message", .text message),
    (.text "location", .text location)] ++
    match r.raised with
    | some e => [(.text "exception", .text e.trimmed)]
    | none => []

/-- A record as a JSON object. -/
def structuredLine (r : Record) : Outcome String := do
  let fixed ← fixedMembers r
  let context ← match r.attached with
    | some v => v.asMapping
    | none => .ok []
  return String.ofList (← Json.encode (.map (Mapping.update fixed context)))

/-- A record as a readable line, without its context. -/
def plainLine (r : Record) : Outcome String := do
  let m := Moment.ofEpoch r.created
  let line := m.date.text ++ " " ++ m.timeText ++ " - " ++ r.logger ++ " - "
    ++ (← levelName r.level) ++ " - " ++ (← r.text)
  match r.raised with
  | none => return line
  | some e =>
    return (if line.toList.getLast? == some '\n' then line else line ++ "\n") ++ e.trimmed

/-- A record as a readable line. -/
def standardLine (r : Record) : Outcome String := do
  let line ← plainLine r
  match r.attached with
  | none => return line
  | some (.map m) =>
    let pairs ← m.mapM fun e => do return (← e.1.shown) ++ "=" ++ (← e.2.shown)
    return line ++ " [" ++ " ".intercalate pairs ++ "]"
  | some v => throw (.misuse (.member v.kind "items"))

/-- A record in a format. -/
def line (s : Style) (r : Record) : Outcome String :=
  match s with
  | structured => structuredLine r
  | standard => standardLine r

end Style

end BoundSql.Log
