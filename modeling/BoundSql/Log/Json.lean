import BoundSql.Value.Access

/-!
# Values as JSON text

A value as JSON in printable ASCII: texts in quotation marks with escapes, `, ` between members and
`: ` after keys, members in their order.  Characters beyond the sixteen-bit range are escaped as a
pair of surrogates.  Kinds of values that JSON does not have are shown as the text of their plain
form; keys may be texts, numbers, truth values and null, and every other key is a fault.  So is an
integer that is too long to be written.
-/

namespace BoundSql.Log.Json

/-- A sixteen-bit unit as an escape. -/
def unitEscape (n : Nat) : List Char := '\\' :: 'u' :: Text.hexDigits 4 n

/-- The escape of a character: one unit, or a pair of surrogates. -/
def escape (c : Char) : List Char :=
  let n := c.toNat
  if n < 0x10000 then unitEscape n
  else unitEscape (0xD800 + (n - 0x10000) / 0x400) ++ unitEscape (0xDC00 + (n - 0x10000) % 0x400)

/-- One character inside a JSON text. -/
def charText (c : Char) : List Char :=
  if c == '"' then ['\\', '"']
  else if c == '\\' then ['\\', '\\']
  else if c == '\n' then ['\\', 'n']
  else if c == '\r' then ['\\', 'r']
  else if c == '\t' then ['\\', 't']
  else if c == '\x08' then ['\\', 'b']
  else if c == '\x0c' then ['\\', 'f']
  else if ' ' ≤ c && c ≤ '~' then [c]
  else escape c

/-- A text in quotation marks. -/
def quote (s : String) : List Char := '"' :: s.toList.flatMap charText ++ ['"']

/-- A number of the floating kind. -/
def floatText : Binary64 → List Char
  | .nan => "NaN".toList
  | .infinite negative => (if negative then "-Infinity" else "Infinity").toList
  | x => x.text.toList

/-- Texts between two brackets, with commas between them. -/
def enclose (opening closing : Char) (items : List (List Char)) : List Char :=
  opening :: (List.intercalate [',', ' '] items) ++ [closing]

/-- A key as the text it is written as. -/
def keyText : Value → Outcome (List Char)
  | .text s => .ok (quote s)
  | .null => .ok (quote "null")
  | .bool b => .ok (quote (if b then "true" else "false"))
  | .int n => (Value.int n).shown.map quote
  | .float x => .ok (quote (String.ofList (floatText x)))
  | v => .error (.misuse (.jsonKey v.kind))

mutual

/-- A value as JSON. -/
def encode : Value → Outcome (List Char)
  | .null => .ok "null".toList
  | .bool b => .ok (if b then "true" else "false").toList
  | .int n => (Value.int n).shown.map String.toList
  | .float x => .ok (floatText x)
  | .text s => .ok (quote s)
  | .list xs => (encodeAll xs).map (enclose '[' ']')
  | .tuple xs => (encodeAll xs).map (enclose '[' ']')
  | .map kvs => (encodeEntries kvs).map (enclose '\x7b' '\x7d')
  | v => v.shown.map quote
termination_by structural v => v

/-- Several values as JSON. -/
def encodeAll : List Value → Outcome (List (List Char))
  | [] => .ok []
  | x :: xs => do
    let t ← encode x
    return t :: (← encodeAll xs)
termination_by structural xs => xs

/-- Members of an object as JSON. -/
def encodeEntries : List (Value × Value) → Outcome (List (List Char))
  | [] => .ok []
  | (k, v) :: r => do
    let key ← keyText k
    let t ← encode v
    return (key ++ ':' :: ' ' :: t) :: (← encodeEntries r)
termination_by structural r => r

end

end BoundSql.Log.Json
