import BoundSql.Value
import BoundSql.Text.Digit
import BoundSql.Text.Quoted

/-!
# How values are written

A value has a literal form, which shows its kind and quotes text, and a plain form, which is the
text itself for texts and the usual form of dates, moments, identifiers and decimals.  Inside lists,
tuples, sets and maps every value stands in its literal form.

An integer with more than `Text.numeralLimit` digits has no written form, nor has a value with such
an integer among its parts (`Value.hasLongNumeral`).
-/

namespace BoundSql.Value

/-- The integers in order, separated by commas. -/
def commaSeparated (ns : List Nat) : String := ", ".intercalate (ns.map Nat.repr)

/-- The literal form of a day. -/
def dateLiteral (d : Date) : String :=
  "datetime.date(" ++ commaSeparated [d.year, d.month, d.day] ++ ")"

/-- The literal form of a duration: whole days, possibly negative, and the seconds that remain. -/
def durationLiteral (seconds : Int) : String :=
  let days := seconds / 86400
  let rest := seconds % 86400
  let parts := (if days = 0 then [] else ["days=" ++ toString days]) ++
    (if rest = 0 then [] else ["seconds=" ++ toString rest])
  "datetime.timedelta(" ++ (if parts.isEmpty then "0" else ", ".intercalate parts) ++ ")"

/-- The literal form of an offset: universal time has a name, others are durations. -/
def offsetLiteral (seconds : Int) : String :=
  if seconds = 0 then "datetime.timezone.utc"
  else "datetime.timezone(" ++ durationLiteral seconds ++ ")"

/-- The literal form of a moment: zero seconds and microseconds are left out at the end. -/
def momentLiteral (m : Moment) : String :=
  let tail := if m.micro ≠ 0 then [m.second, m.micro]
    else if m.second ≠ 0 then [m.second] else []
  "datetime.datetime(" ++
    commaSeparated ([m.date.year, m.date.month, m.date.day, m.hour, m.minute] ++ tail) ++
    (match m.offset with
      | none => ""
      | some s => ", tzinfo=" ++ offsetLiteral s) ++ ")"

/-- Several literals between two brackets. -/
def bracketed (opening closing : String) (items : List String) : String :=
  opening ++ ", ".intercalate items ++ closing

mutual

/-- The literal form of a value. -/
def literal : Value → String
  | null => "None"
  | bool b => if b then "True" else "False"
  | int n => toString n
  | float x => x.text
  | decimal d => "Decimal('" ++ d.text ++ "')"
  | text s => Text.quoted s
  | bytes bs => Text.quotedBytes bs
  | uuid s => "UUID('" ++ s ++ "')"
  | date d => dateLiteral d
  | moment m => momentLiteral m
  | list xs => bracketed "[" "]" (literals xs)
  | tuple xs =>
    match literals xs with
    | [x] => "(" ++ x ++ ",)"
    | items => bracketed "(" ")" items
  | set xs =>
    match literals xs with
    | [] => "set()"
    | items => bracketed "\x7b" "\x7d" items
  | map kvs => bracketed "\x7b" "\x7d" (entryLiterals kvs)
termination_by structural v => v

/-- The literal forms of several values. -/
def literals : List Value → List String
  | [] => []
  | x :: xs => x.literal :: literals xs
termination_by structural xs => xs

/-- The literal forms of the entries of a map. -/
def entryLiterals : List (Value × Value) → List String
  | [] => []
  | (k, v) :: r => (k.literal ++ ": " ++ v.literal) :: entryLiterals r
termination_by structural r => r

end

/-! ### Values that are too long -/

mutual

/-- The value is an integer with too many digits, or has one among its parts. -/
def hasLongNumeral : Value → Bool
  | int n => 10 ^ Text.numeralLimit ≤ n.natAbs
  | list xs | tuple xs | set xs => anyLongNumeral xs
  | map kvs => anyLongEntry kvs
  | _ => false
termination_by structural v => v

/-- One of several values has such a numeral. -/
def anyLongNumeral : List Value → Bool
  | [] => false
  | x :: xs => x.hasLongNumeral || anyLongNumeral xs
termination_by structural xs => xs

/-- One of the entries of a map has such a numeral. -/
def anyLongEntry : List (Value × Value) → Bool
  | [] => false
  | (k, v) :: r => k.hasLongNumeral || v.hasLongNumeral || anyLongEntry r
termination_by structural r => r

end

@[simp] theorem hasLongNumeral_text (s : String) : (text s).hasLongNumeral = false := rfl

/-- The plain form of a value. -/
def plain : Value → String
  | text s => s
  | date d => d.text
  | moment m => m.text " "
  | uuid s => s
  | decimal d => d.text
  | v => v.literal

end BoundSql.Value
