import BoundSql.Text.Digit

/-!
# Forms of untagged scalars

A plain scalar without a tag is what its text looks like: null, a truth value, a number, a time, the
mark of a merged entry, or a text if it looks like none of these (`Tag.ofPlain`).  Which forms come
into question depends on the first character.  A final line end does not count.

Numbers may hold underscores, and may be written in base 60 with colons between the digits.
-/

namespace BoundSql.Yaml

/-- What a node is marked as. -/
inductive Tag where
  | null
  | bool
  | int
  | float
  | time
  | text
  | binary
  | seq
  | map
  | set
  | orderedMap
  | pairs
  | merge
  | value
  | unknown
  deriving DecidableEq, Repr, Inhabited

/-! ### Numbers -/

/-- The text after a sign, if it has one. -/
def unsigned : List Char → List Char
  | '-' :: r => r
  | '+' :: r => r
  | r => r

/-- A digit or an underscore. -/
def isDigitOrGap (c : Char) : Bool := c.isDigit || c == '_'

/-- An exponent with its sign, or nothing. -/
def isExponent : List Char → Bool
  | [] => true
  | e :: s :: ds =>
    (e == 'e' || e == 'E') && (s == '-' || s == '+') && !ds.isEmpty && ds.all Char.isDigit
  | _ => false

/-- Digits, a point, more digits and an exponent. -/
def isPointForm : List Char → Bool
  | [] => false
  | d :: r =>
    d.isDigit &&
      match r.dropWhile isDigitOrGap with
      | '.' :: r => isExponent (r.dropWhile isDigitOrGap)
      | _ => false

/-- A point, digits and an exponent. -/
def isFractionForm : List Char → Bool
  | '.' :: d :: r => d.isDigit && isExponent (r.dropWhile isDigitOrGap)
  | _ => false

/-- Texts between colons. -/
def colonParts (cs : List Char) : List (List Char) := cs.splitOn ':'

/-- A number below 60 of one or two digits. -/
def isSixty : List Char → Bool
  | [d] => d.isDigit
  | [t, d] => '0' ≤ t && t ≤ '5' && d.isDigit
  | _ => false

/-- A number in base 60 with a point in its last part. -/
def isSixtyFloat (cs : List Char) : Bool :=
  match colonParts cs with
  | (d :: r) :: parts@(_ :: _) =>
    let last := parts.getLastD []
    d.isDigit && r.all isDigitOrGap && parts.dropLast.all isSixty &&
      isSixty (last.takeWhile (· != '.')) &&
      match last.dropWhile (· != '.') with
      | '.' :: r => r.all isDigitOrGap
      | _ => false
  | _ => false

/-- A number with a point. -/
def isFloatForm (cs : List Char) : Bool :=
  let body := unsigned cs
  isPointForm body || isFractionForm cs || isSixtyFloat body ||
    [".inf", ".Inf", ".INF"].contains (String.ofList body) ||
    [".nan", ".NaN", ".NAN"].contains (String.ofList cs)

/-- An integer in base 60. -/
def isSixtyInt (cs : List Char) : Bool :=
  match colonParts cs with
  | (d :: r) :: parts@(_ :: _) =>
    '1' ≤ d && d ≤ '9' && r.all isDigitOrGap && parts.all isSixty
  | _ => false

/-- A hexadecimal digit. -/
def isHexDigit (c : Char) : Bool :=
  c.isDigit || ('a' ≤ c && c ≤ 'f') || ('A' ≤ c && c ≤ 'F')

/-- An integer in base 2, 8, 10, 16 or 60. -/
def isIntForm (cs : List Char) : Bool :=
  match unsigned cs with
  | '0' :: 'b' :: r => !r.isEmpty && r.all fun c => c == '0' || c == '1' || c == '_'
  | '0' :: 'x' :: r => !r.isEmpty && r.all fun c => isHexDigit c || c == '_'
  | '0' :: r => r.all fun c => ('0' ≤ c && c ≤ '7') || c == '_'
  | d :: r => '1' ≤ d && d ≤ '9' && (r.all isDigitOrGap || isSixtyInt (d :: r))
  | [] => false

/-! ### Times -/

/-- An offset from universal time. -/
inductive Zone where
  | universal
  | offset (west : Bool) (hours minutes : Nat)
  deriving DecidableEq, Repr

/-- The numbers of a time of day; the fraction is as it is written. -/
structure TimeForm where
  hour : Nat
  minute : Nat
  second : Nat
  fraction : List Char
  zone : Option Zone
  deriving Repr

/-- The numbers of a day, with a time of day if there is one. -/
structure StampForm where
  year : Nat
  month : Nat
  day : Nat
  time : Option TimeForm
  deriving Repr

namespace StampForm

/-- A number of at least `low` and at most `high` digits, and what follows it. -/
def number? (low high : Nat) (cs : List Char) : Option (Nat × List Char) :=
  let ds := (cs.take high).takeWhile Char.isDigit
  if low ≤ ds.length then some (Text.numeralValue ds, cs.drop ds.length) else none

/-- A number after a given character. -/
def numberAfter? (mark : Char) (low high : Nat) : List Char → Option (Nat × List Char)
  | [] => none
  | c :: r => if c == mark then number? low high r else none

/-- A space or a tab. -/
def isSpace (c : Char) : Bool := c == ' ' || c == '\t'

/-- An offset after its sign. -/
def offset? (west : Bool) (cs : List Char) : Option Zone := do
  let (hours, cs) ← number? 1 2 cs
  if cs.isEmpty then return .offset west hours 0
  let (minutes, cs) ← numberAfter? ':' 2 2 cs
  if cs.isEmpty then return .offset west hours minutes else none

/-- An offset, or nothing, up to the end. -/
def zone? : List Char → Option (Option Zone)
  | [] => some none
  | cs =>
    match cs.dropWhile isSpace with
    | ['Z'] => some (some .universal)
    | '-' :: r => (offset? true r).map some
    | '+' :: r => (offset? false r).map some
    | _ => none

/-- A time of day, up to the end. -/
def time? (cs : List Char) : Option TimeForm := do
  let (hour, cs) ← number? 1 2 cs
  let (minute, cs) ← numberAfter? ':' 2 2 cs
  let (second, cs) ← numberAfter? ':' 2 2 cs
  let (fraction, cs) := match cs with
    | '.' :: r => (r.takeWhile Char.isDigit, r.dropWhile Char.isDigit)
    | r => ([], r)
  return ⟨hour, minute, second, fraction, ← zone? cs⟩

/-- A day, alone or with a time of day. -/
def read? (cs : List Char) : Option StampForm := do
  let (year, cs) ← number? 4 4 cs
  let (month, cs) ← numberAfter? '-' 1 2 cs
  let (day, cs) ← numberAfter? '-' 1 2 cs
  match cs with
  | [] => return ⟨year, month, day, none⟩
  | c :: r =>
    if c == 'T' || c == 't' then return ⟨year, month, day, some (← time? r)⟩
    else if isSpace c then return ⟨year, month, day, some (← time? (r.dropWhile isSpace))⟩
    else none

end StampForm

/-- A text that is taken for a time without a tag: a day alone has all its digits. -/
def isTimeForm (cs : List Char) : Bool :=
  match StampForm.read? cs with
  | some stamp => stamp.time.isSome || cs.length == 10
  | none => false

/-! ### All forms -/

/-- The spellings of truth values. -/
def boolForms : List String :=
  ["yes", "Yes", "YES", "no", "No", "NO", "true", "True", "TRUE", "false", "False", "FALSE",
   "on", "On", "ON", "off", "Off", "OFF"]

/-- A text without one line feed at its end. -/
def withoutLastBreak (cs : List Char) : List Char :=
  if cs.getLast? == some '\n' then cs.dropLast else cs

namespace Tag

/-- What an untagged plain scalar is marked as. -/
def ofPlain (s : String) : Tag :=
  let cs := withoutLastBreak s.toList
  let text := String.ofList cs
  match s.toList with
  | [] => .null
  | c :: _ =>
    let numeric := c.isDigit || c == '-' || c == '+'
    if boolForms.contains text then .bool
    else if (numeric || c == '.') && isFloatForm cs then .float
    else if numeric && isIntForm cs then .int
    else if text == "<<" then .merge
    else if c != '\n' && ["~", "null", "Null", "NULL"].contains text then .null
    else if c.isDigit && isTimeForm cs then .time
    else if text == "=" then .value
    else .text

/-- The beginning of the tags that are known. -/
def knownSpace : String := "tag:yaml.org,2002:"

/-- The known tags, without their beginning. -/
def known : List (String × Tag) :=
  [("null", .null), ("bool", .bool), ("int", .int), ("float", .float), ("timestamp", .time),
   ("str", .text), ("binary", .binary), ("seq", .seq), ("map", .map), ("set", .set),
   ("omap", .orderedMap), ("pairs", .pairs), ("merge", .merge), ("value", .value)]

/-- What a tag written in full says. -/
def ofUri (s : String) : Tag :=
  ((known.find? fun e => knownSpace ++ e.1 == s).map (·.2)).getD .unknown

end Tag

end BoundSql.Yaml
