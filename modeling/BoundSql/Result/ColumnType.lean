import BoundSql.Value.Whole

/-!
# Column types

Every column of a result has one type, inferred from its values.  Nulls belong to every type.

* `Seen.visit` notes what kinds of values there are.  Truth values, floats, texts, byte strings, days,
  moments and identifiers settle the matter: the values after the first of them are not looked at.
  The values of a map are looked at all the same, and the members of each list up to the first that
  settles.
* `Seen.type` chooses the type.  Of several kinds the one that comes first in `Seen.scalarType`
  counts; lists and maps must not be mixed with other values.

Values of a kind that does not fit the chosen type are found only when they are converted.
-/

namespace BoundSql

/-- The name of a field of maps in a column: the bytes of its UTF-8 form. -/
abbrev FieldName := List UInt8

/-- The type of a column. -/
inductive ColumnType where
  | null
  | bool
  | int
  | float
  | text
  | bytes
  | date
  /-- Moments, with the offset they are shown in. -/
  | moment (offset : Option Int)
  | decimal (precision scale : Nat)
  | uuid
  | list (item : ColumnType)
  /-- Maps with these fields; their keys are all byte strings or all texts. -/
  | record (byteKeys : Bool) (fields : List (FieldName × ColumnType))
  deriving Repr, Inhabited

/-- The kinds of values that columns tell apart. -/
inductive CellKind where
  | bool | int | float | text | bytes | date | moment | decimal | uuid | list | map
  deriving DecidableEq, Repr

namespace Value

/-- The kind of a value; null has none. -/
def cellKind? : Value → Option CellKind
  | null => none
  | bool _ => some .bool
  | int _ => some .int
  | float _ => some .float
  | decimal _ => some .decimal
  | text _ => some .text
  | bytes _ => some .bytes
  | uuid _ => some .uuid
  | date _ => some .date
  | moment _ => some .moment
  | list _ | tuple _ | set _ => some .list
  | map _ => some .map

/-- The members of a list-like value. -/
def listed? : Value → Option (List Value)
  | list xs | tuple xs | set xs => some xs
  | _ => none

/-- The entries of a map. -/
def entries? : Value → Option Mapping
  | map kvs => some kvs
  | _ => none

/-- The field that a key of a map names. -/
def fieldName? : Value → Option FieldName
  | text s => some s.toUTF8.toList
  | bytes bs => some bs
  | _ => none

end Value

namespace CellKind

/-- A value of this kind settles the type of its column. -/
def settles : CellKind → Bool
  | bool | float | text | bytes | date | moment | uuid => true
  | int | decimal | list | map => false

end CellKind

/-- What the values of a column that have been looked at are like. -/
structure Seen where
  kinds : List CellKind
  /-- The offset of the first moment. -/
  offset : Option Int
  /-- The greatest numbers of digits before and after the point of decimals. -/
  digits : Option (Nat × Nat)
  /-- The members of all lists. -/
  items : Option Seen
  /-- The values of each field of all maps, in the order in which the fields were found. -/
  fields : List (FieldName × Seen)
  deriving Repr, Inhabited

namespace Seen

/-- Nothing has been looked at. -/
def nothing : Seen := ⟨[], none, none, none, []⟩

/-- A kind has been seen. -/
def has (s : Seen) (k : CellKind) : Bool := s.kinds.contains k

/-- One more kind has been seen. -/
def note (k : CellKind) (s : Seen) : Seen :=
  { s with kinds := if s.has k then s.kinds else s.kinds ++ [k] }

/-- What has been seen of a field. -/
def field (name : FieldName) (s : Seen) : Seen := (s.fields.lookup name).getD nothing

/-- What has been seen with a field replaced, which keeps its place; a new one comes last. -/
def setField (s : Seen) (name : FieldName) (f : Seen) : Seen :=
  { s with fields :=
      if (s.fields.lookup name).isSome then
        s.fields.map fun e => if e.1 == name then (name, f) else e
      else s.fields ++ [(name, f)] }

/-- A list has been seen; its members are among those of all lists. -/
def noteItems (s items : Seen) : Seen := { s.note .list with items := some items }

/-- Digits before and after the point of a finite decimal. -/
def digitsOf (coefficient : Nat) (exponent : Int) : Nat × Nat :=
  let n := (Nat.repr coefficient).length
  if exponent < 0 then
    let scale := exponent.natAbs
    (max n scale - scale, scale)
  else (n + exponent.toNat, 0)

/-- A decimal among the values: it needs places, which an infinity does not have. -/
def visitDecimal (d : Decimal) (s : Seen) : Outcome Seen :=
  match d with
  | .finite _ coefficient exponent =>
    let (whole, scale) := digitsOf coefficient exponent
    let (w, p) := s.digits.getD (0, 0)
    .ok { s.note .decimal with digits := some (max w whole, max p scale) }
  | .infinite _ => .error .infinitePlaces
  | .nan .. => .ok (s.note .decimal)

/-- A moment among the values: the offset of the first must be a number of whole minutes. -/
def visitMoment (m : Moment) (s : Seen) : Outcome Seen :=
  if s.has .moment then .ok s
  else match m.offset with
    | none => .ok (s.note .moment)
    | some n =>
      if n % 60 = 0 then .ok { s.note .moment with offset := some n } else .error .columnMix

mutual

/-- Looks at a value. -/
def visit (s : Seen) : Value → Outcome Seen
  | .null => .ok s
  | .bool _ => .ok (s.note .bool)
  | .int _ => .ok (s.note .int)
  | .float _ => .ok (s.note .float)
  | .decimal d => s.visitDecimal d
  | .text _ => .ok (s.note .text)
  | .bytes _ => .ok (s.note .bytes)
  | .uuid _ => .ok (s.note .uuid)
  | .date _ => .ok (s.note .date)
  | .moment m => s.visitMoment m
  | .list xs => (visitAll (s.items.getD nothing) xs).map s.noteItems
  | .tuple xs => (visitAll (s.items.getD nothing) xs).map s.noteItems
  | .set xs => (visitAll (s.items.getD nothing) xs).map s.noteItems
  | .map kvs => do
    let s' ← s.visitEntries kvs
    return s'.note .map
termination_by structural v => v

/-- Looks at values up to the first that settles the type. -/
def visitAll (s : Seen) : List Value → Outcome Seen
  | [] => .ok s
  | v :: vs => do
    let s ← s.visit v
    if v.cellKind?.any CellKind.settles then return s else s.visitAll vs
termination_by structural vs => vs

/-- Looks at the entries of a map, all of them. -/
def visitEntries (s : Seen) : List (Value × Value) → Outcome Seen
  | [] => .ok s
  | (k, v) :: r => do
    match k.fieldName? with
    | none => throw .columnKind
    | some name =>
      let f ← (s.field name).visit v
      (s.setField name f).visitEntries r
termination_by structural r => r

end

/-- The greatest number of digits of a decimal column. -/
def mostDigits : Nat := 76

/-- The type of decimals with these numbers of digits; without any digits there is none. -/
def decimalType : Option (Nat × Nat) → Outcome ColumnType
  | none => .error .columnMix
  | some (whole, scale) =>
    if mostDigits < whole + scale then .error .columnMix else .ok (.decimal (whole + scale) scale)

/-- The type of values that are no lists and no maps: the first kind in this order that has been
seen. -/
def scalarType (s : Seen) : Outcome ColumnType :=
  if s.has .decimal then decimalType s.digits
  else .ok <|
    if s.has .float then .float
    else if s.has .int then .int
    else if s.has .date then .date
    else if s.has .moment then .moment s.offset
    else if s.has .bool then .bool
    else if s.has .bytes then .bytes
    else if s.has .text then .text
    else if s.has .uuid then .uuid
    else .null

mutual

/-- The type of values that are like what has been seen. -/
def type : Seen → Outcome ColumnType
  | ⟨kinds, offset, digits, items, fields⟩ =>
    if kinds.contains .list then
      if kinds.length ≠ 1 then .error .columnMix else (typeOf items).map .list
    else if kinds.contains .map then
      if kinds.length ≠ 1 then .error .columnMix else (typesOf fields).map (.record false)
    else scalarType ⟨kinds, offset, digits, none, []⟩
termination_by structural s => s

/-- The type of the members of lists. -/
def typeOf : Option Seen → Outcome ColumnType
  | none => .ok .null
  | some s => s.type
termination_by structural s => s

/-- The types of fields. -/
def typesOf : List (FieldName × Seen) → Outcome (List (FieldName × ColumnType))
  | [] => .ok []
  | (name, s) :: r => do
    let t ← s.type
    return (name, t) :: (← typesOf r)
termination_by structural r => r

end

end Seen

namespace ColumnType

/-- The type of a column with these values. -/
def ofValues (vs : List Value) : Outcome ColumnType := do
  (← Seen.nothing.visitAll vs).type

mutual

/-- A part of a list or a map must not have a type that parts do not have, and a field must have a
name that is a text. -/
def checkPart : ColumnType → Outcome Unit
  | uuid => .error .columnNested
  | list t => t.checkPart
  | record _ fields => do
    checkFields fields
    fields.forM fun f => (Text.Utf8.decode f.1).mapError Fault.undecodable *> pure ()
  | _ => .ok ()
termination_by structural t => t

/-- The types of fields are types of parts. -/
def checkFields : List (FieldName × ColumnType) → Outcome Unit
  | [] => .ok ()
  | (_, t) :: r => do
    t.checkPart
    checkFields r
termination_by structural r => r

end

/-- The type of a column, as far as parts are concerned: identifiers stand alone. -/
def check : ColumnType → Outcome Unit
  | uuid => .ok ()
  | t => t.checkPart

end ColumnType

end BoundSql
