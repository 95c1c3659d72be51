import BoundSql.Result.ColumnType
import BoundSql.Value.Access

/-!
# Cells

A column holds each of its values in the form of its type (`ColumnType.convert`), from which the value
is read again later.  Reading may fail, for a column holds day numbers, moments and bytes that no
value can show, so a `Cell` is what reading will give.

Truth values never count as integers.  Days and moments are also made from numbers, which then count
days and microseconds since the beginning of 1970; texts and byte strings stand for each other, but
inside of lists and maps the bytes that stand for a text must be UTF-8.
-/

namespace BoundSql

/-- What reading a cell gives. -/
abbrev Cell := Outcome Value

namespace Cell

/-- The cell of a day number: beyond the calendar there is no day to be read. -/
def ofDayNumber (n : Int) : Cell :=
  if 999999999 < n.natAbs then .error (.dayCount n)
  else match Date.ofDayNumber? n with
    | some d => .ok (.date d)
    | none => .error .beyondCalendar

/-- The cell of a count of microseconds, shown at an offset. -/
def ofMicros (offset : Option Int) (n : Int) : Cell :=
  match Moment.ofMicros? offset n with
  | some m => .ok (.moment m)
  | none => .error .beyondCalendar

/-- The cell of bytes that stand for a text. -/
def ofTextBytes (bs : List UInt8) : Cell :=
  match Text.Utf8.decode bs with
  | .ok s => .ok (.text s)
  | .error why => .error (.undecodable why)

/-- The cell of a list, which is read member by member. -/
def ofItems (cells : List Cell) : Cell := (cells.mapM id).map .list

/-- The cell of a map, which is read field by field. -/
def ofFields (cells : List (Value × Cell)) : Cell := do
  return .map (← cells.mapM fun (k, c) => do return (k, ← c))

end Cell

namespace ColumnType

/-! ### Integers -/

/-- The least and the greatest integer of a column. -/
def intRange : Int × Int := (-Nat.pow 2 63, Nat.pow 2 63 - 1)

/-- The least and the greatest day number of a column. -/
def dayRange : Int × Int := (-Nat.pow 2 31, Nat.pow 2 31 - 1)

/-- A number lies in a range. -/
def within (range : Int × Int) (n : Int) : Bool := range.1 ≤ n && n ≤ range.2

/-- The integer part of a value other than a truth value, if a column can hold it. -/
def toInt : Value → Outcome Int
  | .bool _ => .error .columnKind
  | v =>
    match v.wholePart? with
    | none => .error .columnKind
    | some r => do
      let n ← r
      if within intRange n then return n else throw .longInteger

/-- A value in a column of integers: what is no integer must have an integer part that fits. -/
def intCell (v : Value) : Outcome Int :=
  match v with
  | .int _ | .bool _ => toInt v
  | v => (toInt v).mapError fun _ => .columnMix

/-- A number in a column of days. -/
def dayCell (v : Value) : Outcome Int := do
  let n ← toInt v
  if within dayRange n then return n else throw .columnMix

/-! ### Other kinds without parts -/

/-- The greatest magnitude of the integers that a column of floats takes. -/
def exactFloatBound : Nat := Nat.pow 2 53

/-- A value in a column of floats. -/
def floatCell : Value → Outcome Binary64
  | .float x => .ok x
  | .int n => if exactFloatBound < n.natAbs then .error .columnMix else .ok (.ofInt n)
  | .bool b => .ok (.ofInt (if b then 1 else 0))
  | _ => .error .columnMix

/-- A decimal with the places of its column, where zero has no sign. -/
def rescale (precision scale : Nat) (negative : Bool) (coefficient : Nat) (exponent : Int) :
    Outcome Decimal :=
  let n := coefficient * Nat.pow 10 (exponent + scale).toNat
  if n = 0 then .ok (.finite false 0 (-scale))
  else if precision < (Nat.repr n).length then .error .columnMix
  else .ok (.finite negative n (-scale))

/-- A value in a column of decimals. -/
def decimalCell (precision scale : Nat) : Value → Outcome Decimal
  | .decimal (.finite negative coefficient exponent) =>
    rescale precision scale negative coefficient exponent
  | .int n => rescale precision scale (n < 0) n.natAbs 0
  | .decimal _ | .bool _ => .error .columnMix
  | _ => .error .columnKind

/-- The bytes that a text or a byte string stands for. -/
def bytesOf : Value → Outcome (List UInt8)
  | .bytes bs => .ok bs
  | .text s => .ok s.toUTF8.toList
  | _ => .error .columnKind

/-- A value in a column of identifiers: an identifier or its sixteen bytes. -/
def uuidCell : Value → Outcome Value
  | .uuid s => .ok (.uuid s)
  | v => do
    let bs ← bytesOf v
    if bs.length = 16 then return .uuidOfBytes bs else throw .columnMix

/-- A value without parts in a column of the given type. -/
def convertScalar : ColumnType → Value → Outcome Cell
  | .bool, .bool b => .ok (.ok (.bool b))
  | .int, v => (intCell v).map fun n => .ok (.int n)
  | .float, v => (floatCell v).map fun x => .ok (.float x)
  | .text, .text s => .ok (.ok (.text s))
  | .text, v => (bytesOf v).map Cell.ofTextBytes
  | .bytes, v => (bytesOf v).map fun bs => .ok (.bytes bs)
  | .date, .date d => .ok (.ok (.date d))
  | .date, .moment m => .ok (.ok (.date m.date))
  | .date, v => (dayCell v).map Cell.ofDayNumber
  | .moment offset, .moment m => .ok (Cell.ofMicros offset m.micros)
  | .moment offset, v => (toInt v).map (Cell.ofMicros offset)
  | .decimal p s, v => (decimalCell p s v).map fun d => .ok (.decimal d)
  | .uuid, v => (uuidCell v).map .ok
  | _, _ => .error .columnMix

/-! ### Lists and maps -/

/-- The key under which a field stands in the maps of a column. -/
def fieldKey (byteKeys : Bool) (name : FieldName) : Value :=
  if byteKeys then .bytes name else .text ((Text.Utf8.decode name).toOption.getD "")

/-- The value of a field in a map, null where there is none. -/
def fieldValue (byteKeys : Bool) (name : FieldName) (m : Mapping) : Value :=
  (m.get? (fieldKey byteKeys name)).getD .null

/-- The first entry among several maps has a byte string for its key. -/
def opensWithBytes (maps : List Mapping) : Bool :=
  match maps.flatten.head? with
  | some (.bytes _, _) => true
  | _ => false

mutual

/-- The type with the kinds of keys that the first entries of these values have; entries with the
other kind of key are out of sight. -/
def keyed (vs : List Value) : ColumnType → ColumnType
  | list t => list (t.keyed (vs.filterMap Value.listed?).flatten)
  | record _ fields =>
    let maps := vs.filterMap Value.entries?
    record (opensWithBytes maps) (keyedFields (opensWithBytes maps) maps fields)
  | t => t
termination_by structural t => t

/-- The types of fields with the kinds of keys in their values. -/
def keyedFields (byteKeys : Bool) (maps : List Mapping) :
    List (FieldName × ColumnType) → List (FieldName × ColumnType)
  | [] => []
  | (name, t) :: r =>
    (name, t.keyed (maps.map (fieldValue byteKeys name))) :: keyedFields byteKeys maps r
termination_by structural r => r

end

mutual

/-- A value in a column of the given type. -/
def convert : ColumnType → Value → Outcome Cell
  | _, .null => .ok (.ok .null)
  | list t, v =>
    match v.listed? with
    | some xs => (xs.mapM t.convert).map Cell.ofItems
    | none => .error .columnKind
  | record byteKeys fields, v =>
    match v.entries? with
    | some m => (convertFields byteKeys m fields).map Cell.ofFields
    | none => .error .columnKind
  | t, v => convertScalar t v
termination_by structural t => t

/-- The fields of a map. -/
def convertFields (byteKeys : Bool) (m : Mapping) :
    List (FieldName × ColumnType) → Outcome (List (Value × Cell))
  | [] => .ok []
  | (name, t) :: r => do
    let c ← t.convert (fieldValue byteKeys name m)
    return (fieldKey false name, c) :: (← convertFields byteKeys m r)
termination_by structural r => r

end

/-- A column of texts among which there are byte strings holds byte strings throughout. -/
def settleText (vs : List Value) : ColumnType → ColumnType
  | text => if vs.any fun v => v.cellKind? == some .bytes then bytes else text
  | t => t

/-- The cells of a column with these values. -/
def column (vs : List Value) : Outcome (List Cell) := do
  let t ← ofValues vs
  t.check
  vs.mapM ((t.keyed vs).settleText vs).convert

end ColumnType

end BoundSql
