import BoundSql.Fault

/-!
# Values as numbers

The integer part of a value (`Value.wholePart?`) and the binary64 number nearest to it, for the kinds
that have one.  An identifier counts as the number that its hexadecimal digits denote, which fits
into sixteen bytes (`Value.uuidOfBytes`).
-/

namespace BoundSql.Value

/-- The number that the hexadecimal digits of an identifier denote; hyphens do not count. -/
def uuidNumber (s : String) : Nat :=
  s.toList.foldl (fun n c =>
    if c.isDigit then 16 * n + (c.toNat - '0'.toNat)
    else if 'a' ≤ c && c ≤ 'f' then 16 * n + (c.toNat - 'a'.toNat + 10)
    else n) 0

/-- The identifier with the given sixteen bytes: hyphens after the fourth, sixth, eighth and tenth. -/
def uuidOfBytes (bs : List UInt8) : Value :=
  let ds := bs.flatMap fun b => Text.hexDigits 2 b.toNat
  let group (start size : Nat) : List Char := (ds.drop start).take size
  uuid (String.ofList (List.intercalate ['-']
    [group 0 8, group 8 4, group 12 4, group 16 4, group 20 12]))

/-- The integer part of a value, toward zero, if the value is of a kind that has one. -/
def wholePart? : Value → Option (Outcome Int)
  | bool b => some (.ok (if b then 1 else 0))
  | int n => some (.ok n)
  | uuid s => some (.ok (uuidNumber s))
  | float .nan => some (.error (.notWhole "float NaN"))
  | float (.infinite _) => some (.error (.endless "float infinity"))
  | float x => some (.ok (x.truncate?.getD 0))
  | decimal (.nan ..) => some (.error (.notWhole "NaN"))
  | decimal (.infinite _) => some (.error (.endless "Infinity"))
  | decimal d => d.quotient?.map fun (n, den) => .ok (n.tdiv den)
  | _ => none

/-- The binary64 number nearest to a decimal number. -/
def floatOfDecimal : Decimal → Outcome Binary64
  | .finite negative coefficient exponent =>
    .ok (Binary64.ofDecimal negative coefficient exponent)
  | .infinite negative => .ok (.infinite negative)
  | .nan _ signaling _ => if signaling then .error .signalingNan else .ok .nan

end BoundSql.Value
