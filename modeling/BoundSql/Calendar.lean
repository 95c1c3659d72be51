import BoundSql.Number.Shortest

/-!
# Dates and moments

Days of the proleptic Gregorian calendar from year 1 to year 9999, and moments: a day, a time of day
to the microsecond and, unless the moment is local, an offset from universal time in seconds.

* days are counted from 1 January 1970: `Date.dayNumber` and `Date.ofDayNumber`;
* `Date.of?` and `Moment.of?` refuse what is no day or no time of day, and say which part is wrong.
-/

namespace BoundSql

/-- Why a date or a time of day is refused. -/
inductive CalendarFault where
  | year (year : Nat)
  | month
  | day
  | hour
  | minute
  | second
  | offset (seconds : Int)
  deriving DecidableEq, Repr

/-- A day of the calendar. -/
structure Date where
  year : Nat
  month : Nat
  day : Nat
  deriving DecidableEq, Repr, Inhabited

/-- A day with a time of day; the offset is in seconds east of universal time. -/
structure Moment where
  date : Date
  hour : Nat
  minute : Nat
  second : Nat
  micro : Nat
  offset : Option Int
  deriving DecidableEq, Repr, Inhabited

/-- Years with a 29th of February. -/
def isLeapYear (y : Nat) : Bool := y % 4 == 0 && (y % 100 != 0 || y % 400 == 0)

/-- The number of days of a month. -/
def monthLength (y m : Nat) : Nat :=
  if m = 2 then (if isLeapYear y then 29 else 28)
  else if m = 4 ∨ m = 6 ∨ m = 9 ∨ m = 11 then 30 else 31

/-- A number written with at least `width` digits. -/
def zeroPadded (width n : Nat) : String := String.ofList (Binary64.padded width n)

namespace Date

/-- The day with these numbers, if there is one. -/
def of? (year month day : Nat) : Except CalendarFault Date :=
  if year < 1 ∨ 9999 < year then .error (.year year)
  else if month < 1 ∨ 12 < month then .error .month
  else if day < 1 ∨ monthLength year month < day then .error .day
  else .ok ⟨year, month, day⟩

/-- Year, month and day, joined by hyphens. -/
def text (d : Date) : String :=
  zeroPadded 4 d.year ++ "-" ++ zeroPadded 2 d.month ++ "-" ++ zeroPadded 2 d.day

/-- Days since 1 January 1970, counting years from March so that a leap day ends its year. -/
def dayNumber (d : Date) : Int :=
  let y : Int := if d.month ≤ 2 then (d.year : Int) - 1 else d.year
  let m : Int := if d.month ≤ 2 then (d.month : Int) + 9 else (d.month : Int) - 3
  365 * y + y / 4 - y / 100 + y / 400 + (153 * m + 2) / 5 + (d.day - 1) - 719468

/-- The day with a given number. -/
def ofDayNumber (n : Int) : Date :=
  let z := n + 719468
  let era := z / 146097
  let dayOfEra := z % 146097
  let yearOfEra := (dayOfEra - dayOfEra / 1460 + dayOfEra / 36524 - dayOfEra / 146096) / 365
  let dayOfYear := dayOfEra - (365 * yearOfEra + yearOfEra / 4 - yearOfEra / 100)
  let m := (5 * dayOfYear + 2) / 153
  let month := if m < 10 then m + 3 else m - 9
  let year := yearOfEra + era * 400 + (if month ≤ 2 then 1 else 0)
  ⟨year.toNat, month.toNat, (dayOfYear - (153 * m + 2) / 5 + 1).toNat⟩

/-- The number of the first day of the calendar. -/
def firstNumber : Int := dayNumber ⟨1, 1, 1⟩

/-- The number of the last day of the calendar. -/
def lastNumber : Int := dayNumber ⟨9999, 12, 31⟩

/-- The day with a given number, if the calendar has one. -/
def ofDayNumber? (n : Int) : Option Date :=
  if firstNumber ≤ n ∧ n ≤ lastNumber then some (ofDayNumber n) else none

end Date

namespace Moment

/-- The moment with these numbers, if there is one. -/
def of? (year month day hour minute second micro : Nat) (offset : Option Int) :
    Except CalendarFault Moment := do
  let date ← Date.of? year month day
  if 23 < hour then throw .hour
  if 59 < minute then throw .minute
  if 59 < second then throw .second
  return ⟨date, hour, minute, second, micro, offset⟩

/-- An offset as hours and minutes east of universal time, with seconds if it has any. -/
def offsetText (seconds : Int) : String :=
  let n := seconds.natAbs
  let body := zeroPadded 2 (n / 3600) ++ ":" ++ zeroPadded 2 (n / 60 % 60)
  (if seconds < 0 then "-" else "+") ++ body ++
    (if n % 60 = 0 then "" else ":" ++ zeroPadded 2 (n % 60))

/-- The time of day, with a fraction of six places unless it is zero. -/
def timeText (m : Moment) : String :=
  zeroPadded 2 m.hour ++ ":" ++ zeroPadded 2 m.minute ++ ":" ++ zeroPadded 2 m.second ++
    (if m.micro = 0 then "" else "." ++ zeroPadded 6 m.micro)

/-- Day, time of day and offset, the first two joined by `sep`. -/
def text (sep : String) (m : Moment) : String :=
  m.date.text ++ sep ++ m.timeText ++ (m.offset.map offsetText).getD ""

/-- Microseconds since the beginning of 1970, by the moment's own clock. -/
def localMicros (m : Moment) : Int :=
  ((m.date.dayNumber * 86400 + m.hour * 3600 + m.minute * 60 + m.second) * 1000000) + m.micro

/-- Microseconds since the beginning of 1970 in universal time. -/
def micros (m : Moment) : Int := m.localMicros - m.offset.getD 0 * 1000000

/-- The moment so many seconds after the beginning of 1970, in universal time. -/
def ofEpoch (seconds : Int) : Moment :=
  let n := (seconds % 86400).toNat
  ⟨Date.ofDayNumber (seconds / 86400), n / 3600, n / 60 % 60, n % 60, 0, some 0⟩

/-- The moment so many microseconds after the beginning of 1970 in universal time, shown at an offset
if one is given.  The calendar must have it both in universal time and as it is shown. -/
def ofMicros? (offset : Option Int) (micros : Int) : Option Moment := do
  let _ ← Date.ofDayNumber? (micros / 86400000000)
  let shown := micros + offset.getD 0 * 1000000
  let _ ← Date.ofDayNumber? (shown / 86400000000)
  return { ofEpoch (shown / 1000000) with micro := (shown % 1000000).toNat, offset := offset }

/-- Two moments are the same if both or neither have an offset and they are at the same time. -/
def same (m m' : Moment) : Bool := m.offset.isSome == m'.offset.isSome && m.micros == m'.micros

end Moment

end BoundSql
