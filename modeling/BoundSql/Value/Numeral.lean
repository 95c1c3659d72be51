import BoundSql.Fault
import BoundSql.Text.Blank
import BoundSql.Text.Digit

/-!
# Numerals

Reading a whole text as a number.  White space around a numeral does not count, and digits of every
script do.  An integer may be written in any base up to sixteen, with the mark of its base before
it; in base ten it has at most `Text.numeralLimit` digits.
-/

namespace BoundSql

namespace Numeral

/-- White space around a numeral: information separators are not among it. -/
def isSpace (c : Char) : Bool := Text.isBlankChar c && !(28 ≤ c.toNat && c.toNat ≤ 31)

/-- The value of a digit or a letter in bases beyond ten. -/
def digit? (base : Nat) (c : Char) : Option Nat :=
  let value? :=
    if 'a' ≤ c && c ≤ 'z' then some (c.toNat - 'a'.toNat + 10)
    else if 'A' ≤ c && c ≤ 'Z' then some (c.toNat - 'A'.toNat + 10)
    else Text.digitValue? c
  value?.filter (· < base)

/-- A text after its sign, and whether the sign is negative. -/
def splitSign : List Char → Bool × List Char
  | '-' :: r => (true, r)
  | '+' :: r => (false, r)
  | r => (false, r)

/-- The letter that marks a base. -/
def baseMark? (base : Nat) : Option Char :=
  if base = 2 then some 'b' else if base = 8 then some 'o' else if base = 16 then some 'x' else none

/-- Digits without the mark of their base. -/
def dropMark (base : Nat) : List Char → List Char
  | '0' :: c :: r => if baseMark? base == some c.toLower then r else '0' :: c :: r
  | cs => cs

/-- The refusal of a text that is no integer: its literal is cut off after 200 characters. -/
def noInteger (base : Nat) (s : String) : Fault :=
  .value ("invalid literal for int() with base " ++ toString base ++ ": " ++
    String.ofList ((Text.quoted s).toList.take 200))

/-- An integer in a base. -/
def integer (base : Nat) (s : String) : Outcome Int :=
  let (negative, cs) := splitSign (Text.stripBoth isSpace s.toList)
  let cs := dropMark base cs
  let digits := (cs.takeWhile fun c => (digit? base c).isSome).filterMap (digit? base)
  if base = 10 ∧ Text.numeralLimit < digits.length then
    .error (.longNumeral Text.numeralLimit digits.length)
  else if digits.isEmpty ∨ digits.length ≠ cs.length then .error (noInteger base s)
  else
    let n := digits.foldl (fun n d => base * n + d) 0
    .ok (if negative then -(n : Int) else n)

/-- A digit of any script as the ASCII digit of the same value. -/
def asciiDigit (c : Char) : Char :=
  match Text.digitValue? c with
  | some d => Nat.digitChar d
  | none => c

/-- A number with a fraction. -/
def real (s : String) : Outcome Binary64 :=
  let cs := (Text.stripBoth isSpace s.toList).map asciiDigit
  match Binary64.read? (String.ofList cs) with
  | some x => .ok x
  | none => .error (.value ("could not convert string to float: " ++ Text.quoted s))

end Numeral

end BoundSql
