import BoundSql.Number.Shortest

/-!
# Decimal numbers

A finite decimal number keeps the places it was written with: `± coefficient · 10 ^ exponent`.  Its
text is positional while the exponent is not positive and at most six zeros would follow the point,
and scientific with a capital mark otherwise.  Beside the finite numbers there are the two
infinities and values that are no number, quiet or signaling, which may carry digits.
-/

namespace BoundSql

/-- A decimal number with its places. -/
inductive Decimal where
  | finite (negative : Bool) (coefficient : Nat) (exponent : Int)
  | infinite (negative : Bool)
  | nan (negative signaling : Bool) (digits : Nat)
  deriving DecidableEq, Repr, Inhabited

namespace Decimal

/-- Reads digits with an optional point and exponent. -/
def finite? (negative : Bool) (cs : List Char) : Option Decimal :=
  let whole := cs.takeWhile Char.isDigit
  let rest := cs.dropWhile Char.isDigit
  let (fraction, rest) := match rest with
    | '.' :: r => (r.takeWhile Char.isDigit, r.dropWhile Char.isDigit)
    | r => ([], r)
  if whole.isEmpty && fraction.isEmpty then none
  else (Binary64.exponent? rest).map fun e =>
    finite negative (Binary64.digitsValue whole fraction) (e - fraction.length)

/-- Reads what follows the name of a value that is no number. -/
def nan? (negative signaling : Bool) (ds : List Char) : Option Decimal :=
  if ds.all Char.isDigit then some (nan negative signaling (Binary64.digitsValue ds []))
  else none

/-- Reads a number without its sign, in whatever case its letters are. -/
def unsigned? (negative : Bool) (cs : List Char) : Option Decimal :=
  match cs.map Char.toLower with
  | ['i', 'n', 'f'] | ['i', 'n', 'f', 'i', 'n', 'i', 't', 'y'] => some (infinite negative)
  | 's' :: 'n' :: 'a' :: 'n' :: ds => nan? negative true ds
  | 'n' :: 'a' :: 'n' :: ds => nan? negative false ds
  | _ => finite? negative cs

/-- Reads a number with an optional sign. -/
def read? (s : String) : Option Decimal :=
  match s.toList with
  | '-' :: cs => unsigned? true cs
  | '+' :: cs => unsigned? false cs
  | cs => unsigned? false cs

/-- A finite number as a signed quotient. -/
def quotient? : Decimal → Option (Int × Nat)
  | finite negative coefficient exponent =>
    let n : Int := coefficient * Nat.pow 10 exponent.toNat
    some (if negative then -n else n, Nat.pow 10 (-exponent).toNat)
  | _ => none

/-- Zero of either sign, with any places. -/
def isZero : Decimal → Bool
  | finite _ coefficient _ => coefficient == 0
  | _ => false

/-- The digits with the point after the first `point` of them, no point standing for no fraction. -/
def withPoint (ds : List Char) (point : Int) : List Char :=
  if point ≤ 0 then '0' :: '.' :: (List.replicate (-point).toNat '0' ++ ds)
  else
    let n := point.toNat
    if ds.length ≤ n then ds ++ List.replicate (n - ds.length) '0'
    else ds.take n ++ '.' :: ds.drop n

/-- The text of the magnitude of a finite number. -/
def finiteText (coefficient : Nat) (exponent : Int) : List Char :=
  let ds := (Nat.repr coefficient).toList
  let left : Int := exponent + ds.length
  if exponent ≤ 0 ∧ -6 < left then withPoint ds left
  else withPoint ds 1 ++ (if left = 1 then [] else Binary64.exponentText 'E' 1 (left - 1))

/-- The text of what is no number. -/
def nanText (signaling : Bool) (digits : Nat) : List Char :=
  (if signaling then ['s'] else []) ++ ['N', 'a', 'N'] ++
    (if digits = 0 then [] else (Nat.repr digits).toList)

/-- A sign before a text. -/
def signed (negative : Bool) (cs : List Char) : String :=
  String.ofList (if negative then '-' :: cs else cs)

/-- The text of a decimal number. -/
def text : Decimal → String
  | finite negative coefficient exponent => signed negative (finiteText coefficient exponent)
  | infinite negative => signed negative "Infinity".toList
  | nan negative signaling digits => signed negative (nanText signaling digits)

end Decimal

end BoundSql
