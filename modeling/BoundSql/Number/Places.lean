import BoundSql.Number.Shortest

/-!
# Decimal text with a given number of places

A quotient written with a fixed number of places after the point, or with a fixed number of
significant digits and an exponent.  The quotient is exact and is rounded once, a tie going to the
even digit.
-/

namespace BoundSql.Places

open Binary64 (roundHalfEven decimalOrder padded exponentText digitCount)

/-- `num / den` with `places` digits after the point; no point if there are none. -/
def fixed (places : Nat) (num den : Nat) : List Char :=
  let n := roundHalfEven (num * Nat.pow 10 places) den
  let ds := padded (places + 1) n
  let whole := ds.take (ds.length - places)
  if places = 0 then whole else whole ++ '.' :: ds.drop (ds.length - places)

/-- The first `count` significant digits of `num / den` after rounding, and the exponent of the
first of them. -/
def significant (count : Nat) (num den : Nat) : List Char × Int :=
  if num = 0 then (List.replicate count '0', 0)
  else
    let order := decimalOrder num den
    let s : Int := order - count
    let n := roundHalfEven (num * Nat.pow 10 (-s).toNat) (den * Nat.pow 10 s.toNat)
    if digitCount n = count then ((Nat.repr n).toList, order - 1)
    else ((Nat.repr n).toList.take count, order)

/-- `num / den` with one digit before the point, `places` after it, and an exponent. -/
def scientific (places : Nat) (num den : Nat) : List Char :=
  let (ds, e) := significant (places + 1) num den
  ds.take 1 ++ (if places = 0 then [] else '.' :: ds.drop 1) ++ exponentText 'e' 2 e

/-- A fraction without the zeros at its end, and without its point if nothing else is left. -/
def trimZeros (cs : List Char) : List Char :=
  if cs.contains '.' then
    let r := cs.reverse.dropWhile (· == '0')
    ((if r.head? == some '.' then r.drop 1 else r)).reverse
  else cs

/-- `num / den` with at most `count` significant digits, positional if its exponent is at least `-4`
and below `count`; zeros at the end are kept only if `keep`. -/
def general (count : Nat) (keep : Bool) (num den : Nat) : List Char :=
  let count := max count 1
  let (ds, e) := significant count num den
  if -4 ≤ e ∧ e < count then
    let places := ((count : Int) - 1 - e).toNat
    let body := fixed places num den
    if keep then (if places = 0 then body ++ ['.'] else body) else trimZeros body
  else
    let m := ds.take 1 ++ '.' :: ds.drop 1
    (if keep then m else trimZeros m) ++ exponentText 'e' 2 e

end BoundSql.Places
