/-!
# Binary64 numbers

A finite number is `± m · 2 ^ e` with `m < 2 ^ 53` and `-1074 ≤ e ≤ 971`, in the form with the least
exponent that keeps `m` below `2 ^ 53`; so equal forms are equal numbers, the two zeros apart.
Everything is exact arithmetic on natural numbers: a quotient of two naturals is rounded once, to
the nearest number, a tie going to the even mantissa (`ofQuotient`), and sums, products and decimal
numerals are quotients.
-/

namespace BoundSql

/-- A number of the binary interchange format of 64 bits. -/
inductive Binary64 where
  | finite (negative : Bool) (mantissa : Nat) (exponent : Int)
  | infinite (negative : Bool)
  | nan
  deriving DecidableEq, Repr, Inhabited

namespace Binary64

/-- The integer nearest to `num / den`, a tie going to the even neighbour. -/
def roundHalfEven (num den : Nat) : Nat :=
  let q := num / den
  let r := num % den
  if 2 * r < den then q
  else if den < 2 * r then q + 1
  else if q % 2 = 0 then q else q + 1

/-- `num · 2 ^ k` and `den · 2 ^ (-k)`, whichever is a natural number. -/
def scaleBy (k : Int) (num den : Nat) : Nat × Nat :=
  if 0 ≤ k then (num * Nat.pow 2 k.toNat, den) else (num, den * Nat.pow 2 (-k).toNat)

/-- The least exponent at which the mantissa of `num / den` has at most 53 bits. -/
def exponentOf (num den : Nat) : Int :=
  let guess : Int := (Nat.log2 num : Int) - Nat.log2 den - 52
  let (n, d) := scaleBy (-guess) num den
  max (-1074) (if n / d < Nat.pow 2 52 then guess - 1 else guess)

/-- The number nearest to `num / den`, with the sign given. -/
def ofQuotient (negative : Bool) (num den : Nat) : Binary64 :=
  if num = 0 ∨ den = 0 then .finite negative 0 (-1074)
  else
    let e := exponentOf num den
    let (n, d) := scaleBy (-e) num den
    let m := roundHalfEven n d
    let (m, e) := if m = Nat.pow 2 53 then (Nat.pow 2 52, e + 1) else (m, e)
    if 971 < e then .infinite negative else .finite negative m e

/-- The number nearest to an integer. -/
def ofInt (n : Int) : Binary64 := ofQuotient (n < 0) n.natAbs 1

/-- The number nearest to `± digits · 10 ^ scale`.  Values that are sure to be beyond the format, or
below half its least number, are decided by their order of magnitude. -/
def ofDecimal (negative : Bool) (digits : Nat) (scale : Int) : Binary64 :=
  let magnitude : Int := (Nat.repr digits).length + scale
  if digits = 0 ∨ magnitude < -330 then .finite negative 0 (-1074)
  else if 330 < magnitude then .infinite negative
  else if 0 ≤ scale then ofQuotient negative (digits * Nat.pow 10 scale.toNat) 1
  else ofQuotient negative digits (Nat.pow 10 (-scale).toNat)

/-- The magnitude of a finite number as a quotient. -/
def ratio (mantissa : Nat) (exponent : Int) : Nat × Nat :=
  scaleBy exponent mantissa 1

/-- A finite number as a signed quotient. -/
def quotient? : Binary64 → Option (Int × Nat)
  | .finite negative m e =>
    let (n, d) := ratio m e
    some (if negative then -(n : Int) else n, d)
  | _ => none

/-- The number nearest to a signed quotient; zero is positive. -/
def ofSigned (num : Int) (den : Nat) : Binary64 := ofQuotient (num < 0) num.natAbs den

/-- The sum, rounded once. -/
def add (x y : Binary64) : Binary64 :=
  match x.quotient?, y.quotient? with
  | some (n, d), some (n', d') => ofSigned (n * d' + n' * d) (d * d')
  | none, some _ => x
  | some _, none => y
  | none, none => if x = y then x else .nan

/-- The number with the opposite sign. -/
def neg : Binary64 → Binary64
  | .finite negative m e => .finite (!negative) m e
  | .infinite negative => .infinite (!negative)
  | .nan => .nan

/-- Zero of either sign. -/
def isZero : Binary64 → Bool
  | .finite _ m _ => m == 0
  | _ => false

/-- The sign; what is no number has none. -/
def isNegative : Binary64 → Bool
  | .finite negative _ _ | .infinite negative => negative
  | .nan => false

/-- The product, rounded once. -/
def mul (x y : Binary64) : Binary64 :=
  let negative := x.isNegative != y.isNegative
  match x.quotient?, y.quotient? with
  | some (n, d), some (n', d') => ofQuotient negative (n * n').natAbs (d * d')
  | _, _ => if x == .nan || y == .nan || x.isZero || y.isZero then .nan else .infinite negative

/-- The integer part of a finite number, toward zero. -/
def truncate? (x : Binary64) : Option Int := x.quotient?.map fun (n, d) => n.tdiv d

/-! ### Reading numerals -/

/-- The digits of `digits`, then of `fraction`, as one natural number. -/
def digitsValue (digits fraction : List Char) : Nat :=
  (digits ++ fraction).foldl (fun n c => 10 * n + (c.toNat - 48)) 0

/-- An exponent part, `e` with an optional sign and digits, read as an integer. -/
def exponent? : List Char → Option Int
  | [] => some 0
  | c :: cs =>
    if c == 'e' || c == 'E' then
      let (negative, ds) := match cs with
        | '-' :: r => (true, r)
        | '+' :: r => (false, r)
        | r => (false, r)
      if ds.isEmpty || !(ds.all Char.isDigit) then none
      else
        let n := digitsValue ds []
        some (if negative then -(n : Int) else n)
    else none

/-- An unsigned decimal numeral: digits with an optional point and an optional exponent. -/
def unsigned? (negative : Bool) (cs : List Char) : Option Binary64 :=
  let whole := cs.takeWhile Char.isDigit
  let rest := cs.dropWhile Char.isDigit
  let (fraction, rest) := match rest with
    | '.' :: r => (r.takeWhile Char.isDigit, r.dropWhile Char.isDigit)
    | r => ([], r)
  if whole.isEmpty && fraction.isEmpty then none
  else (exponent? rest).map fun e =>
    ofDecimal negative (digitsValue whole fraction) (e - fraction.length)

/-- Reads a signed decimal numeral, or one of the names of the values that are no numbers. -/
def read? (s : String) : Option Binary64 :=
  let body (negative : Bool) (cs : List Char) : Option Binary64 :=
    let name := String.ofList (cs.map Char.toLower)
    if name == "inf" || name == "infinity" then some (.infinite negative)
    else if name == "nan" then some .nan
    else unsigned? negative cs
  match s.toList with
  | '-' :: cs => body true cs
  | '+' :: cs => body false cs
  | cs => body false cs

end Binary64

end BoundSql
