import BoundSql.Number.Binary64

/-!
# Shortest decimal text

The shortest decimal that reads back as a given binary64 number, and its layout.  The numbers that
round to `m · 2 ^ e` fill an interval around it: half a unit to each side, a quarter unit below if
`m` is the least mantissa of its binade, the ends included if `m` is even.  `shortest` tries decimal
grids with 1, 2, … 17 digits; on each grid the two neighbours of the value are the only candidates
worth looking at, because if any point of the grid lies in the interval, so does one of them.
-/

namespace BoundSql.Binary64

/-- The number of decimal digits of a natural number. -/
def digitCount (n : Nat) : Nat := (Nat.repr n).length

/-- The decimal order of a positive quotient: the `k` with `10 ^ (k - 1) ≤ num / den < 10 ^ k`. -/
def decimalOrder (num den : Nat) : Int :=
  let k : Int := (digitCount num : Int) - digitCount den
  let below := if 0 ≤ k then num < den * Nat.pow 10 k.toNat else num * Nat.pow 10 (-k).toNat < den
  if below then k else k + 1

/-- `a · 10 ^ s ≤ b · 2 ^ t`, compared as natural numbers. -/
def decimalLe (a : Nat) (s : Int) (b : Nat) (t : Int) : Bool :=
  a * Nat.pow 10 s.toNat * Nat.pow 2 (-t).toNat ≤ b * Nat.pow 2 t.toNat * Nat.pow 10 (-s).toNat

/-- `b · 2 ^ t ≤ a · 10 ^ s`, compared as natural numbers. -/
def binaryLe (b : Nat) (t : Int) (a : Nat) (s : Int) : Bool :=
  b * Nat.pow 2 t.toNat * Nat.pow 10 (-s).toNat ≤ a * Nat.pow 10 s.toNat * Nat.pow 2 (-t).toNat

/-- The decimal `c · 10 ^ s` rounds to the number `m · 2 ^ e`. -/
def readsBack (m : Nat) (e : Int) (c : Nat) (s : Int) : Bool :=
  let t := e - 2
  let low := 4 * m - (if m = Nat.pow 2 52 ∧ -1074 < e then 1 else 2)
  let high := 4 * m + 2
  if m % 2 = 0 then binaryLe low t c s && decimalLe c s high t
  else !(decimalLe c s low t) && !(binaryLe high t c s)

/-- The neighbour of `m · 2 ^ e` on the grid of `10 ^ s` that reads back, the nearer one first and of
two equally near the even one. -/
def gridPoint? (m : Nat) (e s : Int) : Option Nat :=
  let (num, den) := ratio m e
  let num := num * Nat.pow 10 (-s).toNat
  let den := den * Nat.pow 10 s.toNat
  let floor := num / den
  let nearest := roundHalfEven num den
  let candidates := if nearest = floor then [floor, floor + 1] else [floor + 1, floor]
  candidates.find? fun c => readsBack m e c s

/-- The digits of a positive number in its shortest decimal, as a natural number without trailing
zeros, and the exponent of ten that goes with them. -/
def shortest (m : Nat) (e : Int) : Nat × Int :=
  let (num, den) := ratio m e
  let order := decimalOrder num den
  let grids := (List.range 17).map fun (n : Nat) => order - (n + 1 : Nat)
  match grids.findSome? fun s => (gridPoint? m e s).map fun c => (c, s) with
  | some (c, s) => (c, s)
  | none => (num / den, 0)

/-! ### Layout -/

/-- Where the shortest text of a number changes from positional to scientific, and how both look. -/
structure Layout where
  /-- Positional while the point stands to the right of at least this place. -/
  leastPoint : Int
  /-- Positional while the point stands at most at this place. -/
  mostPoint : Int
  /-- The least number of digits of an exponent. -/
  exponentWidth : Nat

/-- Positional from `0.0001` to below `10 ^ 16`, exponents of at least two digits. -/
def layout : Layout := ⟨-3, 16, 2⟩

/-- A number's digits, padded on the left with zeros. -/
def padded (width n : Nat) : List Char :=
  let ds := (Nat.repr n).toList
  List.replicate (width - ds.length) '0' ++ ds

/-- An exponent part with its sign. -/
def exponentText (mark : Char) (width : Nat) (e : Int) : List Char :=
  mark :: (if e < 0 then '-' else '+') :: padded width e.natAbs

/-- A run of digits with the point after the first `point` of them, `.0` standing for no fraction. -/
def positional (ds : List Char) (point : Int) : List Char :=
  if point ≤ 0 then '0' :: '.' :: (List.replicate (-point).toNat '0' ++ ds)
  else
    let n := point.toNat
    if ds.length ≤ n then ds ++ List.replicate (n - ds.length) '0' ++ ['.', '0']
    else ds.take n ++ '.' :: ds.drop n

/-- Digits laid out with the point at the place `point`. -/
def layOut (l : Layout) (ds : List Char) (point : Int) : List Char :=
  if l.leastPoint ≤ point ∧ point ≤ l.mostPoint then positional ds point
  else
    let fraction := ds.drop 1
    ds.take 1 ++ (if fraction.isEmpty then [] else '.' :: fraction) ++
      exponentText 'e' l.exponentWidth (point - 1)

/-- The shortest text that reads back as the number. -/
def text : Binary64 → String
  | .nan => "nan"
  | .infinite negative => if negative then "-inf" else "inf"
  | .finite negative m e =>
    let body :=
      if m = 0 then ['0', '.', '0']
      else
        let (c, s) := shortest m e
        let ds := (Nat.repr c).toList
        let point := ds.length + s
        let ds := ((ds.reverse.dropWhile (· == '0')).reverse)
        layOut layout ds point
    String.ofList (if negative then '-' :: body else body)

end BoundSql.Binary64
