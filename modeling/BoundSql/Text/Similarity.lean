/-!
# Similar texts

How much two texts have in common: the longest block that stands in both, then again what stands
before it in both and what stands after it in both.  Of blocks of one length the earliest counts.
Two texts are similar if at least six tenths of their characters are in common blocks.
-/

namespace BoundSql.Text

/-- The length of the longest common beginning. -/
def commonLength : List Char → List Char → Nat
  | a :: as, b :: bs => if a == b then commonLength as bs + 1 else 0
  | _, _ => 0

/-- A block that stands in two texts: where it begins in each, and its length. -/
structure CommonBlock where
  left : Nat
  right : Nat
  length : Nat
  deriving Repr

/-- The longest block that begins at the beginning of `as`, at or after place `right` of the other
text, unless `best` is as long; `left` is the place of `as`. -/
def longestHere (left : Nat) (as : List Char) : Nat → CommonBlock → List Char → CommonBlock
  | _, best, [] => best
  | right, best, b :: bs =>
    let n := commonLength as (b :: bs)
    longestHere left as (right + 1) (if best.length < n then ⟨left, right, n⟩ else best) bs

/-- The longest common block, unless `best` is as long. -/
def longestFrom (bs : List Char) : Nat → CommonBlock → List Char → CommonBlock
  | _, best, [] => best
  | left, best, a :: as =>
    longestFrom bs (left + 1) (longestHere left (a :: as) 0 best bs) as

/-- The number of characters in common blocks; each block takes one unit of fuel. -/
def commonSize : Nat → List Char → List Char → Nat
  | 0, _, _ => 0
  | n + 1, as, bs =>
    let block := longestFrom bs 0 ⟨0, 0, 0⟩ as
    if block.length = 0 then 0
    else
      commonSize n (as.take block.left) (bs.take block.right) + block.length +
        commonSize n (as.drop (block.left + block.length)) (bs.drop (block.right + block.length))

/-- Six tenths of the characters of both texts are in common blocks. -/
def isSimilar (s t : String) : Bool :=
  let size := s.length + t.length
  3 * size ≤ 10 * commonSize (s.length + 1) s.toList t.toList

end BoundSql.Text
