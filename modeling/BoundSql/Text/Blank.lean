/-!
# Blank text

Which characters are white space, and what is left of a text without the white space at its ends.
The class is Unicode's bidirectional classes `WS`, `B` and `S` together with the space separators:
the ASCII blanks, the four information separators U+001C to U+001F, U+0085, U+00A0 and the spaces
beyond.  The zero-width characters U+200B and U+FEFF and the null character are not blank.

* a text is blank exactly if stripping it leaves nothing: `isBlank_iff_strip`.
-/

namespace BoundSql.Text

/-- White space. -/
def isBlankChar (c : Char) : Bool :=
  let n := c.toNat
  (9 ≤ n && n ≤ 13) || (28 ≤ n && n ≤ 32) || n == 0x85 || n == 0xA0 || n == 0x1680 ||
    (0x2000 ≤ n && n ≤ 0x200A) || n == 0x2028 || n == 0x2029 || n == 0x202F || n == 0x205F ||
    n == 0x3000

/-- White space among the ASCII characters, which is all that counts as blank in a byte string. -/
def isBlankByte (b : UInt8) : Bool := (9 ≤ b && b ≤ 13) || b == 32

/-- A list without the elements at both ends that satisfy `p`. -/
def stripBoth {α : Type} (p : α → Bool) (xs : List α) : List α :=
  (((xs.dropWhile p).reverse).dropWhile p).reverse

/-- A text without the white space at its two ends. -/
def strip (s : String) : String := String.ofList (stripBoth isBlankChar s.toList)

/-- Nothing but white space, or nothing at all. -/
def isBlank (s : String) : Bool := s.toList.all isBlankChar

theorem dropWhile_eq_nil {α : Type} (p : α → Bool) :
    ∀ xs : List α, xs.dropWhile p = [] ↔ xs.all p = true
  | [] => by simp
  | x :: xs => by
    cases h : p x
    · simp [h]
    · simp [h, dropWhile_eq_nil p xs]

theorem all_dropWhile {α : Type} (p : α → Bool) :
    ∀ xs : List α, (xs.dropWhile p).all p = xs.all p
  | [] => rfl
  | x :: xs => by
    cases h : p x
    · simp [h]
    · simpa [List.dropWhile_cons, h] using all_dropWhile p xs

theorem stripBoth_eq_nil_iff {α : Type} (p : α → Bool) (xs : List α) :
    stripBoth p xs = [] ↔ xs.all p = true := by
  rw [stripBoth, List.reverse_eq_nil_iff, dropWhile_eq_nil, List.all_reverse, all_dropWhile]

theorem isBlank_iff_strip (s : String) : isBlank s = true ↔ strip s = "" := by
  unfold isBlank strip
  rw [← stripBoth_eq_nil_iff isBlankChar s.toList]
  constructor
  · intro h; rw [h]
  · intro h
    have := congrArg String.toList h
    simpa using this

end BoundSql.Text
