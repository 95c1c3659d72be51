import BoundSql.Text.Quoted

/-!
# UTF-8

Reading bytes as characters (`Utf8.decode`).  A character takes one to four bytes; its first byte
tells how many, and each further byte lies in a range that excludes surrogates, characters beyond
U+10FFFF and forms that are longer than necessary.  The first defect is reported with the place of
its first byte and the number of bytes that could have begun a character.
-/

namespace BoundSql

/-- What is wrong with bytes that are no UTF-8. -/
inductive Utf8Defect where
  /-- No character begins with this byte. -/
  | start
  /-- A byte does not continue the character that has begun. -/
  | continuation
  /-- The bytes end inside a character. -/
  | ending
  deriving DecidableEq, Repr

/-- A defect: its first byte, the place of that byte and the number of bytes concerned. -/
structure Utf8Fault where
  defect : Utf8Defect
  byte : UInt8
  place : Nat
  count : Nat
  deriving DecidableEq, Repr

namespace Utf8Defect

/-- The wording of a defect. -/
def reason : Utf8Defect → String
  | start => "invalid start byte"
  | continuation => "invalid continuation byte"
  | ending => "unexpected end of data"

end Utf8Defect

namespace Utf8Fault

/-- The wording of a fault: a single byte is shown, several are told by their places. -/
def message (f : Utf8Fault) : String :=
  "'utf-8' codec can't decode " ++
    (if f.count = 1 then
      "byte 0x" ++ String.ofList (Text.hexDigits 2 f.byte.toNat) ++ " in position "
        ++ toString f.place
    else
      "bytes in position " ++ toString f.place ++ "-" ++ toString (f.place + f.count - 1))
    ++ ": " ++ f.defect.reason

end Utf8Fault

namespace Text.Utf8

/-- The number of bytes of the character that a byte begins. -/
def width? (b : UInt8) : Option Nat :=
  if b < 0x80 then some 1
  else if b < 0xC2 then none
  else if b < 0xE0 then some 2
  else if b < 0xF0 then some 3
  else if b < 0xF5 then some 4
  else none

/-- The second byte of a character that begins with `first` may be `b`. -/
def isSecond (first b : UInt8) : Bool :=
  if first == 0xE0 then 0xA0 ≤ b && b ≤ 0xBF
  else if first == 0xED then 0x80 ≤ b && b ≤ 0x9F
  else if first == 0xF0 then 0x90 ≤ b && b ≤ 0xBF
  else if first == 0xF4 then 0x80 ≤ b && b ≤ 0x8F
  else 0x80 ≤ b && b ≤ 0xBF

/-- A byte that may stand third or fourth. -/
def isLater (b : UInt8) : Bool := 0x80 ≤ b && b ≤ 0xBF

/-- The number of bytes after `first` that continue its character. -/
def continued (first : UInt8) : List UInt8 → Nat
  | [] => 0
  | b :: r => if isSecond first b then (r.takeWhile isLater).length + 1 else 0

/-- The bits of a first byte that belong to its character, which takes `width` bytes. -/
def leadingBits (width : Nat) (b : UInt8) : Nat :=
  if width = 1 then b.toNat else b.toNat % Nat.pow 2 (7 - width)

/-- The character whose first byte is `first` and which takes `width` bytes in all. -/
def charOf (width : Nat) (first : UInt8) (rest : List UInt8) : Char :=
  Char.ofNat ((rest.take (width - 1)).foldl (fun n b => n * 64 + b.toNat % 64)
    (leadingBits width first))

/-- The characters of bytes, the first `skip` of which belong to a character that has been read
already; `place` is the place of the first byte. -/
def decodeFrom : (place skip : Nat) → List UInt8 → Except Utf8Fault (List Char)
  | _, _, [] => .ok []
  | place, skip + 1, _ :: r => decodeFrom (place + 1) skip r
  | place, 0, b :: r =>
    match width? b with
    | none => .error ⟨.start, b, place, 1⟩
    | some width =>
      let n := continued b (r.take (width - 1))
      if n = width - 1 then
        (decodeFrom (place + 1) (width - 1) r).map (charOf width b r :: ·)
      else if n = r.length then .error ⟨.ending, b, place, n + 1⟩
      else .error ⟨.continuation, b, place, n + 1⟩

/-- The text that bytes stand for. -/
def decode (bs : List UInt8) : Except Utf8Fault String := (decodeFrom 0 0 bs).map String.ofList

end Text.Utf8

end BoundSql
