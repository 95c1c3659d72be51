/-!
# Bytes written in base 64

Four characters stand for three bytes.  Characters of no meaning are skipped, and reading ends with
the padding of a group; a group that is cut short without its padding is refused.
-/

namespace BoundSql.Yaml

/-- The value of a character in base 64. -/
def sixtyFour? (c : Char) : Option Nat :=
  if 'A' ≤ c && c ≤ 'Z' then some (c.toNat - 'A'.toNat)
  else if 'a' ≤ c && c ≤ 'z' then some (c.toNat - 'a'.toNat + 26)
  else if c.isDigit then some (c.toNat - '0'.toNat + 52)
  else if c == '+' then some 62
  else if c == '/' then some 63
  else none

/-- The byte that a character completes, if any: `place` is its place in its group of four and
`left` what the character before it has left over. -/
def byteOf (place left value : Nat) : List UInt8 :=
  match place with
  | 0 => []
  | 1 => [(left * 4 + value / 16).toUInt8]
  | 2 => [(left % 16 * 16 + value / 4).toUInt8]
  | _ => [(left % 4 * 64 + value).toUInt8]

/-- The bytes from a place in a group on; `left` is the value of the character before, `pads` the
number of padding marks just before. -/
def bytesFrom : Nat → Nat → Nat → List Char → Option (List UInt8)
  | place, _, _, [] => if place = 0 then some [] else none
  | place, left, pads, c :: r =>
    if c == '=' then
      if place < 2 then bytesFrom place left pads r
      else if 4 ≤ place + (pads + 1) then some []
      else bytesFrom place left (pads + 1) r
    else
      match sixtyFour? c with
      | none => bytesFrom place left pads r
      | some value =>
        (bytesFrom ((place + 1) % 4) value 0 r).map (byteOf place left value ++ ·)

/-- The bytes that a text stands for. -/
def bytesOfText? (cs : List Char) : Option (List UInt8) := bytesFrom 0 0 0 cs

/-- The bytes of a text of ASCII characters. -/
def binary? (s : String) : Option (List UInt8) :=
  if s.toList.all (·.toNat < 128) then bytesOfText? s.toList else none

end BoundSql.Yaml
