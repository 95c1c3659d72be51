import BoundSql.Text.Printable

/-!
# Quoted literals

The literal form of a text and of a byte string, as diagnostics show values.  A literal stands in
apostrophes, or in quotation marks if it holds an apostrophe and no quotation mark.  The closing
mark and the backslash are escaped by a backslash; tabulators, line feeds and carriage returns have
letters; every other unprintable character is a hexadecimal escape of two, four or eight digits.
-/

namespace BoundSql.Text

/-- The least `width` hexadecimal digits of a number, in lower case. -/
def hexDigits : Nat → Nat → List Char
  | 0, _ => []
  | width + 1, n => hexDigits width (n / 16) ++ [Nat.digitChar (n % 16)]

/-- An escape: a backslash, a letter that tells the width, and that many hexadecimal digits. -/
def hexEscape (n : Nat) : List Char :=
  if n ≤ 0xFF then '\\' :: 'x' :: hexDigits 2 n
  else if n ≤ 0xFFFF then '\\' :: 'u' :: hexDigits 4 n
  else '\\' :: 'U' :: hexDigits 8 n

/-- The mark that a literal with these characters stands in. -/
def quoteMark (cs : List Char) : Char :=
  if cs.contains '\'' && !cs.contains '"' then '"' else '\''

/-- One character inside a literal that stands in `mark`. -/
def quoteChar (mark c : Char) : List Char :=
  if c == mark || c == '\\' then ['\\', c]
  else if c == '\t' then ['\\', 't']
  else if c == '\n' then ['\\', 'n']
  else if c == '\r' then ['\\', 'r']
  else if isPrintable c then [c]
  else hexEscape c.toNat

/-- The literal form of a text. -/
def quoted (s : String) : String :=
  let mark := quoteMark s.toList
  String.ofList (mark :: s.toList.flatMap (quoteChar mark) ++ [mark])

/-- One byte inside a literal that stands in `mark`: a byte beyond ASCII is always escaped. -/
def quoteByte (mark : Char) (b : UInt8) : List Char :=
  if b < 0x7F then quoteChar mark (Char.ofNat b.toNat) else hexEscape b.toNat

/-- The literal form of a byte string, with a `b` before the opening mark. -/
def quotedBytes (bs : List UInt8) : String :=
  let mark := quoteMark (bs.map fun b => Char.ofNat b.toNat)
  String.ofList ('b' :: mark :: bs.flatMap (quoteByte mark) ++ [mark])

end BoundSql.Text
