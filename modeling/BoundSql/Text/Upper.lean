/-!
# Upper case, as far as ASCII names can tell

Names that are compared without regard to case are written in ASCII capitals.  A character matters
to such a comparison only if its capital form is made of ASCII letters: the ASCII letters, the
dotless i, the long s, the sharp s and the Latin ligatures.  Every other character stays itself,
which is right for the comparison because its capital form holds a character outside ASCII.
-/

namespace BoundSql.Text

/-- The capital form of a character if that is ASCII, and the character itself otherwise. -/
def upperChar (c : Char) : List Char :=
  if 'a' ≤ c && c ≤ 'z' then [Char.ofNat (c.toNat - 32)]
  else match c.toNat with
    | 0xDF => ['S', 'S']
    | 0x131 => ['I']
    | 0x17F => ['S']
    | 0xFB00 => ['F', 'F']
    | 0xFB01 => ['F', 'I']
    | 0xFB02 => ['F', 'L']
    | 0xFB03 => ['F', 'F', 'I']
    | 0xFB04 => ['F', 'F', 'L']
    | 0xFB05 => ['S', 'T']
    | 0xFB06 => ['S', 'T']
    | _ => [c]

/-- A name with its letters turned into ASCII capitals where they have one. -/
def upper (s : String) : String := String.ofList (s.toList.flatMap upperChar)

end BoundSql.Text
