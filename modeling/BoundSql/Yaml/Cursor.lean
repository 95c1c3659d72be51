/-!
# Places in a document

A cursor is a place in the text of a document: what is left to read, and how far the place is from
the beginning, in characters, in lines and in columns of its line.  Line ends are a line feed,
U+0085, U+2028 and U+2029; the byte order mark takes no column.
-/

namespace BoundSql.Yaml

/-- A line end. -/
def isBreak (c : Char) : Bool := c == '\n' || c == '\x85' || c == '\u2028' || c == '\u2029'

/-- A space or a line end. -/
def isGap (c : Char) : Bool := c == ' ' || isBreak c

/-- A space, a tab or a line end. -/
def isBlank (c : Char) : Bool := c == '\t' || isGap c

/-- The characters a document may hold. -/
def isAllowed (c : Char) : Bool :=
  let n := c.toNat
  n == 9 || n == 10 || n == 13 || (0x20 ≤ n && n ≤ 0x7E) || n == 0x85 ||
    (0xA0 ≤ n && n ≤ 0xFFFD) || 0x10000 ≤ n

/-- Letters, digits, hyphen and underscore. -/
def isWordChar (c : Char) : Bool := c.isAlphanum || c == '-' || c == '_'

/-- What a line end stands for in a text: a line feed, unless it is a separator of its own. -/
def breakText (c : Char) : Char := if c == '\x85' then '\n' else c

/-- A text in which every line end of two characters, or of a carriage return, is a line feed. -/
def normalBreaks : List Char → List Char
  | '\r' :: '\n' :: r => '\n' :: normalBreaks r
  | '\r' :: r => '\n' :: normalBreaks r
  | c :: r => c :: normalBreaks r
  | [] => []

/-- A place in the text of a document. -/
structure Cursor where
  rest : List Char
  index : Nat
  line : Nat
  column : Nat
  deriving Repr, Inhabited

namespace Cursor

/-- The beginning of a text. -/
def start (cs : List Char) : Cursor := ⟨cs, 0, 0, 0⟩

/-- The next character. -/
def peek (k : Cursor) : Option Char := k.rest.head?

/-- The place after the next character. -/
def next (k : Cursor) : Cursor :=
  match k.rest with
  | [] => k
  | c :: r =>
    if isBreak c then ⟨r, k.index + 1, k.line + 1, 0⟩
    else ⟨r, k.index + 1, k.line, if c == '\uFEFF' then k.column else k.column + 1⟩

/-- The place after so many characters. -/
def drop : Nat → Cursor → Cursor
  | 0, k => k
  | n + 1, k => drop n k.next

/-- The characters up to the first that fails `p`, and the place there. -/
def span (p : Char → Bool) (k : Cursor) : List Char × Cursor :=
  let cs := k.rest.takeWhile p
  (cs, k.drop cs.length)

/-- The first place from here on whose character fails `p`. -/
def skipWhile (p : Char → Bool) (k : Cursor) : Cursor := (k.span p).2

/-- The next character satisfies `p`. -/
def sees (p : Char → Bool) (k : Cursor) : Bool := k.peek.any p

/-- The next character is `c`. -/
def at? (c : Char) (k : Cursor) : Bool := k.peek == some c

/-- The text ends here, or the next character satisfies `p`. -/
def endsOr (p : Char → Bool) (k : Cursor) : Bool := k.peek.all p

/-- Three hyphens or three dots that stand alone: the border of a document, if at the beginning of
a line. -/
def atBorder (k : Cursor) : Bool :=
  match k.rest with
  | '-' :: '-' :: '-' :: r => r.head?.all isBlank
  | '.' :: '.' :: '.' :: r => r.head?.all isBlank
  | _ => false

/-- Past spaces, and a comment if one follows. -/
def skipComment (k : Cursor) : Cursor :=
  let k := k.skipWhile (· == ' ')
  if k.at? '#' then k.skipWhile (!isBreak ·) else k

end Cursor

end BoundSql.Yaml
