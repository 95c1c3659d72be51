import BoundSql.Fault
import BoundSql.Yaml.Cursor

/-!
# The texts of scalars

How the text of a scalar is read off a document, for each way of writing one.

* A plain scalar ends at a colon or a comment that stands apart, in a bracket also at a bracket or a
  comma, and otherwise goes on as long as its lines are indented.
* A quoted scalar ends at its quote; in double quotes a backslash begins an escape.
* A block scalar is made of the indented lines that follow its header; its header says how lines are
  joined and what becomes of the line ends at its end.

In the first two, and in folded blocks, a single line end is a space and of several the first is
dropped (`fold`).
-/

namespace BoundSql.Yaml

/-- What a line end and the empty lines after it stand for. -/
def fold (first : Char) (more : List Char) : List Char :=
  if first ≠ '\n' then first :: more
  else if more.isEmpty then [' '] else more

/-! ### Plain scalars -/

/-- The colon of a key: whether a colon ends a plain scalar when the given character follows. -/
def endsKey (inBrackets : Bool) (next : Option Char) : Bool :=
  next.all fun c => isBlank c || (inBrackets && ",[]\x7b\x7d".toList.contains c)

/-- The part of a plain scalar that has no blanks. -/
def plainRun (inBrackets : Bool) : List Char → List Char
  | [] => []
  | c :: r =>
    if isBlank c || (c == ':' && endsKey inBrackets r.head?) ||
      (inBrackets && ",?[]\x7b\x7d".toList.contains c) then []
    else c :: plainRun inBrackets r

/-- The line ends after a first one, with the spaces between them, and the place after them; nothing
if a document ends among them. -/
def plainBreaks : Nat → Cursor → Option (List Char) × Cursor
  | 0, k => (some [], k)
  | n + 1, k =>
    match k.peek with
    | some ' ' => plainBreaks n k.next
    | some c =>
      if isBreak c then
        if k.next.atBorder then (none, k.next)
        else
          let (more, k') := plainBreaks n k.next
          (more.map (breakText c :: ·), k')
      else (some [], k)
    | none => (some [], k)

/-- The blanks between two parts of a plain scalar as they stand in its text, whether they hold a
line end, and the place after them; nothing if the scalar ends here. -/
def plainGap (k : Cursor) : List Char × Bool × Cursor :=
  let (spaces, k) := k.span (· == ' ')
  match k.peek with
  | some c =>
    if isBreak c then
      let k := k.next
      if k.atBorder then ([], true, k)
      else
        let (more, k) := plainBreaks k.rest.length k
        (match more with
          | some cs => fold (breakText c) cs
          | none => [], true, k)
    else (spaces, false, k)
  | none => (spaces, false, k)

/-- A plain scalar from the given place on: its text, whether line ends follow it, and the place
after it. -/
def plainFrom (inBrackets : Bool) (indent : Nat) :
    Nat → List Char → Bool → Cursor → List Char × Bool × Cursor
  | 0, _, fresh, k => ([], fresh, k)
  | n + 1, gap, fresh, k =>
    let run := plainRun inBrackets k.rest
    if run.isEmpty then ([], fresh, k)
    else
      let (gap', fresh', k') := plainGap (k.drop run.length)
      if gap'.isEmpty || k'.at? '#' || (!inBrackets && k'.column < indent) then
        (gap ++ run, fresh', k')
      else
        let (more, last) := plainFrom inBrackets indent n gap' fresh' k'
        (gap ++ run ++ more, last)

/-- A plain scalar whose lines are to be indented by at least `indent`. -/
def plain (inBrackets : Bool) (indent : Nat) (k : Cursor) : List Char × Bool × Cursor :=
  plainFrom inBrackets indent k.rest.length [] false k

/-! ### Quoted scalars -/

/-- The line ends after a first one in a quoted scalar, with the blanks between them; the border of
a document may not be among them. -/
def quotedBreaks : Nat → Cursor → Outcome (List Char × Cursor)
  | 0, k => .ok ([], k)
  | n + 1, k =>
    if k.atBorder then .error .document
    else
      let k := k.skipWhile fun c => c == ' ' || c == '\t'
      match k.peek with
      | some c =>
        if isBreak c then do
          let (more, k') ← quotedBreaks n k.next
          return (breakText c :: more, k')
        else .ok ([], k)
      | none => .ok ([], k)

/-- Blanks inside a quoted scalar as they stand in its text. -/
def quotedGap (k : Cursor) : Outcome (List Char × Cursor) :=
  let (spaces, k) := k.span fun c => c == ' ' || c == '\t'
  match k.peek with
  | none => .error .document
  | some c =>
    if isBreak c then do
      let (more, k') ← quotedBreaks k.rest.length k.next
      return (fold (breakText c) more, k')
    else .ok (spaces, k)

/-- The characters that a single letter after a backslash stands for. -/
def shortEscapes : List (Char × Char) :=
  [('0', '\x00'), ('a', '\x07'), ('b', '\x08'), ('t', '\t'), ('\t', '\t'), ('n', '\n'),
   ('v', '\x0B'), ('f', '\x0C'), ('r', '\r'), ('e', '\x1B'), (' ', ' '), ('"', '"'),
   ('\\', '\\'), ('/', '/'), ('N', '\x85'), ('_', '\xA0'), ('L', '\u2028'), ('P', '\u2029')]

/-- The number of hexadecimal digits after the letter of a numeric escape. -/
def escapeWidth? (c : Char) : Option Nat :=
  if c == 'x' then some 2 else if c == 'u' then some 4 else if c == 'U' then some 8 else none

/-- The value of a hexadecimal digit. -/
def hexDigit? (c : Char) : Option Nat :=
  if '0' ≤ c && c ≤ '9' then some (c.toNat - '0'.toNat)
  else if 'a' ≤ c && c ≤ 'f' then some (c.toNat - 'a'.toNat + 10)
  else if 'A' ≤ c && c ≤ 'F' then some (c.toNat - 'A'.toNat + 10)
  else none

/-- The number that exactly `width` hexadecimal digits denote. -/
def hexNumber? (width : Nat) (cs : List Char) : Option Nat :=
  let ds := (cs.take width).filterMap hexDigit?
  if ds.length = width then some (ds.foldl (fun n d => 16 * n + d) 0) else none

/-- The character with a number, if there is one. -/
def charNumbered (n : Nat) : Outcome Char :=
  if n < 0x110000 then .ok (Char.ofNat n)
  else if n < Nat.pow 2 31 then .error (.value "chr() arg not in range(0x110000)")
  else .error (.overflow "Python int too large to convert to C int")

/-- What an escape stands for, from the place after its backslash. -/
def escape (k : Cursor) : Outcome (List Char × Cursor) :=
  match k.peek with
  | none => .error .document
  | some c =>
    match shortEscapes.lookup c, escapeWidth? c with
    | some d, _ => .ok ([d], k.next)
    | none, some width =>
      match hexNumber? width k.next.rest with
      | some n => do return ([← charNumbered n], k.next.drop width)
      | none => .error .document
    | none, none =>
      if isBreak c then quotedBreaks k.rest.length k.next else .error .document

/-- The text of a quoted scalar from a place inside it, and the place after its quote. -/
def quotedFrom (quote : Char) : Nat → Cursor → Outcome (List Char × Cursor)
  | 0, _ => .error .document
  | n + 1, k =>
    let continueWith (cs : List Char) (k : Cursor) : Outcome (List Char × Cursor) := do
      let (more, k') ← quotedFrom quote n k
      return (cs ++ more, k')
    match k.peek with
    | none => .error .document
    | some c =>
      if c == quote then
        if quote == '\'' && k.next.at? '\'' then continueWith ['\''] (k.drop 2)
        else .ok ([], k.next)
      else if quote == '"' && c == '\\' then do
        let (cs, k') ← escape k.next
        continueWith cs k'
      else if isBlank c then do
        let (cs, k') ← quotedGap k
        continueWith cs k'
      else continueWith [c] k.next

/-- A quoted scalar, from its opening quote. -/
def quoted (quote : Char) (k : Cursor) : Outcome (List Char × Cursor) :=
  quotedFrom quote (k.rest.length + 1) k.next

/-! ### Block scalars -/

/-- What becomes of the line ends at the end of a block scalar. -/
inductive Chomping where
  | strip
  | clip
  | keep
  deriving DecidableEq, Repr

/-- The header of a block scalar: its chomping, and its indentation if it is given. -/
structure BlockHeader where
  chomping : Chomping
  indentation : Option Nat
  deriving Repr

namespace BlockHeader

/-- The chomping that a sign asks for. -/
def chomping? (k : Cursor) : Option Chomping :=
  if k.at? '+' then some .keep else if k.at? '-' then some .strip else none

/-- The indentation that a digit asks for; it may not be zero. -/
def indentation? (k : Cursor) : Outcome (Option Nat) :=
  match k.peek with
  | some c =>
    if c == '0' then .error .document
    else if c.isDigit then .ok (some (c.toNat - '0'.toNat)) else .ok none
  | none => .ok none

/-- Sign and digit, either of which may be absent and which may stand in either order. -/
def read (k : Cursor) : Outcome (BlockHeader × Cursor) := do
  match chomping? k with
  | some chomping =>
    let k := k.next
    match ← indentation? k with
    | some n => return (⟨chomping, some n⟩, k.next)
    | none => return (⟨chomping, none⟩, k)
  | none =>
    match ← indentation? k with
    | some n =>
      let k := k.next
      match chomping? k with
      | some chomping => return (⟨chomping, some n⟩, k.next)
      | none => return (⟨.clip, some n⟩, k)
    | none => return (⟨.clip, none⟩, k)

end BlockHeader

/-- Past the rest of a line that may hold a comment only, and its line end. -/
def lineEnd (k : Cursor) : Outcome Cursor :=
  let k := k.skipComment
  match k.peek with
  | none => .ok k
  | some c => if isBreak c then .ok k.next else .error .document

/-- The empty lines at the beginning of a block scalar, and the greatest column that they and the
first line are indented to. -/
def blockLead : Nat → Nat → Cursor → List Char × Nat × Cursor
  | 0, widest, k => ([], widest, k)
  | n + 1, widest, k =>
    match k.peek with
    | some c =>
      if c == ' ' then blockLead n (max widest k.next.column) k.next
      else if isBreak c then
        let (more, result) := blockLead n widest k.next
        (breakText c :: more, result)
      else ([], widest, k)
    | none => ([], widest, k)

/-- Past spaces, up to a column. -/
def skipIndent (indent : Nat) : Nat → Cursor → Cursor
  | 0, k => k
  | n + 1, k => if k.column < indent && k.at? ' ' then skipIndent indent n k.next else k

/-- Empty lines in a block scalar, and the indentation of the line after them. -/
def blockBreaks (indent : Nat) : Nat → Cursor → List Char × Cursor
  | 0, k => ([], k)
  | n + 1, k =>
    let k := skipIndent indent indent k
    match k.peek with
    | some c =>
      if isBreak c then
        let (more, k') := blockBreaks indent n k.next
        (breakText c :: more, k')
      else ([], k)
    | none => ([], k)

/-- Lines that are not to be joined to others: they begin with a blank. -/
def opensWide (k : Cursor) : Bool := k.sees fun c => c == ' ' || c == '\t'

/-- The lines of a block scalar, each after the empty lines before it, joined; then the last line
end and the empty lines after it. -/
def blockLines (folded : Bool) (indent : Nat) :
    Nat → List Char → Cursor → List Char × List Char × List Char × Cursor
  | 0, breaks, k => ([], [], breaks, k)
  | n + 1, breaks, k =>
    if k.column = indent && k.peek.isSome then
      let (line, k') := k.span (!isBreak ·)
      let (ending, k') := match k'.peek with
        | some c => ([breakText c], k'.next)
        | none => ([], k')
      let (breaks', k') := blockBreaks indent (k'.rest.length + 1) k'
      if k'.column = indent && k'.peek.isSome then
        let joint :=
          if folded && ending == ['\n'] && !opensWide k && !opensWide k' then
            if breaks'.isEmpty then [' '] else []
          else ending
        let (more, last) := blockLines folded indent n breaks' k'
        (breaks ++ line ++ joint ++ more, last)
      else (breaks ++ line, ending, breaks', k')
    else ([], [], breaks, k)

/-- A block scalar, from its indicator; `indent` is the least indentation of its lines. -/
def block (folded : Bool) (indent : Nat) (k : Cursor) : Outcome (List Char × Cursor) := do
  let (header, k) ← BlockHeader.read k.next
  if !(k.endsOr isGap) then throw .document
  let k ← lineEnd k
  let size := k.rest.length + 1
  let (indent, breaks, k) := match header.indentation with
    | some n =>
      let indent := indent + n - 1
      (indent, blockBreaks indent size k)
    | none =>
      let (breaks, widest, k) := blockLead size 0 k
      (max indent widest, breaks, k)
  let (body, ending, breaks, k) := blockLines folded indent size breaks k
  let tail := match header.chomping with
    | .strip => []
    | .clip => ending
    | .keep => ending ++ breaks
  return (body ++ tail, k)

end BoundSql.Yaml
