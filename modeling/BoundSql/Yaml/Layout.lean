import BoundSql.Yaml.Token

/-!
# Layout

How the text of a document becomes its tokens (`tokens`).  Outside of brackets a column deeper than
that of the collection around it begins a collection, and a lesser one ends it.  A key need not be
marked: when a colon is met, what stood in its line just before becomes a key, so the place of
whatever could be a key is remembered (`KeyPlace`), once for every open bracket.
-/

namespace BoundSql.Yaml

/-- The place of what may turn out to be a key. -/
structure KeyPlace where
  /-- The number of tokens before it. -/
  number : Nat
  /-- It must be a key, for it stands at the column of a mapping. -/
  required : Bool
  index : Nat
  line : Nat
  column : Nat
  deriving Repr

namespace KeyPlace

/-- The greatest length of a key that is not marked. -/
def reach : Nat := 1024

/-- A colon at the given place is too far off to make this a key. -/
def isStale (key : KeyPlace) (k : Cursor) : Bool :=
  key.line != k.line || key.index + reach < k.index

end KeyPlace

/-- The tokens found so far, and what decides about the next. -/
structure Layout where
  cursor : Cursor
  /-- The tokens, the latest first. -/
  found : List Token
  count : Nat
  /-- The columns of the open collections written by indentation, the innermost first. -/
  indents : List Nat
  /-- What may be a key within the innermost bracket. -/
  candidate : Option KeyPlace
  /-- What may be a key outside of each open bracket, the innermost first. -/
  outer : List (Option KeyPlace)
  /-- A key may begin here. -/
  keyAllowed : Bool
  deriving Repr

namespace Layout

/-- Before the first token. -/
def start (cs : List Char) : Layout := ⟨Cursor.start cs, [], 0, [], none, [], true⟩

/-- A bracket is open. -/
def inBrackets (l : Layout) : Bool := !l.outer.isEmpty

/-- The least column of what belongs to the innermost collection. -/
def inner (l : Layout) : Nat :=
  match l.indents with
  | [] => 0
  | i :: _ => i + 1

/-- The layout with one more token, and the cursor after it. -/
def push (t : Token) (k : Cursor) (l : Layout) : Layout :=
  ⟨k, t :: l.found, l.count + 1, l.indents, l.candidate, l.outer, l.keyAllowed⟩

/-- The layout with tokens put in behind the first `n`. -/
def insert (n : Nat) (ts : List Token) (l : Layout) : Layout :=
  let later := l.count - n
  { l with
    found := l.found.take later ++ ts.reverse ++ l.found.drop later
    count := l.count + ts.length }

/-- Whether a key may begin next. -/
def allowKey (b : Bool) (l : Layout) : Layout := { l with keyAllowed := b }

/-! ### Indentation -/

/-- Opens a collection at a column deeper than the innermost; its token goes behind the first `n`. -/
def indentTo (column n : Nat) (t : Token) (l : Layout) : Layout :=
  if l.inner ≤ column then { l.insert n [t] with indents := column :: l.indents } else l

/-- The number of collections that a column ends: those that are deeper. -/
def dedents (column : Nat) (indents : List Nat) : Nat := (indents.takeWhile (column < ·)).length

/-- Ends the innermost `n` collections. -/
def close (n : Nat) (l : Layout) : Layout :=
  { l.insert l.count (List.replicate n .blockEnd) with indents := l.indents.drop n }

/-- Ends the collections that the cursor's column ends; within brackets there are none. -/
def unindent (l : Layout) : Layout :=
  if l.inBrackets then l else l.close (dedents l.cursor.column l.indents)

/-- Ends all collections written by indentation. -/
def unindentAll (l : Layout) : Layout := if l.inBrackets then l else l.close l.indents.length

/-! ### Keys without a mark -/

/-- A candidate that is too far off; one that had to be a key is a fault. -/
def expire (k : Cursor) : Option KeyPlace → Outcome (Option KeyPlace)
  | none => .ok none
  | some key =>
    if key.isStale k then if key.required then .error .document else .ok none
    else .ok (some key)

/-- Forgets the candidates that are too far off. -/
def expireAll (l : Layout) : Outcome Layout := do
  let candidate ← expire l.cursor l.candidate
  let outer ← l.outer.mapM (expire l.cursor)
  return { l with candidate, outer }

/-- Forgets the candidate; one that had to be a key is a fault. -/
def dismiss (l : Layout) : Outcome Layout :=
  match l.candidate with
  | some key => if key.required then .error .document else .ok { l with candidate := none }
  | none => .ok l

/-- Remembers the cursor as the place of a candidate, if a key may begin there. -/
def remember (l : Layout) : Outcome Layout :=
  if l.keyAllowed then do
    let required := !l.inBrackets && l.indents.head? == some l.cursor.column
    let l ← l.dismiss
    let k := l.cursor
    return { l with candidate := some ⟨l.count, required, k.index, k.line, k.column⟩ }
  else .ok l

/-! ### Tokens -/

/-- To the next token: past spaces, comments and line ends, after which a key may begin unless a
bracket is open. -/
def skipBlank : Nat → Layout → Layout
  | 0, l => l
  | n + 1, l =>
    let k := l.cursor.skipComment
    if k.sees isBreak then
      skipBlank n { l with cursor := k.next, keyAllowed := l.keyAllowed || !l.inBrackets }
    else { l with cursor := k }

/-- A token that takes no part in a key, and after which a key may begin or not. -/
def mark (t : Token) (width : Nat) (keyNext : Bool) (l : Layout) : Outcome Layout := do
  let l ← l.dismiss
  return (l.push t (l.cursor.drop width)).allowKey keyNext

/-- A token with which a key may begin, and the cursor after it. -/
def atom (read : Cursor → Outcome (Token × Cursor)) (l : Layout) : Outcome Layout := do
  let l ← l.remember
  let (t, k) ← read l.cursor
  return (l.push t k).allowKey false

/-- The border of a document. -/
def border (t : Token) (l : Layout) : Outcome Layout := l.unindentAll.mark t 3 false

/-- A directive. -/
def directive (l : Layout) : Outcome Layout := do
  let l ← l.unindentAll.dismiss
  let (t, k) ← Token.ofDirective l.cursor
  return (l.push t k).allowKey false

/-- An opening bracket. -/
def opening (t : Token) (l : Layout) : Outcome Layout := do
  let l ← l.remember
  let l := (l.push t l.cursor.next).allowKey true
  return { l with candidate := none, outer := l.candidate :: l.outer }

/-- A closing bracket. -/
def closing (t : Token) (l : Layout) : Outcome Layout := do
  let l ← l.dismiss
  match l.outer with
  | [] => throw .document
  | candidate :: outer =>
    return { (l.push t l.cursor.next).allowKey false with candidate, outer }

/-- The hyphen of an entry. -/
def entry (l : Layout) : Outcome Layout :=
  if l.inBrackets then l.mark .entry 1 true
  else if l.keyAllowed then (l.indentTo l.cursor.column l.count .blockSequence).mark .entry 1 true
  else .error .document

/-- The mark of a key, or of a value whose key is marked or missing. -/
def explicit (t : Token) (l : Layout) : Outcome Layout :=
  if l.inBrackets then l.mark t 1 false
  else if l.keyAllowed then (l.indentTo l.cursor.column l.count .blockMapping).mark t 1 true
  else .error .document

/-- The colon of a value.  A candidate becomes its key. -/
def value (l : Layout) : Outcome Layout :=
  match l.candidate with
  | some key =>
    let l := { l.insert key.number [.key] with candidate := none }
    let l := if l.inBrackets then l else l.indentTo key.column key.number .blockMapping
    .ok ((l.push .value l.cursor.next).allowKey false)
  | none => l.explicit .value

/-- A plain scalar.  Line ends after it allow a key to begin. -/
def plainScalar (l : Layout) : Outcome Layout := do
  let l ← l.remember
  let (cs, fresh, k) := plain l.inBrackets l.inner l.cursor
  return (l.push (.scalar true (String.ofList cs)) k).allowKey fresh

/-- A quoted scalar. -/
def quotedScalar (quote : Char) : Layout → Outcome Layout :=
  atom fun k => do
    let (cs, k) ← quoted quote k
    return (.scalar false (String.ofList cs), k)

/-- A block scalar. -/
def blockScalar (folded : Bool) (l : Layout) : Outcome Layout := do
  let l ← l.dismiss
  let (cs, k) ← block folded (max 1 l.inner) l.cursor
  return (l.push (.scalar false (String.ofList cs)) k).allowKey true

/-- A plain scalar may begin with this character. -/
def opensPlain (inBrackets : Bool) (c : Char) (next : Option Char) : Bool :=
  if isBlank c then false
  else if "-?:,[]\x7b\x7d#&*!|>'\"%@\x60".toList.contains c then
    next.any fun d => !isBlank d && (c == '-' || (!inBrackets && (c == '?' || c == ':')))
  else true

/-- The token that begins at the cursor with the character `c`. -/
def token (c : Char) (l : Layout) : Outcome Layout :=
  let k := l.cursor
  let apart := k.next.endsOr isBlank
  if c == '%' && k.column == 0 then l.directive
  else if k.column == 0 && k.atBorder then
    l.border (if c == '-' then .documentStart else .documentEnd)
  else if c == '[' then l.opening .openSequence
  else if c == '\x7b' then l.opening .openMapping
  else if c == ']' then l.closing .closeSequence
  else if c == '\x7d' then l.closing .closeMapping
  else if c == ',' then l.mark .comma 1 true
  else if c == '-' && apart then l.entry
  else if c == '?' && (l.inBrackets || apart) then l.explicit .key
  else if c == ':' && (l.inBrackets || apart) then l.value
  else if c == '*' then
    l.atom fun k => do let (s, k) ← Token.name k; return (.reference s, k)
  else if c == '&' then
    l.atom fun k => do let (s, k) ← Token.name k; return (.anchor s, k)
  else if c == '!' then l.atom Token.ofTag
  else if c == '|' && !l.inBrackets then l.blockScalar false
  else if c == '>' && !l.inBrackets then l.blockScalar true
  else if c == '\'' || c == '"' then l.quotedScalar c
  else if opensPlain l.inBrackets c k.next.peek then l.plainScalar
  else .error .document

/-- The end of the text; no bracket may be open. -/
def finish (l : Layout) : Outcome (List Token) := do
  let l ← l.unindentAll.dismiss
  if l.inBrackets then throw .document else return l.found.reverse

/-- The tokens from here to the end of the text. -/
def scan : Nat → Layout → Outcome (List Token)
  | 0, _ => .error .document
  | n + 1, l => do
    let l ← (skipBlank l.cursor.rest.length l).expireAll
    let l := l.unindent
    match l.cursor.peek with
    | none => l.finish
    | some c => scan n (← l.token c)

end Layout

/-- The tokens of a text. -/
def tokens (cs : List Char) : Outcome (List Token) :=
  let cs := match cs with
    | '\uFEFF' :: r => r
    | r => r
  (Layout.start cs).scan (cs.length + 1)

end BoundSql.Yaml
