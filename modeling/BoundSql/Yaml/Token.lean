import BoundSql.Text.Digit
import BoundSql.Yaml.Scalar

/-!
# Tokens

The tokens of a document, and the reading of those that stand for themselves: anchors, tags and
directives.  Collections written by indentation have tokens of their own for where they begin and
end, so that what is made of the tokens need not know about columns.
-/

namespace BoundSql.Yaml

/-- A token of a document. -/
inductive Token where
  /-- The directive that declares the version. -/
  | version (major : Nat)
  /-- The directive that declares what a tag handle stands for. -/
  | shorthand (handle uri : String)
  /-- Any other directive. -/
  | directive
  | documentStart
  | documentEnd
  | blockSequence
  | blockMapping
  | blockEnd
  | openSequence
  | closeSequence
  | openMapping
  | closeMapping
  /-- The hyphen of an entry. -/
  | entry
  | comma
  | key
  | value
  /-- An alias. -/
  | reference (name : String)
  | anchor (name : String)
  /-- A tag: a handle, unless it is written in full, and what follows it. -/
  | tag (handle : Option String) (suffix : String)
  | scalar (isPlain : Bool) (text : String)
  deriving DecidableEq, Repr

namespace Token

/-! ### Anchors -/

/-- The name after the indicator of an anchor or an alias. -/
def name (k : Cursor) : Outcome (String × Cursor) :=
  let (cs, k) := k.next.span isWordChar
  if cs.isEmpty || !(k.endsOr fun c => isBlank c || "?:,]\x7d%@\x60".toList.contains c) then
    .error .document
  else .ok (String.ofList cs, k)

/-! ### Tags -/

/-- The characters of a tag that stand for themselves. -/
def isUriChar (c : Char) : Bool := c.isAlphanum || "-;/?:@&=+$,_.!~*'()[]".toList.contains c

/-- A run of escaped bytes, and the place after it. -/
def uriBytes : Nat → Cursor → Outcome (List UInt8 × Cursor)
  | 0, k => .ok ([], k)
  | n + 1, k =>
    if k.at? '%' then
      match hexNumber? 2 k.next.rest with
      | some b => do
        let (bs, k') ← uriBytes n (k.drop 3)
        return (b.toUInt8 :: bs, k')
      | none => .error .document
    else .ok ([], k)

/-- The characters of a tag; escaped bytes are UTF-8. -/
def uriFrom : Nat → Cursor → Outcome (List Char × Cursor)
  | 0, k => .ok ([], k)
  | n + 1, k =>
    let (cs, k) := k.span isUriChar
    if k.at? '%' then do
      let (bs, k) ← uriBytes k.rest.length k
      match String.fromUTF8? ⟨bs.toArray⟩ with
      | some s =>
        let (more, k) ← uriFrom n k
        return (cs ++ s.toList ++ more, k)
      | none => throw .document
    else .ok (cs, k)

/-- A tag, or the rest of one; it may not be empty. -/
def uri (k : Cursor) : Outcome (String × Cursor) :=
  if k.sees fun c => isUriChar c || c == '%' then do
    let (cs, k) ← uriFrom (k.rest.length + 1) k
    return (String.ofList cs, k)
  else .error .document

/-- A tag handle: an exclamation mark alone, or a word between two of them. -/
def tagHandle (k : Cursor) : Outcome (String × Cursor) :=
  if !(k.at? '!') then .error .document
  else
    let k := k.next
    if k.at? ' ' then .ok ("!", k)
    else
      let (cs, k) := k.span isWordChar
      if k.at? '!' then .ok ("!" ++ String.ofList cs ++ "!", k.next) else .error .document

/-- The part of a tag before its handle ends, if it has a handle with a second exclamation mark. -/
def hasHandle (k : Cursor) : Bool := (k.rest.takeWhile (!isGap ·)).contains '!'

/-- A tag, from its exclamation mark. -/
def ofTag (k : Cursor) : Outcome (Token × Cursor) := do
  let inner := k.next
  let (token, k) ←
    if inner.at? '<' then do
      let (s, k) ← uri inner.next
      if !(k.at? '>') then throw .document
      pure (Token.tag none s, k.next)
    else if inner.endsOr isBlank then pure (Token.tag none "!", inner)
    else if hasHandle inner then do
      let (handle, k) ← tagHandle k
      let (s, k) ← uri k
      pure (Token.tag (some handle) s, k)
    else do
      let (s, k) ← uri inner
      pure (Token.tag (some "!") s, k)
  if k.endsOr isGap then return (token, k) else throw .document

/-! ### Directives -/

/-- A number in a directive. -/
def number (k : Cursor) : Outcome (Nat × Cursor) :=
  let (cs, k) := k.span Char.isDigit
  if cs.isEmpty then .error .document
  else if Text.numeralLimit < cs.length then .error (.longNumeral Text.numeralLimit cs.length)
  else .ok (Text.numeralValue cs, k)

/-- Past spaces. -/
def skipSpaces (k : Cursor) : Cursor := k.skipWhile (· == ' ')

/-- The version after its directive's name. -/
def versionNumber (k : Cursor) : Outcome (Token × Cursor) := do
  let (major, k) ← number (skipSpaces k)
  if !(k.at? '.') then throw .document
  let (_, k) ← number k.next
  if k.endsOr isGap then return (.version major, k) else throw .document

/-- The handle and what it stands for, after the directive's name. -/
def handleMeaning (k : Cursor) : Outcome (Token × Cursor) := do
  let (handle, k) ← tagHandle (skipSpaces k)
  if !(k.at? ' ') then throw .document
  let (s, k) ← uri (skipSpaces k)
  if k.endsOr isGap then return (.shorthand handle s, k) else throw .document

/-- A directive, from its percent sign to the end of its line. -/
def ofDirective (k : Cursor) : Outcome (Token × Cursor) := do
  let (cs, k) := k.next.span isWordChar
  if cs.isEmpty || !(k.endsOr isGap) then throw .document
  let (token, k) ←
    if cs == "YAML".toList then versionNumber k
    else if cs == "TAG".toList then handleMeaning k
    else pure (.directive, k.skipWhile (!isBreak ·))
  return (token, ← lineEnd k)

end Token

end BoundSql.Yaml
