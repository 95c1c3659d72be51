import BoundSql.Yaml.Form
import BoundSql.Yaml.Layout

/-!
# Nodes

A document's contents as a tree of nodes, and how it is made of the tokens (`Node.ofTokens`).

An alias stands for the node with its anchor, which must have begun before it; inside of that very
node the alias is a `loop`.  A text is to hold one document at most.
-/

namespace BoundSql.Yaml

/-- A node of a document. -/
inductive Node where
  | scalar (tag : Tag) (text : String)
  | sequence (tag : Tag) (items : List Node)
  | mapping (tag : Tag) (entries : List (Node × Node))
  /-- An alias of a node that it is part of. -/
  | loop
  deriving Repr, Inhabited

namespace Node

/-- What stands where nothing is written. -/
def absent : Node := .scalar .null ""

/-- What tag handles stand for. -/
abbrev Handles := List (String × String)

/-- The tokens left, and the nodes that have an anchor. -/
structure Reading where
  rest : List Token
  anchors : List (String × Node)

/-- A step of reading. -/
abbrev Step := StateT Reading Outcome

namespace Step

/-- The next token. -/
def peek : Step (Option Token) := do return (← get).rest.head?

/-- Goes past the next token. -/
def skip : Step Unit := modify fun r => { r with rest := r.rest.tail }

/-- Goes past the next token if it is the given one. -/
def accept (t : Token) : Step Bool := do
  if (← peek) == some t then
    skip
    return true
  else return false

/-- Goes past the next token, which must be the given one. -/
def expect (t : Token) : Step Unit := do
  if !(← accept t) then throw .document

/-- The next token is one of those given. -/
def sees (ts : List Token) : Step Bool := do return (← peek).any fun t => ts.contains t

/-- The node with an anchor. -/
def anchored (name : String) : Step Node := do
  match (← get).anchors.lookup name with
  | some node => return node
  | none => throw .document

/-- Gives an anchor to the node that begins; no two nodes have the same. -/
def beginAnchor (name : String) : Step Unit := do
  if ((← get).anchors.lookup name).isSome then throw .document
  modify fun r => { r with anchors := (name, .loop) :: r.anchors }

/-- Gives an anchor to the node that has ended. -/
def endAnchor (name : String) (node : Node) : Step Unit :=
  modify fun r => { r with anchors := (name, node) :: r.anchors }

/-- An anchor, if one follows. -/
def anchor? : Step (Option String) := do
  match ← peek with
  | some (.anchor name) =>
    skip
    return some name
  | _ => return none

/-- A tag written in full, if a tag follows. -/
def tag? (handles : Handles) : Step (Option String) := do
  match ← peek with
  | some (.tag none suffix) =>
    skip
    return some suffix
  | some (.tag (some handle) suffix) =>
    skip
    match handles.lookup handle with
    | some uri => return some (uri ++ suffix)
    | none => throw .document
  | _ => return none

/-- An anchor and a tag, in either order. -/
def properties (handles : Handles) : Step (Option String × Option String) := do
  match ← anchor? with
  | some name => return (some name, ← tag? handles)
  | none =>
    match ← tag? handles with
    | some tag => return (← anchor?, some tag)
    | none => return (none, none)

end Step

/-- The mark of a collection with a tag, or without one. -/
def collectionTag (untagged : Tag) (tag : Option String) : Tag :=
  match tag with
  | none => untagged
  | some s => if s == "!" then untagged else .ofUri s

/-- The mark of a scalar with a tag, or without one. -/
def scalarTag (isPlain : Bool) (text : String) (tag : Option String) : Tag :=
  match tag with
  | none => if isPlain then .ofPlain text else .text
  | some s => if s == "!" then .ofPlain text else .ofUri s

/-- Where a node stands, which decides how it may be written. -/
inductive Context where
  /-- Inside of brackets. -/
  | brackets
  /-- An entry or a whole document. -/
  | block
  /-- A key or a value: the entries of a sequence need no deeper column. -/
  | part
  deriving DecidableEq, Repr

open Step

mutual

/-- A node. -/
def read (handles : Handles) (context : Context) : Nat → Step Node
  | 0 => throw .document
  | n + 1 => do
    if let some (.reference name) ← peek then
      skip
      return ← anchored name
    let (anchor, tag) ← properties handles
    if let some name := anchor then beginAnchor name
    let node ← match ← peek with
      | some (.scalar isPlain text) => do
        skip
        pure (.scalar (scalarTag isPlain text tag) text)
      | some .openSequence => do
        skip
        pure (.sequence (collectionTag .seq tag) (← bracketItems handles true n))
      | some .openMapping => do
        skip
        pure (.mapping (collectionTag .map tag) (← bracketEntries handles true n))
      | next => do
        if context == .part && next == some .entry then
          pure (.sequence (collectionTag .seq tag) (← looseItems handles n))
        else if context != .brackets && next == some .blockSequence then
          skip
          pure (.sequence (collectionTag .seq tag) (← blockItems handles n))
        else if context != .brackets && next == some .blockMapping then
          skip
          pure (.mapping (collectionTag .map tag) (← blockEntries handles n))
        else if anchor.isSome || tag.isSome then
          pure (.scalar (scalarTag true "" tag) "")
        else throw .document
    if let some name := anchor then endAnchor name node
    return node
termination_by structural n => n

/-- A node, or nothing before one of the given tokens. -/
def readUnless (stops : List Token) (handles : Handles) (context : Context) : Nat → Step Node
  | 0 => throw .document
  | n + 1 => do if ← sees stops then return absent else read handles context n
termination_by structural n => n

/-- The entries of a sequence written by indentation. -/
def blockItems (handles : Handles) : Nat → Step (List Node)
  | 0 => throw .document
  | n + 1 => do
    if ← accept .entry then
      let item ← readUnless [.entry, .blockEnd] handles .block n
      return item :: (← blockItems handles n)
    else
      expect .blockEnd
      return []
termination_by structural n => n

/-- The entries of a sequence at the column of the mapping that it is part of. -/
def looseItems (handles : Handles) : Nat → Step (List Node)
  | 0 => throw .document
  | n + 1 => do
    if ← accept .entry then
      let item ← readUnless [.entry, .key, .value, .blockEnd] handles .block n
      return item :: (← looseItems handles n)
    else return []
termination_by structural n => n

/-- The value after a key, if there is one. -/
def readValue (stops : List Token) (handles : Handles) (context : Context) : Nat → Step Node
  | 0 => throw .document
  | n + 1 => do
    if ← accept .value then readUnless stops handles context n else return absent
termination_by structural n => n

/-- The entries of a mapping written by indentation. -/
def blockEntries (handles : Handles) : Nat → Step (List (Node × Node))
  | 0 => throw .document
  | n + 1 => do
    if ← accept .key then
      let key ← readUnless [.key, .value, .blockEnd] handles .part n
      let value ← readValue [.key, .value, .blockEnd] handles .part n
      return (key, value) :: (← blockEntries handles n)
    else
      expect .blockEnd
      return []
termination_by structural n => n

/-- The entries of a sequence in brackets; one with a key is a mapping of its own. -/
def bracketItems (handles : Handles) (first : Bool) : Nat → Step (List Node)
  | 0 => throw .document
  | n + 1 => do
    if ← accept .closeSequence then return []
    if !first then expect .comma
    if ← accept .key then
      let key ← readUnless [.value, .comma, .closeSequence] handles .brackets n
      let value ← readValue [.comma, .closeSequence] handles .brackets n
      return .mapping .map [(key, value)] :: (← bracketItems handles false n)
    else if ← accept .closeSequence then return []
    else
      let item ← read handles .brackets n
      return item :: (← bracketItems handles false n)
termination_by structural n => n

/-- The entries of a mapping in brackets. -/
def bracketEntries (handles : Handles) (first : Bool) : Nat → Step (List (Node × Node))
  | 0 => throw .document
  | n + 1 => do
    if ← accept .closeMapping then return []
    if !first then expect .comma
    if ← accept .key then
      let key ← readUnless [.value, .comma, .closeMapping] handles .brackets n
      let value ← readValue [.comma, .closeMapping] handles .brackets n
      return (key, value) :: (← bracketEntries handles false n)
    else if ← accept .closeMapping then return []
    else
      let key ← read handles .brackets n
      return (key, absent) :: (← bracketEntries handles false n)
termination_by structural n => n

end

/-! ### Documents -/

/-- The handles that need no directive. -/
def standardHandles : Handles := [("!", "!"), ("!!", Tag.knownSpace)]

/-- The directives before a document: the handles that they declare, over the standard ones, and the
tokens after them. -/
def directives (hasVersion : Bool) (handles : Handles) : List Token → Outcome (Handles × List Token)
  | .version major :: r =>
    if hasVersion || major ≠ 1 then .error .document else directives true handles r
  | .shorthand handle uri :: r =>
    if (handles.lookup handle).isSome then .error .document
    else directives hasVersion ((handle, uri) :: handles) r
  | .directive :: r => directives hasVersion handles r
  | ts => .ok (handles ++ standardHandles, ts)

/-- The contents of a document and the tokens after them. -/
def contents (handles : Handles) (ts : List Token) : Outcome (Node × List Token) := do
  let (node, r) ← (read handles .block (3 * ts.length + 3)).run ⟨ts, []⟩
  return (node, r.rest)

/-- The first document of a text and the tokens after it. -/
def document (ts : List Token) : Outcome (Node × List Token) := do
  match ← directives false [] ts with
  | (handles, .documentStart :: r) =>
    match r with
    | [] | .documentEnd :: _ => return (absent, r)
    | _ => contents handles r
  | (handles, r) =>
    if r.length = ts.length then contents handles r else throw .document

/-- The contents of a text of one document; a text without tokens has none. -/
def ofTokens (ts : List Token) : Outcome (Option Node) := do
  if ts.isEmpty then return none
  let (node, r) ← document ts
  if r.all (· == .documentEnd) then return some node else throw .document

end Node

end BoundSql.Yaml
