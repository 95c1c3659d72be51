import BoundSql.Text.Lower
import BoundSql.Value.Access
import BoundSql.Value.Numeral
import BoundSql.Yaml.Binary
import BoundSql.Yaml.Node

/-!
# What a document means

The value of a node (`Node.meaning`).  Collections are filled after everything beside them has been
begun, so of several faults the one nearest to the root is reported, and of those the first.

A mapping's entries are set in order; those of mappings that are merged into it come before its own.
-/

namespace BoundSql.Yaml

/-! ### Scalars -/

/-- The spellings of truth values, in lower case. -/
def truthValues : List (String × Bool) :=
  [("yes", true), ("no", false), ("true", true), ("false", false), ("on", true), ("off", false)]

/-- A text without underscores. -/
def withoutGaps (s : String) : List Char := s.toList.filter (· != '_')

/-- A truth value. -/
def boolMeaning (s : String) : Outcome Value :=
  match truthValues.lookup (Text.lower s) with
  | some b => .ok (.bool b)
  | none => .error (.missingKey (.text (Text.lower s)))

/-- The number that digits in base 60 denote, the first being the most significant. -/
def sixtyInt (ns : List Int) : Int := ns.foldl (fun n d => 60 * n + d) 0

/-- The digits of an integer after its sign. -/
def intBody (cs : List Char) : Outcome Int :=
  let s := String.ofList cs
  match cs with
  | ['0'] => .ok 0
  | '0' :: 'b' :: r => Numeral.integer 2 (String.ofList r)
  | '0' :: 'x' :: r => Numeral.integer 16 (String.ofList r)
  | '0' :: _ => Numeral.integer 8 s
  | [] => .error .textIndex
  | _ =>
    if cs.contains ':' then do
      let ns ← (colonParts cs).mapM fun p => Numeral.integer 10 (String.ofList p)
      return sixtyInt ns
    else Numeral.integer 10 s

/-- An integer. -/
def intMeaning (s : String) : Outcome Value :=
  match withoutGaps s with
  | [] => .error .textIndex
  | cs => do
    let (negative, body) := Numeral.splitSign cs
    let n ← intBody body
    return .int (if negative then -n else n)

/-- The sum of numbers times the powers of 60, the least significant first. -/
def sixtySum : Nat → Binary64 → List Binary64 → Outcome Binary64
  | _, sum, [] => .ok sum
  | base, sum, x :: r =>
    match Binary64.ofInt base with
    | .finite s m e => sixtySum (base * 60) (sum.add (x.mul (.finite s m e))) r
    | _ => .error .floatOverflow

/-- The digits of a number with a fraction after its sign. -/
def floatBody (cs : List Char) : Outcome Binary64 :=
  let s := String.ofList cs
  if s == ".inf" then .ok (.infinite false)
  else if s == ".nan" then .ok .nan
  else if cs.contains ':' then do
    let xs ← (colonParts cs).mapM fun p => Numeral.real (String.ofList p)
    sixtySum 1 (.finite false 0 (-1074)) xs.reverse
  else Numeral.real s

/-- A number with a fraction. -/
def floatMeaning (s : String) : Outcome Value :=
  match Text.lowerFrom none (withoutGaps s) with
  | [] => .error .textIndex
  | cs => do
    let (negative, body) := Numeral.splitSign cs
    let x ← floatBody body
    return .float (if negative then x.neg else x)

/-- The first six digits of a fraction of a second, as microseconds. -/
def microseconds (fraction : List Char) : Nat :=
  let ds := fraction.take 6
  Text.numeralValue (ds ++ List.replicate (6 - ds.length) '0')

namespace Zone

/-- Seconds east of universal time; a whole day or more is refused. -/
def seconds : Zone → Except CalendarFault Int
  | .universal => .ok 0
  | .offset west hours minutes =>
    let n : Int := hours * 3600 + minutes * 60
    let n := if west then -n else n
    if n.natAbs < 86400 then .ok n else .error (.offset n)

end Zone

/-- The day or the moment with these numbers. -/
def StampForm.meaning (stamp : StampForm) : Except CalendarFault Value := do
  match stamp.time with
  | none => return .date (← Date.of? stamp.year stamp.month stamp.day)
  | some t =>
    let offset ← t.zone.mapM Zone.seconds
    let micro := microseconds t.fraction
    return .moment
      (← Moment.of? stamp.year stamp.month stamp.day t.hour t.minute t.second micro offset)

/-- A day or a moment. -/
def timeMeaning (s : String) : Outcome Value :=
  match StampForm.read? (withoutLastBreak s.toList) with
  | some stamp => stamp.meaning.mapError .calendar
  | none => .error (.misuse (.member "NoneType" "groupdict"))

/-- Bytes. -/
def binaryMeaning (s : String) : Outcome Value :=
  match binary? s with
  | some bs => .ok (.bytes bs)
  | none => .error .document

namespace Tag

/-- The tags of scalars. -/
def isAtomic : Tag → Bool
  | null | bool | int | float | time | text | binary => true
  | _ => false

/-- The value of a scalar's text. -/
def meaning (tag : Tag) (s : String) : Outcome Value :=
  match tag with
  | null => .ok .null
  | bool => boolMeaning s
  | int => intMeaning s
  | float => floatMeaning s
  | time => timeMeaning s
  | text => .ok (.text s)
  | binary => binaryMeaning s
  | _ => .error .document

end Tag

/-! ### Nodes -/

/-- A result, or a fault with the number of collections around it. -/
abbrev Located (α : Type) := Except (Nat × Fault) α

namespace Located

/-- All results, or the fault nearest to the root; of those the first. -/
def all {α : Type} : List (Located α) → Located (List α)
  | [] => .ok []
  | .ok x :: r => (all r).map (x :: ·)
  | .error e :: r =>
    match all r with
    | .ok _ => .error e
    | .error e' => .error (if e'.1 < e.1 then e' else e)

end Located

namespace Node

/-- What a node is marked as. -/
def tag : Node → Tag
  | .scalar t _ | .sequence t _ | .mapping t _ => t
  | .loop => .unknown

mutual

/-- The text of a scalar, or of the value at a mapping's equals sign. -/
def text? : Node → Option String
  | .scalar _ s => some s
  | .mapping _ entries => textIn? entries
  | _ => none
termination_by structural n => n

/-- The text of the value at the first equals sign. -/
def textIn? : List (Node × Node) → Option String
  | [] => none
  | (k, v) :: r => if k.tag == .value then v.text? else textIn? r
termination_by structural r => r

end

/-- The value of a node whose tag, perhaps a corrected one, is that of a scalar. -/
def atom (tag : Tag) (node : Node) : Outcome Value :=
  match node, node.text? with
  | .mapping .., some _ =>
    if tag == .time then .error (.misuse (.search "list"))
    else tag.meaning (node.text?.getD "")
  | _, some s => tag.meaning s
  | _, none => .error .document

/-- The value of a key.  An equals sign is the text of one; a collection can be no key. -/
def keyMeaning (node : Node) : Outcome Value :=
  let tag := if node.tag == .value then .text else node.tag
  if tag.isAtomic then atom tag node else .error .document

/-- An entry of a mapping with its value. -/
abbrev Entry := Located (Value × Value)

/-- A mapping from the entries that are merged into it and its own. -/
def filled (level : Nat) : Outcome (List Entry × List Entry) → Located Mapping
  | .error f => .error (level, f)
  | .ok (rest, own) => (Located.all (rest ++ own)).map Mapping.ofEntries

mutual

/-- The value of a node with so many collections around it. -/
def meaning (level : Nat) : Node → Located Value
  | .loop => .ok .null
  | .scalar tag s =>
    if tag.isAtomic then (atom tag (.scalar tag s)).mapError (level, ·)
    else if tag == .merge || tag == .value || tag == .unknown then .error (level, .document)
    else .error (level + 1, .document)
  | .sequence tag items =>
    match tag with
    | .seq => (Located.all (meanings (level + 1) items)).map .list
    | .orderedMap | .pairs => (Located.all (pairs (level + 1) items)).map .list
    | .map | .set => .error (level + 1, .document)
    | _ => .error (level, .document)
  | .mapping tag es =>
    match tag with
    | .map => (filled (level + 1) (entries (level + 1) es)).map .map
    | .set => (filled (level + 1) (entries (level + 1) es)).map fun m => .set (m.map (·.1))
    | .seq | .orderedMap | .pairs => .error (level + 1, .document)
    | _ => (atom tag (.mapping tag es)).mapError (level, ·)
termination_by structural n => n

/-- The values of several nodes. -/
def meanings (level : Nat) : List Node → List (Located Value)
  | [] => []
  | n :: r => meaning level n :: meanings level r
termination_by structural ns => ns

/-- Mappings of one entry each, as pairs. -/
def pairs (level : Nat) : List Node → List (Located Value)
  | [] => []
  | .mapping _ [(k, v)] :: r =>
    (do return .tuple [← meaning level k, ← meaning level v]) :: pairs level r
  | _ :: r => .error (level, .document) :: pairs level r
termination_by structural ns => ns

/-- The entries that are merged into a mapping, and its own. -/
def entries (level : Nat) : List (Node × Node) → Outcome (List Entry × List Entry)
  | [] => .ok ([], [])
  | (k, v) :: r =>
    if k.tag == .merge then do
      let first ← merged level v
      let (rest, own) ← entries level r
      return (first ++ rest, own)
    else do
      let (rest, own) ← entries level r
      let entry : Entry := do
        let key ← (keyMeaning k).mapError (level, ·)
        return (key, ← meaning level v)
      return (rest, entry :: own)
termination_by structural r => r

/-- The entries of what is merged: of a mapping, or of several, the first of which wins. -/
def merged (level : Nat) : Node → Outcome (List Entry)
  | .mapping _ es => do
    let (rest, own) ← entries level es
    return rest ++ own
  | .sequence _ items => mergedAll level items
  | .loop => .ok []
  | .scalar .. => .error .document
termination_by structural n => n

/-- The entries of several mappings, those of the later first. -/
def mergedAll (level : Nat) : List Node → Outcome (List Entry)
  | [] => .ok []
  | .mapping _ es :: r => do
    let (rest, own) ← entries level es
    let later ← mergedAll level r
    return later ++ rest ++ own
  | .loop :: r => mergedAll level r
  | _ :: _ => .error .document
termination_by structural ns => ns

end

end Node

end BoundSql.Yaml
