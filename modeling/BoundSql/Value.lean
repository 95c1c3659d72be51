import BoundSql.Calendar
import BoundSql.Number.Decimal

/-!
# Values

A value is what may be bound to a parameter, stand in a result row or be read from a document.  Maps
keep the order in which their keys were first set; two keys are the same if they are equal as
values, numbers being compared by what they denote whatever their kind (`Value.eq`).

* `Mapping.get?`, `Mapping.set`, `Mapping.erase` are the operations on the entries of a map;
* `Value.unhashable?` tells which values cannot be keys.
-/

namespace BoundSql

/-- A dynamically typed value. -/
inductive Value where
  | null
  | bool (b : Bool)
  | int (n : Int)
  | float (x : Binary64)
  | decimal (d : Decimal)
  | text (s : String)
  | bytes (bs : List UInt8)
  | uuid (s : String)
  | date (d : Date)
  | moment (m : Moment)
  | list (xs : List Value)
  | tuple (xs : List Value)
  | set (xs : List Value)
  | map (kvs : List (Value × Value))
  deriving Repr, Inhabited

/-- The entries of a map, in the order in which their keys were first set. -/
abbrev Mapping := List (Value × Value)

namespace Value

/-- The name of a value's kind. -/
def kind : Value → String
  | null => "NoneType"
  | bool _ => "bool"
  | int _ => "int"
  | float _ => "float"
  | decimal _ => "decimal.Decimal"
  | text _ => "str"
  | bytes _ => "bytes"
  | uuid _ => "UUID"
  | date _ => "datetime.date"
  | moment _ => "datetime.datetime"
  | list _ => "list"
  | tuple _ => "tuple"
  | set _ => "set"
  | map _ => "dict"

/-- The value is present: not null, not false, not zero and not empty. -/
def truthy : Value → Bool
  | null => false
  | bool b => b
  | int n => n != 0
  | float x => !x.isZero
  | decimal d => !d.isZero
  | text s => !s.isEmpty
  | bytes bs => !bs.isEmpty
  | uuid _ | date _ | moment _ => true
  | list xs | tuple xs | set xs => !xs.isEmpty
  | map kvs => !kvs.isEmpty

/-- The number that a value denotes, as a signed quotient. -/
def quotient? : Value → Option (Int × Nat)
  | bool b => some (if b then 1 else 0, 1)
  | int n => some (n, 1)
  | float x => x.quotient?
  | decimal d => d.quotient?
  | _ => none

/-- The sign of a value that denotes an infinity: negative or not. -/
def infinity? : Value → Option Bool
  | float (.infinite negative) | decimal (.infinite negative) => some negative
  | _ => none

/-- Equality of values that have no parts. -/
def atomEq : Value → Value → Bool
  | null, null => true
  | text s, text t => s == t
  | bytes bs, bytes cs => bs == cs
  | uuid s, uuid t => s == t
  | date d, date e => d == e
  | moment m, moment m' => m.same m'
  | v, w =>
    match v.quotient?, w.quotient? with
    | some (n, d), some (n', d') => n * d' == n' * d
    | _, _ => v.infinity?.isSome && v.infinity? == w.infinity?

mutual

/-- Equality of values: numbers by what they denote, sequences of one kind part by part, maps and
sets without regard to order. -/
def eq : Value → Value → Bool
  | list xs, list ys => eqAll xs ys
  | tuple xs, tuple ys => eqAll xs ys
  | set xs, set ys => xs.length == ys.length && eachIn xs ys
  | map m, map m' => m.length == m'.length && eachEntryIn m m'
  | v, w => atomEq v w
termination_by structural v => v

/-- Two lists of values have the same length and equal parts. -/
def eqAll : List Value → List Value → Bool
  | [], [] => true
  | x :: xs, y :: ys => x.eq y && eqAll xs ys
  | _, _ => false
termination_by structural xs => xs

/-- Every value of the first list is equal to one of the second. -/
def eachIn : List Value → List Value → Bool
  | [], _ => true
  | x :: xs, ys => (ys.any fun y => x.eq y) && eachIn xs ys
termination_by structural xs => xs

/-- Every entry of the first map is equal to one of the second. -/
def eachEntryIn : List (Value × Value) → List (Value × Value) → Bool
  | [], _ => true
  | (k, v) :: r, m => (m.any fun e => k.eq e.1 && v.eq e.2) && eachEntryIn r m
termination_by structural r => r

end

mutual

/-- The kind of the part that keeps a value from being a key, if there is one. -/
def unhashable? : Value → Option String
  | list _ => some "list"
  | map _ => some "dict"
  | set _ => some "set"
  | tuple xs => unhashableIn? xs
  | _ => none
termination_by structural v => v

/-- The kind of the first such part among several values. -/
def unhashableIn? : List Value → Option String
  | [] => none
  | x :: xs => (unhashable? x).orElse fun _ => unhashableIn? xs
termination_by structural xs => xs

end

end Value

namespace Mapping

/-- The value at a key. -/
def get? (m : Mapping) (k : Value) : Option Value := (m.find? fun e => e.1.eq k).map (·.2)

/-- A key is present. -/
def has (m : Mapping) (k : Value) : Bool := m.any fun e => e.1.eq k

/-- The map with a value at a key.  A key that is present keeps its first form and its place. -/
def set (m : Mapping) (k v : Value) : Mapping :=
  if m.has k then m.map fun e => if e.1.eq k then (e.1, v) else e else m ++ [(k, v)]

/-- The map without a key. -/
def erase (m : Mapping) (k : Value) : Mapping := m.filter fun e => !(e.1.eq k)

/-- The map that results from setting the given entries one after another. -/
def ofEntries (kvs : List (Value × Value)) : Mapping := kvs.foldl (fun m e => m.set e.1 e.2) []

/-- The first map with the entries of the second set over it. -/
def update (m m' : Mapping) : Mapping := m'.foldl (fun acc e => acc.set e.1 e.2) m

/-- The value at a text key. -/
def field? (m : Mapping) (k : String) : Option Value := m.get? (.text k)

end Mapping

end BoundSql
