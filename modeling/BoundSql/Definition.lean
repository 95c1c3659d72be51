import BoundSql.Builder

/-!
# Query definitions

A definition describes one query: the table, its aliases, the select list, the conditions on columns
and the order.  It is read from a document (`Definition.ofValue`) and then drives a builder clause by
clause (`Definition.apply`).

* a column is written `table.name`, the last point separating the two, or as a map with the keys
  `table` and `name`;
* a condition compares one column with a value or asks that a value lie between two columns, and is
  left out if its value is null;
* the first malformed part, in the order in which the parts are read, decides the fault.
-/

namespace BoundSql

/-- A condition on columns. -/
inductive Predicate where
  | eq (column : Column) (value : Value)
  | between (first last : Column) (value : Value)
  deriving Repr, Inhabited

namespace Predicate

/-- The columns of a condition, in order. -/
def columns : Predicate → List Column
  | eq c _ => [c]
  | between a b _ => [a, b]

/-- The value that a condition compares with. -/
def value : Predicate → Value
  | eq _ v => v
  | between _ _ v => v

/-- Binds the value of a condition and renders it; null if there is no value. -/
def render : Predicate → Builder.Step Value
  | eq c v => Builder.eq c v
  | between a b v => Builder.between v a b

end Predicate

/-- A query in declarative form. -/
structure Definition where
  table : String
  projection : List Column
  aliases : Mapping
  derived : List Item
  conditions : List Predicate
  sortBy : Option String
  limit : Bool
  deriving Repr, Inhabited

namespace Definition

/-- A definition cannot be accepted. -/
def refuse {α : Type} (d : DefinitionFault) : Outcome α := .error (.definition d)

/-- The parts of a text before and after its last point. -/
def splitLastPoint (cs : List Char) : List Char × List Char :=
  let name := (cs.reverse.takeWhile (· != '.')).reverse
  (cs.take (cs.length - name.length - 1), name)

/-- A column written as text. -/
def columnOfText (s : String) : Outcome Column :=
  let (table, name) := splitLastPoint s.toList
  if table.isEmpty || name.isEmpty then refuse (.columnText (.text s))
  else .ok ⟨.text (String.ofList table), .text (String.ofList name), false⟩

/-- A column written as a map. -/
def columnOfMapping (m : Mapping) : Outcome Column :=
  match m.field? "table", m.field? "name" with
  | none, _ => refuse (.columnKey "table" (.map m))
  | some _, none => refuse (.columnKey "name" (.map m))
  | some table, some name => .ok ⟨table, name, ((m.field? "cast").map Value.truthy).getD false⟩

/-- A column entry of a document. -/
def columnOfValue : Value → Outcome Column
  | .text s => columnOfText s
  | .map m => columnOfMapping m
  | v => refuse (.column v)

/-- An entry that has to be text if it is there. -/
def requireText (m : Mapping) (key : String) : Outcome Unit :=
  match m.field? key with
  | none | some (.text _) => .ok ()
  | some _ => refuse (.derivedText key (.map m))

/-- The name of a derived column, which is text or missing. -/
def derivedName (m : Mapping) : Outcome Value :=
  match m.field? "name" with
  | none | some .null => .ok .null
  | some (.text s) => .ok (.text s)
  | some _ => refuse (.derivedText "name" (.map m))

/-- A derived column written as a map: an expression, or else a subquery. -/
def derivedOfMapping (m : Mapping) : Outcome Item := do
  let columns ← (← Value.membersOr (m.field? "columns")).mapM columnOfValue
  requireText m "expression"
  requireText m "subquery"
  let name ← derivedName m
  match m.field? "expression", m.field? "subquery" with
  | some e, _ => return .expression e columns name
  | none, some q =>
    if ← name.isBlank then refuse .unnamedSubquery else return .subquery q columns name
  | none, none => refuse (.derivedKind (.map m))

/-- A derived column entry of a document. -/
def derivedOfValue : Value → Outcome Item
  | .map m => derivedOfMapping m
  | v => refuse (.derived v)

/-- A condition written as a map: an equality, or else a range. -/
def conditionOfMapping (m : Mapping) : Outcome Predicate :=
  match m.field? "value", m.field? "eq", m.field? "between" with
  | none, _, _ => refuse (.conditionValue (.map m))
  | some v, some c, _ => do return .eq (← columnOfValue c) v
  | some v, none, some (.list [a, b]) => do
    return .between (← columnOfValue a) (← columnOfValue b) v
  | some _, none, some _ => refuse (.bounds (.map m))
  | some _, none, none => refuse (.conditionKind (.map m))

/-- A condition entry of a document. -/
def conditionOfValue : Value → Outcome Predicate
  | .map m => conditionOfMapping m
  | v => refuse (.conditionValue v)

/-- The table of a definition. -/
def tableOf (m : Mapping) : Outcome String :=
  match m.field? "from" with
  | none => refuse .noTable
  | some v =>
    if !v.truthy then refuse .noTable
    else match v with
      | .text s => .ok s
      | v => refuse (.table v)

/-- The aliases of a definition; anything absent stands for none. -/
def aliasesOf (m : Mapping) : Outcome Mapping :=
  match m.field? "aliases" with
  | none => .ok []
  | some v =>
    if !v.truthy then .ok []
    else match v with
      | .map kvs => .ok kvs
      | v => refuse (.aliases v)

/-- The order of a definition. -/
def sortByOf (m : Mapping) : Outcome (Option String) :=
  match m.field? "sort_by" with
  | none | some .null => .ok none
  | some (.text s) => .ok (some s)
  | some v => refuse (.sortBy v)

/-- Whether a definition asks for one row. -/
def limitOf (m : Mapping) : Outcome Bool :=
  match m.field? "limit" with
  | none => .ok false
  | some (.bool b) => .ok b
  | some v => refuse (.limit v)

/-- Reads a definition written as a map. -/
def ofMapping (m : Mapping) : Outcome Definition := do
  let table ← tableOf m
  let aliases ← aliasesOf m
  let sortBy ← sortByOf m
  let limit ← limitOf m
  let projection ← (← Value.membersOr (m.field? "projection")).mapM columnOfValue
  let derived ← (← Value.membersOr (m.field? "derived")).mapM derivedOfValue
  let conditions ← (← Value.membersOr (m.field? "where")).mapM conditionOfValue
  return { table, projection, aliases, derived, conditions, sortBy, limit }

/-- Reads a definition. -/
def ofValue : Value → Outcome Definition
  | .map m => ofMapping m
  | _ => refuse .notMapping

/-- Reads a definition, and words the fault if there is one. -/
def read (v : Value) : Outcome Definition := (ofValue v).mapError Fault.worded

/-- Registers the aliases, then appends every clause in the order of SQL. -/
def apply (d : Definition) : Builder.Step Unit := do
  d.aliases.forM fun e => Builder.setAlias e.1 e.2
  Builder.select (d.projection.map .plain) (.text d.table) d.derived
  let predicates ← d.conditions.mapM Predicate.render
  Builder.where_ (.text (← Builder.and_ [.list predicates]))
  Builder.sortBy ((d.sortBy.map Value.text).getD .null)
  if d.limit then Builder.limit

/-- The query that a definition describes. -/
def build (d : Definition) : Outcome Builder :=
  let (result, b) := d.apply.run.run Builder.empty
  result.map fun _ => b

end Definition

end BoundSql
