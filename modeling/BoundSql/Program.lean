import BoundSql.Definition

/-!
# Programs over a builder

An operation is one call on a builder, as data.  A program is a list of steps; each step may use what
the earlier steps returned, so it is a function from those returns to an operation.  A step that
fails returns nothing, which later steps see as null, and the program goes on with the builder as
the failing step left it.
-/

namespace BoundSql

/-- A call on a builder. -/
inductive Operation where
  | setAlias (table shortName : Value)
  | select (projection : List Item) (table : Value) (derived : List Item)
  | where_ (condition : Value)
  | sortBy (order : Value)
  | limit
  | addParam (value : Value)
  | parentheses (expression : Value)
  | column (column : Column)
  | eq (column : Column) (value : Value)
  | between (value : Value) (first last : Column)
  | and_ (expressions : List Value)
  | orderedParams
  | literal
  /-- Takes the bound values and sets a key in that copy of them. -/
  | setParamsCopy (key value : Value)
  /-- Reads a definition and applies it. -/
  | apply (definition : Value)
  deriving Repr, Inhabited

/-- What a call returns. -/
inductive Return where
  /-- The builder itself. -/
  | builder
  | value (v : Value)
  deriving Repr, Inhabited

namespace Return

/-- What a later step sees of a return. -/
def toValue : Return → Value
  | builder => .null
  | value v => v

end Return

namespace Operation

open Builder (check)

/-- A step after which the builder itself is returned. -/
def chained (s : Builder.Step Unit) : Builder.Step Return := do
  s
  return .builder

/-- Performs a call. -/
def run : Operation → Builder.Step Return
  | setAlias t a => chained (Builder.setAlias t a)
  | select p t d => chained (Builder.select p t d)
  | where_ c => chained (Builder.where_ c)
  | sortBy o => chained (Builder.sortBy o)
  | limit => chained Builder.limit
  | addParam v => do return .value (.text (← Builder.addParam v))
  | parentheses e => do return .value (← Builder.parentheses e)
  | column c => do return .value (← Builder.column c)
  | eq c v => do return .value (← Builder.eq c v)
  | between v a b => do return .value (← Builder.between v a b)
  | and_ vs => do return .value (.text (← Builder.and_ vs))
  | orderedParams => do return .value (.list (← get).orderedParams)
  | literal => do return .value (.text (← check (← get).literal))
  | setParamsCopy k v => do
    let key ← check k.asKey
    return .value (.map ((← get).paramMap.set key v))
  | apply v => chained do
    let d ← check (Definition.read v)
    d.apply

end Operation

/-- The steps of a program; each is given what the earlier ones returned. -/
abbrev Program := List (List Value → Outcome Operation)

namespace Program

/-- What one step returned, and the builder after it. -/
structure Answer where
  result : Outcome Return
  builder : Builder
  deriving Inhabited

/-- Performs one step. -/
def step (returns : List Value) (s : List Value → Outcome Operation) (b : Builder) : Answer :=
  match s returns with
  | .error f => ⟨.error f, b⟩
  | .ok op =>
    let (result, b) := op.run.run.run b
    ⟨result, b⟩

/-- Performs the steps one after another, from a builder and what was returned before. -/
def runFrom (b : Builder) (returns : List Value) : Program → List Answer
  | [] => []
  | s :: rest =>
    let a := step returns s b
    let seen := match a.result with
      | .ok r => r.toValue
      | .error _ => .null
    a :: runFrom a.builder (returns ++ [seen]) rest

/-- Performs a program on a fresh builder. -/
def run (p : Program) : List Answer := runFrom Builder.empty [] p

end Program

end BoundSql
