import BoundSql.Fault
import BoundSql.Text.Digit

/-!
# Positional placeholders

A placeholder is a question mark followed by decimal digits of any script; the digits are the
position of its value.  A question mark that no digit follows is ordinary text.  Binding replaces
every placeholder by the marker that the database's driver understands and lists the values in the
order of the placeholders.

A driver whose marker begins with a percent sign reads every other percent sign as the beginning of
a marker, so that for it literal percent signs are doubled first (`Engine.escape`).
-/

namespace BoundSql

/-- The kinds of database. -/
inductive Engine where
  | duckdb
  | postgresql
  deriving DecidableEq, Repr, Inhabited

namespace Engine

/-- What the driver takes for the next argument. -/
def marker : Engine → List Char
  | duckdb => ['?']
  | postgresql => ['%', 's']

/-- SQL text with the characters that the driver would misread made literal. -/
def escape : Engine → List Char → List Char
  | duckdb, cs => cs
  | postgresql, cs => cs.flatMap fun c => if c == '%' then ['%', '%'] else [c]

end Engine

namespace Placeholder

/-- The digits at the beginning of a text. -/
def leadingDigits (cs : List Char) : List Char := cs.takeWhile Text.isDigit

/-- The position that a run of digits denotes, if it is not too long. -/
def position (ds : List Char) : Outcome Nat :=
  if Text.numeralLimit < ds.length then .error (.longNumeral Text.numeralLimit ds.length)
  else .ok (Text.numeralValue ds)

/-- The value bound to a position. -/
def valueAt (params : Mapping) (n : Nat) : Outcome Value :=
  match params.get? (.int n) with
  | some v => .ok v
  | none => .error (.unbound n)

/-- Replaces the placeholders in `cs`, the first `skip` characters of which belong to a placeholder
that has been replaced already, and lists their values. -/
def bindFrom (marker : List Char) (params : Mapping) :
    (skip : Nat) → List Char → Outcome (List Char × List Value)
  | _, [] => .ok ([], [])
  | skip + 1, _ :: cs => bindFrom marker params skip cs
  | 0, c :: cs =>
    if c == '?' && !(leadingDigits cs).isEmpty then do
      let n ← position (leadingDigits cs)
      let v ← valueAt params n
      let (sql, args) ← bindFrom marker params (leadingDigits cs).length cs
      return (marker ++ sql, v :: args)
    else do
      let (sql, args) ← bindFrom marker params 0 cs
      return (c :: sql, args)

/-- The SQL for the driver, and the values in placeholder order. -/
def bind (engine : Engine) (sql : String) (params : Mapping) : Outcome (String × List Value) := do
  let (cs, args) ← bindFrom engine.marker params 0 (engine.escape sql.toList)
  return (String.ofList cs, args)

end Placeholder

end BoundSql
