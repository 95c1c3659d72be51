import BoundSql.Proofs.Outcome
import BoundSql.Proofs.Sql.Rendering

/-! # Faults of rendering

Columns, tables and select lists can hold values of any kind, and some of them cannot be rendered.
Then an operation has been applied to a value that does not support it, or a value is too long to be
written, and nothing else goes wrong (`failsWith_selectText`). -/

namespace BoundSql

open Outcome

/-- An operation is applied to a value that does not support it, or a value is too long to be written. -/
inductive Fault.IsUnrenderable : Fault → Prop
  | misuse (m : Misuse) : IsUnrenderable (.misuse m)
  | unwritable : IsUnrenderable (.unwritable Text.numeralLimit)

namespace Value

theorem failsWith_asKey (v : Value) : FailsWith Fault.IsUnrenderable v.asKey := by
  unfold asKey
  split
  · exact .error (.misuse _)
  · exact .ok v

theorem failsWith_isBlank (v : Value) : FailsWith Fault.IsUnrenderable v.isBlank := by
  unfold isBlank
  split
  · exact .ok true
  · exact .ok _
  · exact .ok _
  · exact .error (.misuse _)

theorem failsWith_shown (v : Value) : FailsWith Fault.IsUnrenderable v.shown := by
  unfold shown
  split
  · exact .error .unwritable
  · exact .ok _

end Value

theorem failsWith_joinTexts (separator : String) (vs : List Value) :
    FailsWith Fault.IsUnrenderable (joinTexts separator vs) := by
  unfold joinTexts
  split
  · exact .error (.misuse _)
  · exact .ok _

namespace Sql

variable (aliases : Mapping)

theorem failsWith_aliasOf? (table : Value) :
    FailsWith Fault.IsUnrenderable (aliasOf? aliases table) := by
  refine table.failsWith_asKey.bind fun key _ => ?_
  split <;> exact .ok _

theorem failsWith_tableReference (table : Value) :
    FailsWith Fault.IsUnrenderable (tableReference table aliases) := by
  refine (failsWith_aliasOf? aliases table).bind fun a _ => ?_
  split
  · refine table.failsWith_shown.bind fun _ _ => ?_
    exact (Value.failsWith_shown _).bind fun _ _ => .ok _
  · exact .ok _

theorem failsWith_qualifiedName (c : Column) :
    FailsWith Fault.IsUnrenderable (qualifiedName c aliases) := by
  refine (failsWith_aliasOf? aliases c.table).bind fun a _ => ?_
  split
  · refine (Value.failsWith_shown _).bind fun _ _ => ?_
    exact c.name.failsWith_shown.bind fun _ _ => .ok _
  · exact .ok _

theorem failsWith_columnText (c : Column) : FailsWith Fault.IsUnrenderable (columnText c aliases) :=
  (failsWith_qualifiedName aliases c).bind fun v _ => v.failsWith_shown

theorem failsWith_searchedName (v : Value) : FailsWith Fault.IsUnrenderable (searchedName v) := by
  unfold searchedName
  split
  · exact .ok _
  · exact .ok _
  · exact .error (.misuse _)

theorem failsWith_searchedText (v : Value) : FailsWith Fault.IsUnrenderable (searchedText v) := by
  unfold searchedText
  split
  · exact .ok _
  · exact .error (.misuse _)
  · exact .error (.misuse _)

theorem failsWith_replaceReference (template : Value) (c : Column) :
    FailsWith Fault.IsUnrenderable (replaceReference aliases template c) := by
  refine (failsWith_qualifiedName aliases c).bind fun replacement _ => ?_
  refine (failsWith_searchedName c.name).bind fun name _ => ?_
  refine (failsWith_searchedText template).bind fun text _ => ?_
  split
  · exact .ok _
  · split
    · exact .ok _
    · exact .error (.misuse _)

theorem failsWith_replaceReferences (template : Value) (cs : List Column) :
    FailsWith Fault.IsUnrenderable (replaceReferences template cs aliases) :=
  FailsWith.foldlM (failsWith_replaceReference aliases) cs template

theorem failsWith_isNamed (name : Value) : FailsWith Fault.IsUnrenderable (isNamed name) := by
  unfold isNamed
  split
  · exact name.failsWith_isBlank.map not
  · exact .ok false

theorem failsWith_selectItem (i : Item) : FailsWith Fault.IsUnrenderable (selectItem i aliases) := by
  cases i with
  | plain c =>
    unfold selectItem
    dsimp only
    split
    · exact (failsWith_columnText aliases c).bind fun _ _ => .ok _
    · exact failsWith_qualifiedName aliases c
  | expression t cs n =>
    refine (failsWith_replaceReferences aliases t cs).bind fun body _ => ?_
    refine (failsWith_isNamed n).bind fun named _ => ?_
    split
    · refine body.failsWith_shown.bind fun _ _ => ?_
      exact n.failsWith_shown.bind fun _ _ => .ok _
    · exact .ok _
  | subquery t cs n =>
    refine (failsWith_replaceReferences aliases t cs).bind fun body _ => ?_
    refine body.failsWith_shown.bind fun _ _ => ?_
    exact n.failsWith_shown.bind fun _ _ => .ok _
  | raw v =>
    change FailsWith Fault.IsUnrenderable (.error (Fault.misuse (.selectItem v)).worded)
    unfold Fault.worded
    split
    · exact .error .unwritable
    · exact .error (.misuse _)

/-- **Nothing but a misuse or a value that is too long** keeps a select list from being rendered. -/
theorem failsWith_selectText (items : List Item) (table : Value) :
    FailsWith Fault.IsUnrenderable (selectText items table aliases) := by
  refine (FailsWith.mapM fun i _ => failsWith_selectItem aliases i).bind fun selection _ => ?_
  refine (failsWith_joinTexts ", " selection).bind fun list _ => ?_
  exact (failsWith_tableReference aliases table).bind fun table _ => .ok _

end Sql

end BoundSql
