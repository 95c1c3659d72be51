import BoundSql.Proofs.Session.Delivery

/-! # What a query returns

A query returns nothing but what the driver answers to its statement: the result table is made of the
next answer (`table_of_runToTable`), and the rows are those of the table (`table_of_query`). Opening the
data source uses up no such answer, so it does not matter whether the query does that first. -/

namespace BoundSql.Session

open Session.Action Outcome

variable {α β : Type} {s : Session} {t : Table} {sql : String} {args : List Value}

/-- An action that returns something has returned from its first step. -/
theorem exists_of_on_bind {a : Action α} {f : α → Action β} {y : β}
    (h : (on (a >>= f) s).1 = .ok y) : ∃ x s', on a s = (.ok x, s') ∧ (on (f x) s').1 = .ok y := by
  rcases hon : on a s with ⟨e | x, s'⟩
  · rw [on_bind_error hon] at h
    cases h
  · rw [on_bind_ok hon] at h
    exact ⟨x, s', rfl, h⟩

/-- A refusal is never overcome. -/
theorem ok_of_onRefusal {a : Action α} {g : String → Action Unit} {x : α}
    (h : (on (onRefusal a g) s).1 = .ok x) : (on a s).1 = .ok x := by
  unfold onRefusal at h
  rw [on_tryCatch] at h
  rcases hon : on a s with ⟨e | y, s'⟩ <;> rw [hon] at h
  · cases e with
    | driver m =>
      obtain ⟨_, _, -, hthrow⟩ := exists_of_on_bind h
      cases hthrow
    | _ => cases h
  · exact h

theorem on_giveBack_fst (s : Session) : (on giveBack s).1 = .ok ⟨⟩ := by
  unfold giveBack
  rw [on_bind_ok (on_get s)]
  cases s.source.held <;> rfl

/-- Giving the connection back does not change what is returned. -/
theorem on_finishing_giveBack (a : Action α) (s : Session) :
    (on (finishing a giveBack) s).1 = (on a s).1 := by
  have hlast : on giveBack (on a s).2 = (.ok ⟨⟩, (on giveBack (on a s).2).2) :=
    Prod.ext (on_giveBack_fst _) rfl
  have ha : on a s = ((on a s).1, (on a s).2) := rfl
  rw [on_finishing ha hlast]

theorem ok_of_borrowing {a : Action α} {g : String → Action Unit} {x : α}
    (h : (on (borrowing a g) s).1 = .ok x) : (on a s.afterBorrowing).1 = .ok x := by
  rcases hheld : s.source.held with _ | _
  · rw [on_borrowing_of_not_held hheld] at h
    cases h
  rw [on_borrowing_of_held hheld] at h
  rcases hnext : s.nextBorrow with _ | f <;> rw [hnext] at h
  · rw [on_bind_ok (on_demand_none _), on_finishing_giveBack] at h
    exact ok_of_onRefusal h
  · rw [on_bind_error (on_demand_some ..)] at h
    cases h

/-- What is returned after a statement comes from the answer to it. -/
theorem exists_answer_of_send {f : ResultSet → Action α} {x : α}
    (h : (on (send sql args >>= f) s).1 = .ok x) : ∃ r s', s.nextResult = .ok r ∧
      (on (f r) s').1 = .ok x := by
  obtain ⟨r, s', hsend, hrest⟩ := exists_of_on_bind h
  rw [on_send] at hsend
  rcases hnext : s.nextResult with e | r' <;> rw [hnext] at hsend <;> cases hsend
  exact ⟨r, _, rfl, hrest⟩

/-- A statement that returns something has been reported. -/
theorem exists_of_reportExecution_bind {f : Unit → Action α} {x : α}
    (h : (on (reportExecution sql >>= f) s).1 = .ok x) :
    ∃ es, (on (f ⟨⟩) (s.addEvents es)).1 = .ok x := by
  cases hname : s.source.name.hasLongNumeral with
  | false =>
    obtain ⟨es, hreport⟩ := on_reportExecution_of_short hname sql
    rw [on_bind_ok hreport] at h
    exact ⟨es, h⟩
  | true =>
    rw [on_bind_error (on_reportExecution_of_long hname sql)] at h
    cases h

theorem table_of_executeFile (h : (on (executeFile sql args) s).1 = .ok t) : ∃ r,
    s.nextResult = .ok r ∧ Table.ofRows (r.columns.getD []) r.rows = .ok t := by
  rcases hheld : s.source.held with _ | _
  · rw [on_executeFile_of_not_held hheld] at h
    cases h
  rw [on_executeFile_of_held hheld] at h
  obtain ⟨es, hrest⟩ := exists_of_reportExecution_bind h
  obtain ⟨r, _, hnext, hread⟩ := exists_answer_of_send hrest
  exact ⟨r, hnext, hread⟩

theorem table_of_executePooled (h : (on (executePooled sql args) s).1 = .ok t) : ∃ r,
    s.nextResult = .ok r ∧ Table.ofRows (r.columns.getD []) r.rows = .ok t := by
  unfold executePooled at h
  obtain ⟨es, hrest⟩ := exists_of_reportExecution_bind (ok_of_borrowing h)
  obtain ⟨r, _, hnext, hread⟩ := exists_answer_of_send hrest
  refine ⟨r, hnext, ?_⟩
  rcases hcolumns : r.columns with _ | names <;> rw [hcolumns] at hread
  · cases hread
  · obtain ⟨_, _, -, hread⟩ := exists_of_on_bind hread
    exact hread

/-- **The table of a statement** is made of the driver's answer. -/
theorem table_of_execute (h : (on (execute sql args) s).1 = .ok t) : ∃ r,
    s.nextResult = .ok r ∧ Table.ofRows (r.columns.getD []) r.rows = .ok t := by
  rcases hengine : s.source.engine with _ | _
  · exact table_of_executeFile (on_execute_of_duckdb hengine ▸ h)
  · exact table_of_executePooled (on_execute_of_postgresql hengine ▸ h)

/-- Opening the data source uses up no answer to a statement. -/
theorem nextResult_ensureConnected (s : Session) :
    (on ensureConnected s).2.nextResult = s.nextResult := by
  rcases hconnected : s.source.connected with _ | _
  · obtain ⟨made, hmade, -, -, hstatement⟩ := (opens_ensureConnected hconnected).calls
    rw [nextResult, hmade.results, hstatement, List.drop_zero]
    rfl
  · rw [on_ensureConnected_of_connected hconnected]

variable {config : ExecutorConfig} {params : Mapping} {shape : Shape} {b : Builder} {rows : List Row}

theorem table_of_runToTable (h : (on (runToTable config sql params) s).1 = .ok t) : ∃ r,
    s.nextResult = .ok r ∧ Table.ofRows (r.columns.getD []) r.rows = .ok t := by
  rw [runToTable_eq] at h
  obtain ⟨_, s', hconnect, hrest⟩ := exists_of_on_bind h
  have hnext := nextResult_ensureConnected s
  rw [hconnect] at hnext
  unfold runConnected at hrest
  rw [on_bind_ok (on_get s')] at hrest
  obtain ⟨⟨driverSql, args⟩, _, hbind, hrest⟩ := exists_of_on_bind hrest
  cases congrArg Prod.snd hbind
  obtain ⟨shown, _, hshown, hrest⟩ := exists_of_on_bind hrest
  cases congrArg Prod.snd hshown
  obtain ⟨_, _, hreport, hrest⟩ := exists_of_on_bind hrest
  cases hreport
  obtain ⟨r, hr, hread⟩ := table_of_execute hrest
  exact ⟨r, hnext.symm.trans hr, hread⟩

theorem table_of_run (h : (on (run config sql params shape) s).1 = .ok rows) : ∃ r t,
    s.nextResult = .ok r ∧ Table.ofRows (r.columns.getD []) r.rows = .ok t ∧
    shapeRows config shape t = .ok rows := by
  obtain ⟨t, _, htable, hshape⟩ := exists_of_on_bind h
  obtain ⟨r, hnext, hread⟩ := table_of_runToTable (congrArg Prod.fst htable)
  exact ⟨r, t, hnext, hread, hshape⟩

/-- **The rows of a query** are made of the driver's answer. -/
theorem table_of_query (h : (on (query config b shape) s).1 = .ok rows) : ∃ r t,
    s.nextResult = .ok r ∧ Table.ofRows (r.columns.getD []) r.rows = .ok t ∧
    shapeRows config shape t = .ok rows := by
  rcases hsql : b.sql with e | sql
  · unfold query at h
    rw [hsql, on_bind_error (on_check (.error e) s)] at h
    cases h
  · rw [outcome_query hsql] at h
    rcases hrun : (on (run config sql b.paramMap shape) s).1 with e | rows' <;> rw [hrun] at h <;>
      cases h
    exact table_of_run hrun

end BoundSql.Session
