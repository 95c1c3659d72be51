import BoundSql.Proofs.Result.Faults
import BoundSql.Proofs.Session.Delivery

/-! # The end of a transaction

A statement on a pool runs in a transaction of the connection that is borrowed for it. Which calls end
the transaction depends on the driver's answer alone (`endings`): rows are committed before they are
put into a table, a refusal rolls the transaction back, and after any other failure the connection is
given back as it is (`on_execute_of_short`). If the name of the data source is too long for the report
of the statement, there is no statement, and nothing is ended (`on_execute_of_long`).

So a transaction is committed if the statement succeeds and rolled back if it fails, exactly if the
statement can be reported and the driver refuses or answers with rows of which a table can be made
(`Reached.transaction_ended_iff`). -/

namespace BoundSql.Session

open Session.Action Outcome

variable {s : Session} {sql : String} {args : List Value}

/-- What a statement on a pool comes to, by the driver's answer. -/
def answered : Except DriverFault ResultSet → Outcome Table
  | .ok ⟨some names, rows⟩ => Table.ofRows names rows
  | .ok ⟨none, _⟩ => .error (.misuse (.iterate "NoneType"))
  | .error f => .error f.toFault

/-- The calls that end the transaction, by the driver's answer. -/
def endings : Except DriverFault ResultSet → List Call
  | .ok ⟨some _, _⟩ => [.commit]
  | .ok ⟨none, _⟩ => []
  | .error (.refused _) => [.rollback]
  | .error (.broken _) => []

/-- The driver refuses, or answers with rows of which a table can be made. -/
def IsSettled : Except DriverFault ResultSet → Prop
  | .ok ⟨some names, rows⟩ => (Table.ofRows names rows).isOk = true
  | .ok ⟨none, _⟩ => False
  | .error (.refused _) => True
  | .error (.broken _) => False

/-! ### On a borrowed connection -/

/-- What is done with a borrowed connection. -/
def statement (sql : String) (args : List Value) : Action Table := do
  reportExecution sql
  let r ← send sql args
  match r.columns with
  | none => throw (.misuse (.iterate "NoneType"))
  | some names =>
    perform .commit
    check (Table.ofRows names r.rows)

/-- What is done if the driver refuses. -/
def rollBack (message : String) : Action Unit := do
  perform .rollback
  reportSource Log.error
    ("Query execution failed on " ++ (← check (← get).source.name.shown) ++ ": " ++ message)

theorem executePooled_eq (sql : String) (args : List Value) :
    executePooled sql args = borrowing (statement sql args) rollBack := rfl

theorem on_onRefusal_of_driver_rollBack {a : Action Table} {m : String} {s s' : Session}
    (h : on a s = (.error (.driver m), s')) (hname : s'.source.name.hasLongNumeral = false) :
    ∃ es, on (onRefusal a rollBack) s =
      (.error (.driver m), (s'.addCalls [.rollback]).addEvents es) := by
  obtain ⟨es, hback⟩ : ∃ es, on (rollBack m) s' = (.ok ⟨⟩, (s'.addCalls [.rollback]).addEvents es) := by
    have hshown : on (check s'.source.name.shown >>= fun name =>
        reportSource Log.error ("Query execution failed on " ++ name ++ ": " ++ m))
        (s'.addCalls [.rollback]) = _ := on_bind_shown_of_short hname ..
    exact ⟨_, hshown⟩
  unfold onRefusal
  rw [on_tryCatch, h]
  exact ⟨es, on_bind_ok hback⟩

/-- The statement is sent, and then its transaction is ended, depending on the driver's answer. -/
theorem on_statement (hname : s.source.name.hasLongNumeral = false) (sql : String)
    (args : List Value) :
    ∃ s', on (onRefusal (statement sql args) rollBack) s = (answered s.nextResult, s') ∧
      s'.source = s.source ∧ s'.calls = s.calls ++ .execute sql args :: endings s.nextResult := by
  obtain ⟨es, hreport⟩ := on_reportExecution_of_short hname sql
  have hsend : on (send sql args) (s.addEvents es) =
      (s.nextResult.mapError DriverFault.toFault, (s.addEvents es).afterStatement sql args) :=
    on_send sql args _
  have hon : on (statement sql args) s = on (send sql args >>= fun r =>
      match r.columns with
      | none => throw (.misuse (.iterate "NoneType"))
      | some names => do
        perform .commit
        check (Table.ofRows names r.rows)) (s.addEvents es) := on_bind_ok hreport
  rcases hnext : s.nextResult with (m | m) | ⟨_ | names, rows⟩ <;> rw [hnext] at hsend
  · have hrefused : on (statement sql args) s =
        (.error (.driver m), (s.addEvents es).afterStatement sql args) :=
      hon.trans (on_bind_error hsend)
    obtain ⟨es', hrolled⟩ := on_onRefusal_of_driver_rollBack hrefused hname
    exact ⟨_, hrolled, rfl, List.append_assoc ..⟩
  · have hbroken := on_onRefusal_of_not_driver (g := rollBack) (hon.trans (on_bind_error hsend)) nofun
    exact ⟨_, hbroken, rfl, rfl⟩
  · have hnone := on_onRefusal_of_not_driver (g := rollBack) (hon.trans (on_bind_ok hsend)) nofun
    exact ⟨_, hnone, rfl, rfl⟩
  · rw [on_bind_ok hsend] at hon
    have hcommit : on (statement sql args) s = (Table.ofRows names rows,
      ((s.addEvents es).afterStatement sql args).addCalls [.commit]) := hon
    refine ⟨((s.addEvents es).afterStatement sql args).addCalls [.commit], ?_, rfl,
      List.append_assoc ..⟩
    change _ = (Table.ofRows names rows, _)
    rcases htable : Table.ofRows names rows with f | t <;> rw [htable] at hcommit
    · exact on_onRefusal_of_not_driver hcommit (Table.failsWith_ofRows names rows f htable).ne_driver
    · exact on_onRefusal_of_ok hcommit

/-! ### The end of the transaction -/

/-- A statement on a pool, if a connection can be borrowed and the statement can be reported. -/
theorem on_execute_of_short (hengine : s.source.engine = .postgresql) (hheld : s.source.held = true)
    (hborrow : s.nextBorrow = none) (hname : s.source.name.hasLongNumeral = false) (sql : String)
    (args : List Value) :
    (on (execute sql args) s).1 = answered s.nextResult ∧ (on (execute sql args) s).2.calls =
      s.calls ++ [.borrow, .execute sql args] ++ endings s.nextResult ++ [.giveBack] := by
  obtain ⟨s', hon, hsource, hcalls⟩ := on_statement (s := s.afterBorrowing) hname sql args
  have hheld' : s'.source.held = true := by
    rw [hsource]
    exact hheld
  rw [on_execute_of_postgresql hengine, executePooled_eq,
    on_borrowing_of_none hheld hborrow hon hheld']
  refine ⟨rfl, ?_⟩
  change s'.calls ++ [.giveBack] = _
  rw [hcalls]
  change (s.calls ++ [.borrow]) ++ .execute sql args :: endings s.nextResult ++ [.giveBack] = _
  simp

/-- A statement on a pool that cannot be reported: the connection is given back as it was. -/
theorem on_execute_of_long (hengine : s.source.engine = .postgresql) (hheld : s.source.held = true)
    (hborrow : s.nextBorrow = none) (hname : s.source.name.hasLongNumeral = true) (sql : String)
    (args : List Value) : (on (execute sql args) s).2.calls = s.calls ++ [.borrow, .giveBack] := by
  rw [on_execute_of_postgresql hengine, on_executePooled_of_long hheld hborrow hname]
  exact List.append_assoc ..

/-- The transaction is ended as the outcome demands exactly after the answers of which this is said. -/
theorem endings_eq_iff (reply : Except DriverFault ResultSet) :
    endings reply = [if (answered reply).isOk then .commit else .rollback] ↔ IsSettled reply := by
  rcases reply with (m | m) | ⟨_ | names, rows⟩
  · exact iff_of_true rfl trivial
  · exact iff_of_false nofun id
  · exact iff_of_false nofun id
  · change [Call.commit] = [if (Table.ofRows names rows).isOk then .commit else .rollback] ↔
      (Table.ofRows names rows).isOk = true
    rcases (Table.ofRows names rows).isOk with _ | _
    · exact iff_of_false nofun nofun
    · exact iff_of_true rfl rfl

theorem isEnding_of_mem_endings (reply : Except DriverFault ResultSet) :
    (∀ c ∈ endings reply, c.isEnding = true) ∧ (endings reply).length ≤ 1 := by
  rcases reply with (m | m) | ⟨_ | names, rows⟩ <;> simp [endings, Call.isEnding]

/-- **The end of a transaction.** However the data source has been used before, a statement for which a
connection is borrowed is followed by at most one call that ends its transaction, and then the
connection is given back. That is a commit if the statement succeeds and a rollback if it fails,
exactly if the statement can be reported and the driver refuses or answers with rows of which a table
can be made. A statement that cannot be reported is not sent. -/
theorem Reached.transaction_ended_iff {allowed : Use → Session → Prop} {source : Source}
    {replies : Replies} (h : Reached allowed (Session.start source.closed replies) s)
    (hengine : s.source.engine = .postgresql) (hconnected : s.source.connected = true)
    (hborrow : s.nextBorrow = none) (sql : String) (args : List Value) :
    ∃ made : List Call, (∀ c ∈ made, c.isEnding = true) ∧ made.length ≤ 1 ∧
      (on (execute sql args) s).2.calls = s.calls ++ .borrow ::
        (if s.source.name.hasLongNumeral then [] else [.execute sql args]) ++ made ++ [.giveBack] ∧
      (made = [if (on (execute sql args) s).1.isOk then .commit else .rollback] ↔
        s.source.name.hasLongNumeral = false ∧ IsSettled s.nextResult) := by
  have hheld := h.held_of_connected hconnected
  cases hname : s.source.name.hasLongNumeral with
  | true =>
    refine ⟨[], List.forall_mem_nil _, Nat.zero_le 1, ?_, iff_of_false nofun nofun⟩
    rw [on_execute_of_long hengine hheld hborrow hname, if_pos rfl, List.append_nil,
      List.append_assoc]
    rfl
  | false =>
    obtain ⟨houtcome, hcalls⟩ := on_execute_of_short hengine hheld hborrow hname sql args
    obtain ⟨hending, hlength⟩ := isEnding_of_mem_endings s.nextResult
    refine ⟨endings s.nextResult, hending, hlength, hcalls, ?_⟩
    rw [houtcome, and_iff_right rfl]
    exact endings_eq_iff s.nextResult

/-- A data source that has been opened, and whose driver answers in this way next. -/
def answering (reply : Except DriverFault ResultSet) : Session :=
  Use.ensureConnected.after (Session.start shop.closed { Replies.success with results := [reply] })

/-- A refusal is rolled back before the connection is given back. -/
theorem Reached.transaction_ended_iff_refused :
    Reached (fun _ _ => True)
      (Session.start shop.closed { Replies.success with results := [.error (.refused "boom")] })
      (answering (.error (.refused "boom"))) ∧
    (answering (.error (.refused "boom"))).source.connected = true ∧
    ∃ before, (on (execute "select 1" []) (answering (.error (.refused "boom")))).2.calls =
      before ++ [.borrow, .execute "select 1" [], .rollback, .giveBack] := by
  have hreached : Reached (fun _ _ => True)
      (Session.start shop.closed { Replies.success with results := [.error (.refused "boom")] })
      (answering (.error (.refused "boom"))) := Reached.start.use .ensureConnected trivial
  obtain ⟨made, -, -, hcalls, hiff⟩ :=
    hreached.transaction_ended_iff rfl rfl rfl "select 1" []
  have hfails : (on (execute "select 1" []) (answering (.error (.refused "boom")))).1.isOk = false := by
    decide +kernel
  refine ⟨hreached, rfl, (answering (.error (.refused "boom"))).calls, ?_⟩
  rw [hcalls, hiff.mpr ⟨rfl, trivial⟩, hfails, List.append_assoc, List.append_assoc]
  rfl

/-- Whether a statement succeeds after this answer, and the calls that end its transaction. -/
def endAfter (reply : Except DriverFault ResultSet) : Bool × List Call :=
  let (outcome, s) := on (execute "select 1" []) (answering reply)
  (outcome.isOk, s.calls.filter Call.isEnding)

/-- A statement whose driver breaks, and one that gives no rows at all, fail with their transactions
open; one whose rows do not go together fails after they have been committed. -/
theorem transaction_not_ended : endAfter (.error (.broken "boom")) = (false, []) ∧
    endAfter (.ok ⟨none, []⟩) = (false, []) ∧
    endAfter (.ok ⟨some ["a"], [[.int 1], [.text "x"]]⟩) = (false, [.commit]) :=
  ⟨rfl, rfl, rfl⟩

end BoundSql.Session
