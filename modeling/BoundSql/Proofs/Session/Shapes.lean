import BoundSql.Proofs.Result.Columns
import BoundSql.Proofs.Session.Answer
import BoundSql.Proofs.Session.Transaction

/-! # The rows of a query in every shape

Once the statement of a query has been sent and the driver has answered with rows, the table is made of
these rows whatever the data source is (`table_of_sent`). If its columns are kept, then the query
returns the same rows in every shape, all of them and in their order, and the size of a batch makes no
difference as long as it fits 64 bits (`Reached.shapes_agree`). -/

namespace BoundSql.Session

open Session.Action Outcome

variable {s : Session} {config : ExecutorConfig} {sql : String} {params : Mapping} {args : List Value}
  {names : List String} {rows : List (List Value)} {t : Table} {shape : Shape}

/-! ### The table of a query -/

theorem on_execute_of_lends (hheld : s.source.held = true) (hlends : s.lends = true)
    (hname : s.source.name.hasLongNumeral = false) (hanswer : s.nextResult = .ok ⟨some names, rows⟩) :
    (on (execute sql args) s).1 = Table.ofRows names rows := by
  cases hengine : s.source.engine with
  | duckdb =>
    obtain ⟨es, hreport⟩ := on_reportExecution_of_short hname sql
    have hsend : on (send sql args) (s.addEvents es) =
        (s.nextResult.mapError DriverFault.toFault, (s.addEvents es).afterStatement sql args) :=
      on_send sql args _
    rw [hanswer] at hsend
    rw [on_execute_of_duckdb hengine, on_executeFile_of_held hheld, on_bind_ok hreport,
      on_bind_ok hsend]
    rfl
  | postgresql =>
    have hborrow : s.nextBorrow = none := by
      rw [lends, hengine] at hlends
      exact Option.isNone_iff_eq_none.mp hlends
    rw [(on_execute_of_short hengine hheld hborrow hname sql args).1, hanswer]
    rfl

/-- **The table of a query** whose statement has been sent is made of the rows of the answer. -/
theorem table_of_sent (hs : s.source.connected = true → s.source.held = true)
    (hsent : sent (runToTable config sql params) s ≠ [])
    (hanswer : s.nextResult = .ok ⟨some names, rows⟩) :
    (on (runToTable config sql params) s).1 = Table.ofRows names rows := by
  rw [sent_runToTable (q := ⟨config, sql, params⟩) hs, delivery] at hsent
  rw [← nextResult_ensureConnected s] at hanswer
  have hengine := engine_ensureConnected s
  have hname := name_ensureConnected s
  rcases hon : on ensureConnected s with ⟨e | ⟨⟩, s'⟩ <;> rw [hon] at hsent hanswer hengine hname
  · rw [ite_self] at hsent
    exact absurd rfl hsent
  -- a statement that has been sent was not withheld
  obtain ⟨hshort, hunwritable⟩ : s'.source.name.hasLongNumeral = false ∧
      (Task.mk config sql params).isUnwritable s'.source.engine = false := by
    rw [hname, hengine]
    refine Bool.or_eq_false_iff.mp (Bool.eq_false_iff.mpr fun hwithheld => hsent ?_)
    exact if_pos hwithheld
  rw [Task.isWithheld, ← hname, ← hengine, hshort, hunwritable] at hsent
  rcases hbind : Placeholder.bind s'.source.engine sql params with e | ⟨driverSql, args⟩ <;>
    simp only [hbind] at hsent
  · exact absurd rfl hsent
  rcases hlends : s'.lends with _ | _ <;> rw [hlends] at hsent
  · exact absurd rfl hsent
  obtain ⟨shown, hshown⟩ := Task.exists_shownValues (q := ⟨config, sql, params⟩) hbind hunwritable
  rw [runToTable_eq, on_bind_ok hon,
    on_runConnected_of_shown (q := ⟨config, sql, params⟩) hbind hshown]
  exact on_execute_of_lends (s := s'.addEvents _) (held_of_ensureConnected hs hon).1 hlends hshort
    hanswer

theorem on_run_of_ofRows (h : (on (runToTable config sql params) s).1 = .ok t) :
    (on (run config sql params shape) s).1 = shapeRows config shape t := by
  unfold run
  rcases hon : on (runToTable config sql params) s with ⟨x, s'⟩
  rw [hon] at h
  cases h
  rw [on_bind_ok hon]
  rfl

/-! ### The rows in every shape -/

/-- **The same rows in every shape.** However the data source has been used before, if the statement of
a query is sent and answered with rows whose columns are kept, then the query returns:

* as tuples, the rows, each once and in order;
* as maps, at each place the map from the names in order to the values of the row there, and as records
  whose fields are the names in any order, the record with these values, whatever the size of a batch
  is, so that it makes no difference;
* neither maps nor records if the size of a batch does not fit 64 bits with a sign. -/
theorem Reached.shapes_agree {allowed : Use → Session → Prop} {source : Source} {replies : Replies}
    (h : Reached allowed (Session.start source.closed replies) s)
    (hsent : sent (runToTable config sql params) s ≠ [])
    (hanswer : s.nextResult = .ok ⟨some names, rows⟩) (hkept : Table.AreKept names rows) :
    (on (run config sql params .tuple) s).1 = .ok (rows.map .tuple) ∧
    (IsBatchSize config.batchSize →
      (on (run config sql params .map) s).1 = .ok (rows.map (mapOf names)) ∧
      ∀ fields : List String, fields.Perm names →
        (on (run config sql params (.record fields)) s).1 = .ok (rows.map (recordOf fields names))) ∧
    ∀ n : Int, config.batchSize = .int n → 2 ^ 63 ≤ n → ∀ shape ≠ .tuple,
      (on (run config sql params shape) s).1 = .error .longInteger := by
  have htable := table_of_sent h.held_of_connected hsent hanswer
  obtain ⟨t, ht⟩ : ∃ t, Table.ofRows names rows = .ok t := ⟨_, Table.ofRows_of_areKept hkept⟩
  have hrun : ∀ shape, (on (run config sql params shape) s).1 = shapeRows config shape t :=
    fun shape => on_run_of_ofRows (htable.trans ht)
  simp only [hrun]
  exact ⟨shapeRows_tuple_of_areKept hkept ht,
    fun hsize => ⟨shapeRows_map_of_areKept hkept ht hsize,
      fun _ hfields => shapeRows_record_of_areKept hkept ht hfields hsize⟩,
    fun n hconfig hn shape hshape => shapeRows_of_long hshape hconfig hn t⟩

/-- The rows of two orders, of which one has no code. -/
def orders : ResultSet := ⟨some ["id", "code"], [[.int 1, .text "x"], [.int 2, .null]]⟩

theorem areKept_orders : Table.AreKept ["id", "code"] orders.rows where
  names_ne_nil := nofun
  nodup := by decide
  width := by decide
  columns := by
    intro i hi
    match i, hi with
    | 0, _ =>
      refine .inl fun v hv => ?_
      obtain rfl | rfl := List.mem_pair.mp hv
      · exact .inr ⟨1, rfl, by decide⟩
      · exact .inr ⟨2, rfl, by decide⟩
    | 1, _ =>
      refine .inr (.inl fun v hv => ?_)
      obtain rfl | rfl := List.mem_pair.mp hv
      · exact .inr rfl
      · exact .inl rfl

theorem reached_answering_orders : Reached (fun _ _ => True)
    (Session.start shop.closed { Replies.success with results := [.ok orders] })
    (answering (.ok orders)) := Reached.start.use .ensureConnected trivial

/-- Read one by one, the orders are as many and the same. -/
theorem Reached.shapes_agree_orders :
    Reached (fun _ _ => True)
      (Session.start shop.closed { Replies.success with results := [.ok orders] })
      (answering (.ok orders)) ∧
    sent (runToTable ⟨.int 1, .null⟩ "select id, code from orders" []) (answering (.ok orders)) ≠ [] ∧
    (on (run ⟨.int 1, .null⟩ "select id, code from orders" [] (.record ["code", "id"]))
      (answering (.ok orders))).1 = .ok [.record [("code", .text "x"), ("id", .int 1)],
        .record [("code", .null), ("id", .int 2)]] := by
  have hlength : (sent (runToTable ⟨.int 1, .null⟩ "select id, code from orders" [])
      (answering (.ok orders))).length = 1 := by decide +kernel
  have hsent := List.ne_nil_of_length_eq_add_one hlength
  obtain ⟨-, hshapes, -⟩ := reached_answering_orders.shapes_agree hsent rfl areKept_orders
  obtain ⟨-, hrecords⟩ := hshapes (.inr ⟨1, rfl, by decide, by decide⟩)
  exact ⟨reached_answering_orders, hsent, hrecords ["code", "id"] (.swap "id" "code" [])⟩

/-- A batch of 2⁶³ rows is refused, although the same rows are returned as tuples. -/
theorem shapes_not_agree_long : Table.AreKept ["id", "code"] orders.rows ∧
    (on (run ⟨.int (2 ^ 63), .null⟩ "select id, code from orders" [] .tuple)
      (answering (.ok orders))).1 = .ok (orders.rows.map .tuple) ∧
    (on (run ⟨.int (2 ^ 63), .null⟩ "select id, code from orders" [] .map)
      (answering (.ok orders))).1 = .error .longInteger := by
  have hlength : (sent (runToTable ⟨.int (2 ^ 63), .null⟩ "select id, code from orders" [])
      (answering (.ok orders))).length = 1 := by decide +kernel
  have htable := table_of_sent reached_answering_orders.held_of_connected
    (List.ne_nil_of_length_eq_add_one hlength) rfl
  obtain ⟨t, ht⟩ : ∃ t, Table.ofRows ["id", "code"] orders.rows = .ok t :=
    ⟨_, Table.ofRows_of_areKept areKept_orders⟩
  have hrun : ∀ shape, (on (run ⟨.int (2 ^ 63), .null⟩ "select id, code from orders" [] shape)
      (answering (.ok orders))).1 = shapeRows ⟨.int (2 ^ 63), .null⟩ shape t :=
    fun _ => on_run_of_ofRows (htable.trans ht)
  refine ⟨areKept_orders, ?_, ?_⟩
  · exact (hrun .tuple).trans (shapeRows_tuple_of_areKept areKept_orders ht)
  · have hmap : Shape.map ≠ .tuple := nofun
    exact (hrun .map).trans (shapeRows_of_long hmap rfl (Int.le_refl _) t)

end BoundSql.Session
