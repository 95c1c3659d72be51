import BoundSql.Proofs.Session.Secrecy
import BoundSql.Proofs.Sql.Rendering

/-! # What a query sends

A query is delivered if what it sends is the one statement it amounts to (`delivery`): the driver's
form of its text with its values in order, or nothing if the data source cannot be connected, the
parameters cannot be bound or no connection can be borrowed. It never sends anything else, and never
anything twice (`sent_query`). The one exception to delivery is a query that cannot be reported, since
its values are to be shown and cannot be written or the name of the data source cannot: it is withheld
(`Task.isWithheld`).

Whatever goes wrong comes out as one fault that keeps the wording of the cause (`outcome_query`). What
is sent depends on the connection and the answers to come and not on the past, so that the same query
on the same connection is delivered again (`Reached.query_delivered_iff`). -/

namespace BoundSql.Session

open Session.Action Outcome

variable {α : Type} {a : Action α} {s t : Session} {es : List Log.Event} {made : List Call} {q : Task}
  {sql : String} {args : List Value}

/-- The statements that an action sends. -/
def sent (a : Action α) (s : Session) : List Call :=
  ((on a s).2.calls.drop s.calls.length).filter Call.isStatement

/-- A statement can be sent to what the data source holds. -/
def lends (s : Session) : Bool :=
  match s.source.engine with
  | .duckdb => true
  | .postgresql => s.nextBorrow.isNone

/-- The statement that a query amounts to. -/
def delivery (q : Task) (s : Session) : List Call :=
  match on ensureConnected s with
  | (.error _, _) => []
  | (.ok _, t) =>
    match Placeholder.bind t.source.engine q.sql q.params with
    | .error _ => []
    | .ok (sql, args) => if t.lends then [.execute sql args] else []

/-- A query amounts to one statement or to nothing. -/
theorem length_delivery_le (q : Task) (s : Session) : (delivery q s).length ≤ 1 := by
  unfold delivery
  rcases on ensureConnected s with ⟨e | ⟨⟩, t⟩
  · exact Nat.zero_le 1
  dsimp only
  rcases Placeholder.bind t.source.engine q.sql q.params with e | ⟨sql, args⟩
  · exact Nat.zero_le 1
  dsimp only
  rcases t.lends with _ | _
  · exact Nat.zero_le 1
  · exact Nat.le_refl 1

theorem sent_of_calls (h : (on a s).2.calls = s.calls ++ made) :
    sent a s = made.filter Call.isStatement := by
  rw [sent, h, List.drop_left]

theorem sent_of_error {e : Fault} (h : on a s = (.error e, t)) (hcalls : t.calls = s.calls) :
    sent a s = [] := by
  have hnone : (on a s).2.calls = s.calls ++ [] := by rw [h, List.append_nil, hcalls]
  exact sent_of_calls hnone

/-! ### Statements -/

/-- An exchange is one statement, if there is something to send it to and it can be reported. -/
theorem Exchange.filter_isStatement (h : Exchange s sql args made) (hheld : s.source.held = true)
    (hname : s.source.name.hasLongNumeral = false) :
    made.filter Call.isStatement = if s.lends then [.execute sql args] else [] := by
  cases h with
  | idle hnot =>
    rcases hnot with hnot | hlong
    · cases hheld.symm.trans hnot
    · cases hname.symm.trans hlong
  | unreported _ _ _ hlong => cases hname.symm.trans hlong
  | file hengine =>
    rw [lends, hengine]
    rfl
  | refused hengine _ hborrow =>
    have hnot : s.nextBorrow.isNone = false :=
      Option.isNone_eq_false_iff.mpr (Option.isSome_iff_ne_none.mpr hborrow)
    rw [lends, hengine]
    simp only [hnot]
    rfl
  | pooled ending hengine _ hborrow hending =>
    have hnone : ending.filter Call.isStatement = [] := by
      refine List.filter_eq_nil_iff.mpr fun c hc hstatement => ?_
      have hc := hending c hc
      cases c <;> first | cases hstatement; done | cases hc
    rw [List.filter_append, List.filter_append, hnone, lends, hengine]
    simp only [hborrow]
    rfl

/-- A statement that cannot be reported is not sent. -/
theorem sent_execute_of_long (hheld : s.source.held = true)
    (hname : s.source.name.hasLongNumeral = true) : sent (execute sql args) s = [] := by
  cases hengine : s.source.engine with
  | duckdb =>
    have hon : on (execute sql args) s = (.error (.unwritable Text.numeralLimit), s) := by
      rw [on_execute_of_duckdb hengine, on_executeFile_of_held hheld]
      exact on_bind_error (on_reportExecution_of_long hname sql)
    exact sent_of_error hon rfl
  | postgresql =>
    rcases hborrow : s.nextBorrow with _ | f
    · have hcalls : (on (execute sql args) s).2.calls = s.calls ++ [.borrow, .giveBack] := by
        rw [on_execute_of_postgresql hengine, on_executePooled_of_long hheld hborrow hname]
        exact List.append_assoc ..
      exact sent_of_calls hcalls
    · have hcalls : (on (execute sql args) s).2.calls = s.calls ++ [.borrow] := by
        rw [on_execute_of_postgresql hengine, executePooled, on_borrowing_of_some hheld hborrow]
        rfl
      exact sent_of_calls hcalls

/-- **What a statement sends**, if there is something to send it to. -/
theorem sent_execute (hheld : s.source.held = true) : sent (execute sql args) s =
    if s.source.name.hasLongNumeral then [] else if s.lends then [.execute sql args] else [] := by
  cases hname : s.source.name.hasLongNumeral with
  | true => exact sent_execute_of_long hheld hname
  | false =>
    obtain ⟨made, hmade, htalks⟩ := asks_execute sql args s
    rw [sent_of_calls htalks.calls, hmade.filter_isStatement hheld hname]
    rfl

/-- Making sure that the data source is connected sends no statement. -/
theorem exists_calls_ensureConnected (s : Session) : ∃ made,
    (on ensureConnected s).2.calls = s.calls ++ made ∧ made.filter Call.isStatement = [] := by
  rcases hconnected : s.source.connected with _ | _
  · obtain ⟨made, hmade, -, -, hstatement⟩ := (opens_ensureConnected hconnected).calls
    refine ⟨made, hmade.calls, List.filter_eq_nil_iff.mpr fun c hc h => ?_⟩
    exact List.countP_eq_zero.mp hstatement c hc h
  · rw [on_ensureConnected_of_connected hconnected]
    exact ⟨[], (List.append_nil _).symm, rfl⟩

theorem sent_ensureConnected_bind {f : Unit → Action α} (h : on ensureConnected s = (.ok ⟨⟩, t))
    (hf : ∃ made, (on (f ⟨⟩) t).2.calls = t.calls ++ made) :
    sent (ensureConnected >>= f) s = sent (f ⟨⟩) t := by
  obtain ⟨opening, hopening, hnone⟩ := exists_calls_ensureConnected s
  obtain ⟨made, hmade⟩ := hf
  rw [h] at hopening
  have hcalls : (on (ensureConnected >>= f) s).2.calls = s.calls ++ (opening ++ made) := by
    rw [on_bind_ok h, hmade, hopening, List.append_assoc]
  rw [sent_of_calls hcalls, sent_of_calls hmade, List.filter_append, hnone, List.nil_append]

/-- Something is held once the data source has been connected. -/
theorem held_of_ensureConnected (hs : s.source.connected = true → s.source.held = true)
    (h : on ensureConnected s = (.ok ⟨⟩, t)) : t.source.held = true ∧ t.source.connected = true := by
  rcases hconnected : s.source.connected with _ | _
  · have hopens := opens_ensureConnected hconnected
    rw [h] at hopens
    rw [hopens.of_ok.1]
    exact ⟨rfl, rfl⟩
  · rw [on_ensureConnected_of_connected hconnected] at h
    cases h
    exact ⟨hs hconnected, hconnected⟩

/-- Values that are not to be shown, or can be written, are shown. -/
theorem Task.exists_shownValues
    (hbind : Placeholder.bind s.source.engine q.sql q.params = .ok (sql, args))
    (h : q.isUnwritable s.source.engine = false) : ∃ shown, shownValues q.config args = .ok shown := by
  rw [Task.isUnwritable_of_bind hbind] at h
  rcases htruthy : q.config.logParameters.truthy with _ | _
  · exact ⟨"", by rw [shownValues, htruthy]; rfl⟩
  · rw [htruthy, Bool.true_and] at h
    rw [Task.shownValues_of_truthy htruthy, h]
    exact ⟨_, rfl⟩

/-- A query on this data source cannot be reported: its values are to be shown and cannot be written,
or the name of the data source cannot. -/
def Task.isWithheld (q : Task) (source : Source) : Bool :=
  source.name.hasLongNumeral || q.isUnwritable source.engine

theorem sent_runConnected (hheld : s.source.held = true) :
    sent (runConnected q.config q.sql q.params) s =
      if q.isWithheld s.source then [] else
        match Placeholder.bind s.source.engine q.sql q.params with
        | .error _ => []
        | .ok (sql, args) => if s.lends then [.execute sql args] else [] := by
  rcases hbind : Placeholder.bind s.source.engine q.sql q.params with e | ⟨sql, args⟩
  · have hon : on (runConnected q.config q.sql q.params) s = (.error e, s) := by
      unfold runConnected
      rw [on_bind_ok (on_get s)]
      dsimp only
      rw [hbind]
      exact on_bind_error (on_check (.error e) s)
    rw [sent_of_error hon rfl, ite_self]
  rw [Task.isWithheld]
  rcases hunwritable : q.isUnwritable s.source.engine with _ | _
  · obtain ⟨shown, hshown⟩ := Task.exists_shownValues hbind hunwritable
    have hsent : sent (runConnected q.config q.sql q.params) s =
        sent (execute sql args) (s.addEvents [running s.source.name sql shown]) := by
      rw [sent, sent, on_runConnected_of_shown hbind hshown]
      rfl
    rw [hsent, sent_execute (s := s.addEvents _) hheld, Bool.or_false]
    rfl
  · obtain ⟨f, hon⟩ := on_runConnected_of_isUnwritable hunwritable
    rw [sent_of_error hon rfl, Bool.or_true]
    rfl

/-- **What a query sends**, unless it is withheld, is what it amounts to. -/
theorem sent_runToTable (hs : s.source.connected = true → s.source.held = true) :
    sent (runToTable q.config q.sql q.params) s =
      if q.isWithheld s.source then [] else delivery q s := by
  rw [runToTable_eq]
  rcases hon : on ensureConnected s with ⟨e | ⟨⟩, t⟩
  · obtain ⟨made, hmade, hnone⟩ := exists_calls_ensureConnected s
    rw [hon] at hmade
    have hsent : sent (ensureConnected >>= fun _ => runConnected q.config q.sql q.params) s = [] := by
      refine (sent_of_calls ?_).trans hnone
      rw [on_bind_error hon, hmade]
    rw [hsent, delivery, hon, ite_self]
  · have hwithheld : q.isWithheld s.source = q.isWithheld t.source := by
      have hengine := engine_ensureConnected s
      have hname := name_ensureConnected s
      rw [hon] at hengine hname
      rw [Task.isWithheld, Task.isWithheld, hengine, hname]
    obtain ⟨made, htalks, -⟩ := (speaks_runConnected q.config q.sql q.params t).calls
    rw [sent_ensureConnected_bind hon ⟨made, htalks.calls⟩,
      sent_runConnected (held_of_ensureConnected hs hon).1, delivery, hon, hwithheld]

/-! ### Queries of a builder -/

/-- What has been reported does not matter. -/
theorem alike_addEvents (s : Session) (es : List Log.Event) :
    (s.addEvents es).Alike (fun _ _ => True) s :=
  ⟨.refl _, rfl, List.forall₂_same.mpr fun c _ => .same c, trivial⟩

theorem lends_of_alike {E : List Log.Event → List Log.Event → Prop} (h : s.Alike E t) :
    s.lends = t.lends := by
  rw [lends, lends, h.source.engine, nextBorrow, nextBorrow, h.replies]

/-- What a query amounts to depends on the data source and the answers to come. -/
theorem delivery_of_alike {E : List Log.Event → List Log.Event → Prop} (hE : Steady E)
    (h : s.Alike E t) : delivery q s = delivery q t := by
  have hagree := Action.Alike.ensureConnected hE s t h
  unfold delivery
  rcases hs : on ensureConnected s with ⟨e | ⟨⟩, s'⟩ <;>
    rcases ht : on ensureConnected t with ⟨e' | ⟨⟩, t'⟩ <;> rw [hs, ht] at hagree
  case error.ok => cases hagree.outcome
  case ok.error => cases hagree.outcome
  case ok.ok =>
    dsimp only
    rw [hagree.session.source.engine, lends_of_alike hagree.session]

variable {b : Builder} {config : ExecutorConfig} {shape : Shape}

theorem on_query (hsql : b.sql = .ok sql) (config : ExecutorConfig) (shape : Shape) (s : Session) :
    ∃ es, on (query config b shape) s =
    ((on (run config sql b.paramMap shape) (s.addEvents es)).1.mapError .persisting,
      (on (runToTable config sql b.paramMap) (s.addEvents es)).2) := by
  refine ⟨[⟨Log.debug, builderLogger, "Prepared query " ++ sql, none⟩], ?_⟩
  have hsnd := on_run_snd config sql b.paramMap shape
    (s.addEvents [⟨Log.debug, builderLogger, "Prepared query " ++ sql, none⟩])
  unfold query
  rw [hsql, on_bind_ok (on_check (.ok sql) s), on_bind_ok (on_report ..), on_tryCatch, ← hsnd]
  rcases on (run config sql b.paramMap shape) (s.addEvents _) with ⟨e | rows, t⟩ <;> rfl

/-- **What a query of a builder sends.** -/
theorem sent_query (hs : s.source.connected = true → s.source.held = true) (hsql : b.sql = .ok sql) :
    sent (query config b shape) s =
      if (Task.mk config sql b.paramMap).isWithheld s.source then []
      else delivery ⟨config, sql, b.paramMap⟩ s := by
  obtain ⟨es, hon⟩ := on_query hsql config shape s
  have hsent : sent (query config b shape) s =
      sent (runToTable config sql b.paramMap) (s.addEvents es) := by
    rw [sent, sent, hon]
    rfl
  rw [hsent, sent_runToTable (q := ⟨config, sql, b.paramMap⟩) (s := s.addEvents es) hs,
    delivery_of_alike (fun _ _ _ _ => trivial) (alike_addEvents s es)]
  rfl

/-- **What comes of a query of a builder:** the rows, or the fault that stopped it, marked as such. -/
theorem outcome_query (hsql : b.sql = .ok sql) (s : Session) : (on (query config b shape) s).1 =
    (on (run config sql b.paramMap shape) s).1.mapError .persisting := by
  obtain ⟨es, hon⟩ := on_query hsql config shape s
  have hshown : ∀ e, (Task.mk config sql b.paramMap).ShownAlike (fun _ _ => True) e
      ⟨config, sql, b.paramMap⟩ := by
    intro e sql sql' args args' hbind hbind'
    cases hbind.symm.trans hbind'
    exact .refl (fun _ _ _ _ _ _ => trivial) _
  have hagree := Task.Alike.agree_run (q := ⟨config, sql, b.paramMap⟩) (fun _ _ _ _ => trivial)
    ⟨rfl, rfl, rfl⟩ (alike_addEvents s es) (fun _ => hshown _) shape
  rw [hon]
  exact congrArg (Except.mapError Fault.persisting) hagree.outcome

/-- Whatever counts as connected holds something. -/
theorem Reached.held_of_connected {allowed : Use → Session → Prop} {source : Source}
    {replies : Replies} (h : Reached allowed (Session.start source.closed replies) s) :
    s.source.connected = true → s.source.held = true := by
  have hspeaks : ∀ {s t : Session}, Speaks s t → t.source = s.source := by
    intro s t h
    obtain ⟨made, htalks, -⟩ := h.calls
    exact htalks.source
  induction h with
  | start => exact nofun
  | @use s _ u _ ih =>
    have hgoes := goes_after u s
    generalize u.opens s = opens at hgoes
    cases hgoes with
    | runs hruns =>
      cases hruns with
      | speaks h =>
        rw [hspeaks h]
        exact ih
      | opens t outcome hopens h =>
        rw [hspeaks h]
        cases hopens with
        | unprepared _ _ _ htalks => exact htalks.source ▸ ih
        | refused _ _ _ _ _ _ _ htalks => exact htalks.source ▸ ih
        | opened _ _ _ _ _ _ _ hsource => exact fun _ => hsource ▸ rfl
        | exhausted _ _ _ _ _ _ _ _ _ hsource => exact fun _ => hsource ▸ rfl
    | closes idle outcome hidle hcloses =>
      cases hcloses with
      | nothing _ _ hsource =>
        rw [hsource]
        rcases hidle with rfl | rfl
        · exact ih
        · exact nofun
      | closed _ _ _ _ _ hsource =>
        rw [hsource]
        exact nofun
      | unreported _ _ _ _ _ htalks =>
        rw [htalks.source]
        exact ih

/-- **The same again.** A query sends the same on the connection that it would open, if the answers to
come are the same. -/
theorem sent_query_again (hs : s.source.connected = true → s.source.held = true)
    (hsql : b.sql = .ok sql) {opened : Session} (hconnect : on ensureConnected s = (.ok ⟨⟩, opened))
    (hsource : t.source = opened.source) (hreplies : t.replies = opened.replies) :
    sent (query config b shape) t = sent (query config b shape) s := by
  have hengine := engine_ensureConnected s
  have hname := name_ensureConnected s
  rw [hconnect] at hengine hname
  obtain ⟨hheld, hconnected⟩ := held_of_ensureConnected hs hconnect
  have ht : t.source.connected = true → t.source.held = true := fun _ => hsource ▸ hheld
  have hon : on ensureConnected t = (.ok ⟨⟩, t) :=
    on_ensureConnected_of_connected (by rw [hsource]; exact hconnected)
  have hlends : t.lends = opened.lends := by
    rw [lends, lends, hsource, nextBorrow, nextBorrow, hreplies]
  have hdelivery : delivery ⟨config, sql, b.paramMap⟩ t = delivery ⟨config, sql, b.paramMap⟩ s := by
    rw [delivery, delivery, hon, hconnect]
    dsimp only
    rw [hsource, hlends]
  rw [sent_query hs hsql, sent_query ht hsql, hdelivery, hsource, Task.isWithheld, Task.isWithheld,
    hengine, hname]

/-- **The delivery of a query.** However the data source has been used before, and whatever the driver
answers, the text of a query whose pieces are texts can be put together, and the query:

* sends at most one statement;
* sends what it amounts to, exactly unless that is a statement and cannot be reported, since its values
  are to be shown and cannot be written or the name of the data source cannot: then it sends nothing;
* returns its rows, or fails with one kind of fault that has the wording of its cause;
* if the data source can be connected, sends the same again on the same connection with the same
  answers to come. -/
theorem Reached.query_delivered_iff {allowed : Use → Session → Prop} {source : Source}
    {replies : Replies} (h : Reached allowed (Session.start source.closed replies) s)
    (htext : ∀ v ∈ b.parts, v.isText = true) (config : ExecutorConfig) (shape : Shape) :
    ∃ sql, b.sql = .ok sql ∧ (sent (query config b shape) s).length ≤ 1 ∧
    (sent (query config b shape) s = delivery ⟨config, sql, b.paramMap⟩ s ↔
      ¬(delivery ⟨config, sql, b.paramMap⟩ s ≠ [] ∧
        (Task.mk config sql b.paramMap).isWithheld s.source = true)) ∧
    (sent (query config b shape) s ≠ delivery ⟨config, sql, b.paramMap⟩ s →
      sent (query config b shape) s = []) ∧
    ((∃ rows, (on (query config b shape) s).1 = .ok rows ∧
        (on (run config sql b.paramMap shape) s).1 = .ok rows) ∨
      ∃ f cause, (on (query config b shape) s).1 = .error f ∧
        (on (run config sql b.paramMap shape) s).1 = .error cause ∧
        f.family = .persisting ∧ f.message = cause.message) ∧
    ∀ opened t, on ensureConnected s = (.ok ⟨⟩, opened) → t.source = opened.source →
      t.replies = opened.replies →
      sent (query config b shape) t = sent (query config b shape) s := by
  obtain ⟨sql, hsql⟩ : ∃ sql, b.sql = .ok sql := ⟨_, joinTexts_of_isText htext ""⟩
  have hs := h.held_of_connected
  have hsent : sent (query config b shape) s = _ := sent_query hs hsql
  refine ⟨sql, hsql, ?_, ?_, ?_, ?_, fun opened t => sent_query_again hs hsql⟩
  · rw [hsent]
    split
    · exact Nat.zero_le 1
    · exact length_delivery_le ..
  · rw [hsent]
    rcases (Task.mk config sql b.paramMap).isWithheld s.source with _ | _
    · exact iff_of_true rfl fun hboth => nomatch hboth.2
    · refine ⟨fun hsame hboth => hboth.1 hsame.symm, fun hnot => ?_⟩
      by_contra hne
      exact hnot ⟨Ne.symm hne, rfl⟩
  · rw [hsent]
    rcases (Task.mk config sql b.paramMap).isWithheld s.source with _ | _
    · exact fun hne => absurd rfl hne
    · exact fun _ => rfl
  · rw [outcome_query hsql]
    rcases (on (run config sql b.paramMap shape) s).1 with cause | rows
    · exact .inr ⟨.persisting cause, cause, rfl, rfl, rfl, rfl⟩
    · exact .inl ⟨rows, rfl, rfl⟩

/-- A query for orders with this code, put together. -/
def codeQuery (code : Value) : Builder :=
  ⟨[.text "select id from orders where code = ?1"], [], [(1, code)], 1⟩

/-- A driver that breaks while it runs the first statement. -/
def breaking : Replies := ⟨[], [], [.error (.broken "gone")]⟩

/-- A statement that fails has been sent all the same, and once. -/
theorem Reached.query_delivered_iff_breaking :
    Reached (fun _ _ => True) (Session.start shop.closed breaking)
      (Session.start shop.closed breaking) ∧
    (∀ v ∈ (codeQuery (.int 7)).parts, v.isText = true) ∧
    (sent (query ⟨.null, .bool true⟩ (codeQuery (.int 7)) .map)
      (Session.start shop.closed breaking)).length = 1 ∧
    ∃ f, (on (query ⟨.null, .bool true⟩ (codeQuery (.int 7)) .map)
      (Session.start shop.closed breaking)).1 = .error f ∧ f.family = .persisting := by
  have hreached : Reached (fun _ _ => True) (Session.start shop.closed breaking)
    (Session.start shop.closed breaking) := .start
  have htext : ∀ v ∈ (codeQuery (.int 7)).parts, v.isText = true := by decide
  have hfails : (on (query ⟨.null, .bool true⟩ (codeQuery (.int 7)) .map)
      (Session.start shop.closed breaking)).1.isOk = false := by decide +kernel
  obtain ⟨sql, hsql, -, hiff, -, houtcome, -⟩ := hreached.query_delivered_iff htext
    ⟨.null, .bool true⟩ .map
  obtain rfl : sql = "select id from orders where code = ?1" := (Except.ok.inj hsql).symm
  have hwritable : (Task.mk ⟨.null, .bool true⟩ "select id from orders where code = ?1"
      (codeQuery (.int 7)).paramMap).isWithheld shop.closed = false := by decide +kernel
  have hdelivery : (delivery ⟨⟨.null, .bool true⟩, "select id from orders where code = ?1",
      (codeQuery (.int 7)).paramMap⟩ (Session.start shop.closed breaking)).length = 1 := by
    decide +kernel
  refine ⟨hreached, htext, ?_, ?_⟩
  · rw [hiff.mpr fun hboth => Bool.false_ne_true (hwritable.symm.trans hboth.2), hdelivery]
  · obtain ⟨rows, hrows, -⟩ | ⟨f, cause, hf, -, hfamily, -⟩ := houtcome
    · rw [hrows] at hfails
      cases hfails
    · exact ⟨f, hf, hfamily⟩

/-- A query for a number that is to be shown and cannot be written amounts to a statement on a database
that can be connected, and is not sent. -/
theorem query_not_delivered_longCode :
    (∀ v ∈ (codeQuery longCode).parts, v.isText = true) ∧
    (on ensureConnected (Session.start shop .success)).1.isOk = true ∧
    (delivery ⟨⟨.null, .bool true⟩, "select id from orders where code = ?1",
      (codeQuery longCode).paramMap⟩ (Session.start shop .success)).length = 1 ∧
    (sent (query ⟨.null, .bool true⟩ (codeQuery longCode) .map)
      (Session.start shop .success)).length = 0 := by
  refine ⟨by decide, by decide +kernel, by decide +kernel, by decide +kernel⟩

end BoundSql.Session
