import BoundSql.Proofs.Session.Opening

/-! # The calls of a statement

A statement is one exchange with the driver (`Exchange`). On a database file it is the one call that
sends it. On a pool a connection is borrowed first; if that succeeds, the statement is sent, the
transaction may be ended, and the connection is given back whatever happened. Listing tables,
describing a table and running a query are such statements (`asks_listTables`, `asks_describe`,
`asks_execute`); without anything to send them to they make no call at all. A query is reported before
it is sent, and on a data source whose name is too long for that it is not sent. -/

namespace BoundSql

namespace Call

/-- The call ends a transaction. -/
def isEnding : Call → Bool
  | commit | rollback => true
  | _ => false

end Call

namespace Session

open Session.Action Outcome

variable {α β : Type}

/-! ### Actions on a connection -/

/-- What the driver answers next to a statement. -/
def nextResult (s : Session) : Except DriverFault ResultSet :=
  s.replies.results.head?.getD (.ok ⟨some [], []⟩)

/-- The session after a statement has been sent, whether or not it succeeded. -/
def afterStatement (s : Session) (sql : String) (args : List Value) : Session :=
  { s.addCalls [.execute sql args] with
    replies := { s.replies with results := s.replies.results.drop 1 } }

theorem on_send (sql : String) (args : List Value) (s : Session) : on (send sql args) s =
    (s.nextResult.mapError DriverFault.toFault, s.afterStatement sql args) := by
  have hreply : on (perform (.execute sql args) >>= fun _ => resultReply) s =
      (.ok s.nextResult, s.afterStatement sql args) := rfl
  unfold send
  rw [← bind_assoc, on_bind_ok hreply]
  cases s.nextResult <;> rfl

theorem talks_afterStatement (s : Session) (sql : String) (args : List Value) :
    s.Talks (s.afterStatement sql args) [.execute sql args] := ⟨⟨rfl, rfl, rfl, rfl⟩, rfl⟩

theorem on_reportExecution_of_short {s : Session} (h : s.source.name.hasLongNumeral = false)
    (sql : String) : ∃ es, on (reportExecution sql) s = (.ok ⟨⟩, s.addEvents es) := by
  unfold reportExecution
  rw [on_bind_ok (on_get s), on_bind_shown_of_short h]
  exact ⟨_, rfl⟩

theorem on_reportExecution_of_long {s : Session} (h : s.source.name.hasLongNumeral = true)
    (sql : String) : on (reportExecution sql) s = (.error (.unwritable Text.numeralLimit), s) := by
  unfold reportExecution
  rw [on_bind_ok (on_get s), on_bind_shown_of_long h]

/-- The action ends transactions at most: it makes no other calls, and leaves the data source as it
is. -/
def Settles (a : Action α) : Prop :=
  ∀ s : Session, ∃ ending : List Call, (∀ c ∈ ending, c.isEnding = true) ∧
    s.Talks (on a s).2 ending

/-- The action sends this statement first, and then ends transactions at most, if performed on this
session. -/
def Sends (sql : String) (args : List Value) (a : Action α) (s : Session) : Prop :=
  ∃ ending : List Call, (∀ c ∈ ending, c.isEnding = true) ∧
    s.Talks (on a s).2 (.execute sql args :: ending)

namespace Settles

theorem check (x : Outcome α) : Settles (Session.check x) :=
  fun s => ⟨[], by simp, Talks.refl s⟩

theorem throw (f : Fault) : Settles (MonadExcept.throw f : Action α) :=
  fun s => ⟨[], by simp, Talks.refl s⟩

theorem reportSource (level : Log.Level) (message : String) :
    Settles (Session.reportSource level message) :=
  fun s => ⟨[], by simp, Talks.addEvents s _⟩

theorem perform {c : Call} (hc : c.isEnding = true) : Settles (Session.perform c) := by
  refine fun s => ⟨[c], by simpa using hc, ?_⟩
  cases c <;> cases hc <;> exact ⟨⟨rfl, rfl, rfl, rfl⟩, rfl⟩

theorem bind {x : Action α} {f : α → Action β} (hx : Settles x) (hf : ∀ a, Settles (f a)) :
    Settles (x >>= f) := by
  intro s
  obtain ⟨ending, hending, htalks⟩ := hx s
  rcases hon : on x s with ⟨e | a, s'⟩ <;> rw [hon] at htalks
  · rw [on_bind_error hon]
    exact ⟨ending, hending, htalks⟩
  · obtain ⟨ending', hending', htalks'⟩ := hf a s'
    rw [on_bind_ok hon]
    exact ⟨ending ++ ending', List.forall_mem_append.mpr ⟨hending, hending'⟩, htalks.trans htalks'⟩

theorem get_bind {f : Session → Action β} (hf : ∀ s, Settles (f s)) : Settles (get >>= f) :=
  fun s => hf s s

end Settles

namespace Sends

variable {sql : String} {args : List Value}

theorem send (s : Session) : Sends sql args (Session.send sql args) s := by
  rw [Sends, on_send]
  exact ⟨[], by simp, talks_afterStatement s sql args⟩

theorem bind {x : Action α} {f : α → Action β} {s : Session} (hx : Sends sql args x s)
    (hf : ∀ a, Settles (f a)) : Sends sql args (x >>= f) s := by
  obtain ⟨ending, hending, htalks⟩ := hx
  rcases hon : on x s with ⟨e | a, s'⟩ <;> rw [hon] at htalks
  · rw [Sends, on_bind_error hon]
    exact ⟨ending, hending, htalks⟩
  · obtain ⟨ending', hending', htalks'⟩ := hf a s'
    rw [Sends, on_bind_ok hon]
    exact ⟨ending ++ ending', List.forall_mem_append.mpr ⟨hending, hending'⟩, htalks.trans htalks'⟩

/-- The execution may be reported first. -/
theorem reportExecution_bind (shown : String) {f : Unit → Action β} {s : Session}
    (hname : s.source.name.hasLongNumeral = false)
    (hf : ∀ es, Sends sql args (f ⟨⟩) (s.addEvents es)) :
    Sends sql args (reportExecution shown >>= f) s := by
  obtain ⟨es, hon⟩ := on_reportExecution_of_short hname shown
  obtain ⟨ending, hending, htalks⟩ := hf es
  rw [Sends, on_bind_ok hon]
  exact ⟨ending, hending, (Talks.addEvents s es).trans htalks⟩

/-- Whatever is done about a refusal comes after the statement. -/
theorem onRefusal {a : Action α} {g : String → Action Unit} {s : Session} (ha : Sends sql args a s)
    (hg : ∀ m, Settles (g m)) : Sends sql args (Session.onRefusal a g) s := by
  obtain ⟨ending, hending, htalks⟩ := ha
  unfold Session.onRefusal
  rw [Sends, on_tryCatch]
  rcases hon : on a s with ⟨e | x, s'⟩ <;> rw [hon] at htalks
  · cases e with
    | driver m =>
      obtain ⟨ending', hending', htalks'⟩ := ((hg m).bind fun _ => Settles.throw (.driver m)) s'
      exact ⟨ending ++ ending', List.forall_mem_append.mpr ⟨hending, hending'⟩,
        htalks.trans htalks'⟩
    | _ => exact ⟨ending, hending, htalks⟩
  · exact ⟨ending, hending, htalks⟩

end Sends

/-! ### Borrowed connections -/

variable {s s' : Session} {a : Action α} {refused : String → Action Unit}

/-- How a statement fails if there is nothing to send it to: the failure shows the name of the data
source. -/
def unconnected (source : Source) : Fault :=
  if source.name.hasLongNumeral then .unwritable Text.numeralLimit
  else .notConnected source.name.plain

theorem on_unconnected {f : String → Action α}
    (hf : ∀ name, on (f name) s = (.error (.notConnected name), s)) :
    on (check s.source.name.shown >>= f) s = (.error (unconnected s.source), s) := by
  unfold unconnected
  cases hname : s.source.name.hasLongNumeral with
  | false => exact (on_bind_shown_of_short hname f s).trans (hf _)
  | true => exact on_bind_shown_of_long hname f s

theorem on_borrowing_of_not_held (h : s.source.held = false) :
    on (borrowing a refused) s = (.error (unconnected s.source), s) := by
  unfold borrowing
  rw [on_bind_ok (on_get s)]
  dsimp only
  rw [h]
  exact on_unconnected fun _ => rfl

theorem on_borrowing_of_held (h : s.source.held = true) : on (borrowing a refused) s = on (do
    demand s.nextBorrow
    finishing (onRefusal a refused) giveBack) s.afterBorrowing := by
  unfold borrowing
  rw [on_bind_ok (on_get s)]
  dsimp only
  rw [h]
  rfl

/-- What is performed at the end is performed in any case, and the outcome is that of the action. -/
theorem on_finishing {last : Action Unit} {r : Outcome α} {s'' : Session} (ha : on a s = (r, s'))
    (hlast : on last s' = (.ok ⟨⟩, s'')) : on (finishing a last) s = (r, s'') := by
  have htry : on (tryCatch (Except.ok <$> a) fun fault => pure (.error fault) : Action (Outcome α)) s =
      (.ok r, s') := by
    rw [on_tryCatch]
    rcases r with e | x
    · have hmap : on (Except.ok <$> a : Action (Outcome α)) s = (.error e, s') := by
        rw [map_eq_pure_bind]
        exact on_bind_error ha
      rw [hmap]
      rfl
    · have hmap : on (Except.ok <$> a : Action (Outcome α)) s = (.ok (.ok x), s') := by
        rw [map_eq_pure_bind, on_bind_ok ha]
        rfl
      rw [hmap]
  unfold finishing
  rw [on_bind_ok htry, on_bind_ok hlast]
  rfl

theorem on_giveBack_of_held (h : s.source.held = true) :
    on giveBack s = (.ok ⟨⟩, s.addCalls [.giveBack]) := by
  unfold giveBack
  rw [on_bind_ok (on_get s), h]
  rfl

/-! ### Statements -/

/-- The calls that a statement can make. -/
inductive Exchange (s : Session) (sql : String) (args : List Value) : List Call → Prop
  /-- There is nothing to send it to, or it cannot be reported. -/
  | idle : s.source.held = false ∨ s.source.name.hasLongNumeral = true → Exchange s sql args []
  | file : s.source.engine = .duckdb → s.source.held = true → Exchange s sql args [.execute sql args]
  /-- No connection could be borrowed. -/
  | refused : s.source.engine = .postgresql → s.source.held = true → s.nextBorrow ≠ none →
      Exchange s sql args [.borrow]
  /-- A connection is borrowed, but the statement cannot be reported. -/
  | unreported : s.source.engine = .postgresql → s.source.held = true → s.nextBorrow = none →
      s.source.name.hasLongNumeral = true → Exchange s sql args [.borrow, .giveBack]
  /-- A connection is borrowed, used and given back. -/
  | pooled (ending : List Call) : s.source.engine = .postgresql → s.source.held = true →
      s.nextBorrow = none → (∀ c ∈ ending, c.isEnding = true) →
      Exchange s sql args ([.borrow, .execute sql args] ++ ending ++ [.giveBack])

/-- Events that were reported before do not matter. -/
theorem Exchange.of_addEvents {es : List Log.Event} {sql : String} {args : List Value}
    {made : List Call} (h : Exchange (s.addEvents es) sql args made) : Exchange s sql args made := by
  cases h with
  | idle h => exact .idle h
  | file h h' => exact .file h h'
  | refused h h' h'' => exact .refused h h' h''
  | unreported h h' h'' hname => exact .unreported h h' h'' hname
  | pooled ending h h' h'' hending => exact .pooled ending h h' h'' hending

theorem Exchange.isQuiet {sql : String} {args : List Value} {made : List Call}
    (h : Exchange s sql args made) :
    ∀ c ∈ made, c.isQuiet = true := by
  cases h with
  | idle => exact List.forall_mem_nil _
  | file => exact List.forall_mem_singleton.mpr rfl
  | refused => exact List.forall_mem_singleton.mpr rfl
  | unreported => exact List.forall_mem_cons.mpr ⟨rfl, List.forall_mem_singleton.mpr rfl⟩
  | pooled ending _ _ _ hending =>
    have hquiet : ∀ c ∈ ending, c.isQuiet = true := by
      intro c hc
      have hc := hending c hc
      cases c <;> first | rfl | cases hc
    have hfirst : ∀ c ∈ [Call.borrow, .execute sql args], c.isQuiet = true :=
      List.forall_mem_cons.mpr ⟨rfl, List.forall_mem_singleton.mpr rfl⟩
    exact List.forall_mem_append.mpr
      ⟨List.forall_mem_append.mpr ⟨hfirst, hquiet⟩, List.forall_mem_singleton.mpr rfl⟩

/-- There is no statement without anything to send it to. -/
theorem Exchange.held {sql : String} {args : List Value} {made : List Call}
    (h : Exchange s sql args made) :
    ∀ c ∈ made, c.isStatement = true → s.source.held = true := by
  cases h with
  | idle => simp
  | file _ hheld => exact fun _ _ _ => hheld
  | refused _ hheld => exact fun _ _ _ => hheld
  | unreported _ hheld => exact fun _ _ _ => hheld
  | pooled _ _ hheld => exact fun _ _ _ => hheld

/-- There is one statement at most. -/
theorem Exchange.countP_isStatement_le {sql : String} {args : List Value} {made : List Call}
    (h : Exchange s sql args made) : made.countP Call.isStatement ≤ 1 := by
  cases h with
  | idle => exact Nat.zero_le 1
  | file => exact Nat.le_refl 1
  | refused => exact Nat.zero_le 1
  | unreported => exact Nat.zero_le 1
  | pooled ending _ _ _ hending =>
    have hnone : ending.countP Call.isStatement = 0 := by
      refine List.countP_eq_zero.mpr fun c hc hstatement => ?_
      have hc := hending c hc
      cases c <;> first | cases hstatement; done | cases hc
    rw [List.countP_append, List.countP_append, hnone]
    exact Nat.le_refl 1

/-- The action is this statement, if performed on this session. -/
def Asks (a : Action α) (s : Session) (sql : String) (args : List Value) : Prop :=
  ∃ made, Exchange s sql args made ∧ s.Talks (on a s).2 made

variable {sql : String} {args : List Value}

/-- What is done on a borrowed connection goes on from there, and then the connection is given
back. -/
theorem on_borrowing_of_none (hheld : s.source.held = true) (hborrow : s.nextBorrow = none)
    {r : Outcome α} (hon : on (onRefusal a refused) s.afterBorrowing = (r, s'))
    (hsame : s'.source.held = true) :
    on (borrowing a refused) s = (r, s'.addCalls [.giveBack]) := by
  rw [on_borrowing_of_held hheld, hborrow, on_bind_ok (on_demand_none _),
    on_finishing hon (on_giveBack_of_held hsame)]

theorem on_borrowing_of_some {f : DriverFault} (hheld : s.source.held = true)
    (hborrow : s.nextBorrow = some f) :
    on (borrowing a refused) s = (.error f.toFault, s.afterBorrowing) := by
  rw [on_borrowing_of_held hheld, hborrow, on_bind_error (on_demand_some f _)]

/-- An action on a borrowed connection is a statement if it is one whenever there is a connection. -/
theorem asks_borrowing (hengine : s.source.engine = .postgresql)
    (ha : s.source.held = true → s.nextBorrow = none → Asks (borrowing a refused) s sql args) :
    Asks (borrowing a refused) s sql args := by
  rcases hheld : s.source.held with _ | _
  · rw [Asks, on_borrowing_of_not_held hheld]
    exact ⟨[], .idle (Or.inl hheld), Talks.refl s⟩
  rcases hborrow : s.nextBorrow with _ | fault
  · exact ha hheld hborrow
  · rw [Asks, on_borrowing_of_some hheld hborrow]
    refine ⟨[.borrow], .refused hengine hheld ?_, talks_afterBorrowing s⟩
    rw [hborrow]
    exact Option.some_ne_none fault

theorem talks_giveBack (s : Session) : s.Talks (s.addCalls [.giveBack]) [.giveBack] :=
  ⟨⟨rfl, rfl, rfl, rfl⟩, rfl⟩

theorem asks_borrowing_of_sends (hengine : s.source.engine = .postgresql)
    (ha : Sends sql args a s.afterBorrowing) (hrefused : ∀ m, Settles (refused m)) :
    Asks (borrowing a refused) s sql args := by
  refine asks_borrowing hengine fun hheld hborrow => ?_
  obtain ⟨ending, hending, htalks⟩ := ha.onRefusal hrefused
  rcases hon : on (onRefusal a refused) s.afterBorrowing with ⟨r, s'⟩
  rw [hon] at htalks
  have hheld' : s'.source.held = true := by
    rw [htalks.source]
    exact hheld
  rw [Asks, on_borrowing_of_none hheld hborrow hon hheld']
  refine ⟨_, .pooled ending hengine hheld hborrow hending, ?_⟩
  exact ((talks_afterBorrowing s).trans htalks).trans (talks_giveBack s')

/-- What is done with the result afterwards does not matter if it changes nothing. -/
theorem Asks.bind_check {x : Action α} {f : α → Outcome β} (h : Asks x s sql args) :
    Asks (x >>= fun r => check (f r)) s sql args := by
  obtain ⟨made, hmade, htalks⟩ := h
  refine ⟨made, hmade, ?_⟩
  rcases hon : on x s with ⟨e | r, s'⟩ <;> rw [hon] at htalks
  · rw [on_bind_error hon]
    exact htalks
  · rw [on_bind_ok hon]
    exact htalks

theorem asks_send (hengine : s.source.engine = .duckdb) (hheld : s.source.held = true) :
    Asks (send sql args) s sql args := by
  rw [Asks, on_send]
  exact ⟨_, .file hengine hheld, talks_afterStatement s sql args⟩

theorem asks_inspect (query : Engine → String) (args : List Value) (failure : Outcome String)
    (read : Engine → ResultSet → Outcome α) (s : Session) :
    Asks (inspect query args failure read) s (query s.source.engine) args := by
  rcases hengine : s.source.engine with _ | _
  · rcases hheld : s.source.held with _ | _
    · have hon : on (inspect query args failure read) s =
          (.error (.misuse (.member "NoneType" "execute")), s) := by
        unfold inspect
        rw [on_bind_ok (on_get s)]
        dsimp only
        rw [hengine, hheld]
        rfl
      rw [Asks, hon]
      exact ⟨[], .idle (Or.inl hheld), Talks.refl s⟩
    · have hon : on (inspect query args failure read) s =
          on (send (query .duckdb) args >>= fun r => check (read .duckdb r)) s := by
        unfold inspect
        rw [on_bind_ok (on_get s)]
        dsimp only
        rw [hengine, hheld]
        rfl
      rw [Asks, hon]
      exact (asks_send hengine hheld).bind_check
  · have hon : on (inspect query args failure read) s = on (borrowing (do
        check (read .postgresql (← send (query .postgresql) args)))
        fun m => do reportSource Log.error ((← check failure) ++ ": " ++ m)) s := by
      unfold inspect
      rw [on_bind_ok (on_get s)]
      dsimp only
      rw [hengine]
    rw [Asks, hon]
    refine asks_borrowing_of_sends hengine ((Sends.send _).bind fun r => .check _) fun m => ?_
    exact (Settles.check failure).bind fun _ => .reportSource _ _

theorem asks_listTables (schema : Value) (s : Session) :
    Asks (listTables schema) s (tablesQuery s.source.engine) [schema] := asks_inspect ..

theorem asks_describe (schema table : Value) (s : Session) :
    Asks (describe schema table) s (columnsQuery s.source.engine) [schema, table] := by
  have hdescribe : describe schema table = (do
      let columns ← inspect columnsQuery [schema, table]
        (do return "Error getting metadata for " ++ (← schema.shown) ++ "." ++ (← table.shown))
        fun e r => r.rows.mapM (describedColumn e (r.columns.getD []))
      check (.ok ⟨schema, table, columns⟩)) := rfl
  rw [hdescribe]
  exact (asks_inspect _ _ _ _ s).bind_check

theorem on_executeFile_of_not_held (h : s.source.held = false) :
    on (executeFile sql args) s = (.error (unconnected s.source), s) := by
  unfold executeFile
  rw [on_bind_ok (on_get s)]
  dsimp only
  rw [h]
  exact on_unconnected fun _ => rfl

theorem on_executeFile_of_held (h : s.source.held = true) (sql : String) (args : List Value) :
    on (executeFile sql args) s = on (do
      reportExecution sql
      let r ← send sql args
      check (Table.ofRows (r.columns.getD []) r.rows)) s := by
  unfold executeFile
  rw [on_bind_ok (on_get s)]
  dsimp only
  rw [h]
  rfl

theorem asks_executeFile (hengine : s.source.engine = .duckdb) :
    Asks (executeFile sql args) s sql args := by
  rcases hheld : s.source.held with _ | _
  · rw [Asks, on_executeFile_of_not_held hheld]
    exact ⟨[], .idle (Or.inl hheld), Talks.refl s⟩
  rw [Asks, on_executeFile_of_held hheld]
  cases hname : s.source.name.hasLongNumeral with
  | false =>
    obtain ⟨es, hon⟩ := on_reportExecution_of_short hname sql
    have hsend : Asks (send sql args) (s.addEvents es) sql args := asks_send hengine hheld
    obtain ⟨made, hmade, htalks⟩ :=
      hsend.bind_check (f := fun r => Table.ofRows (r.columns.getD []) r.rows)
    rw [on_bind_ok hon]
    exact ⟨made, hmade.of_addEvents, (Talks.addEvents s es).trans htalks⟩
  | true =>
    rw [on_bind_error (on_reportExecution_of_long hname sql)]
    exact ⟨[], .idle (Or.inr hname), Talks.refl s⟩

/-- A statement that cannot be reported is not sent on the connection that was borrowed for it. -/
theorem on_executePooled_of_long (hheld : s.source.held = true) (hborrow : s.nextBorrow = none)
    (hname : s.source.name.hasLongNumeral = true) (sql : String) (args : List Value) :
    on (executePooled sql args) s =
      (.error (.unwritable Text.numeralLimit), s.afterBorrowing.addCalls [.giveBack]) := by
  refine on_borrowing_of_none hheld hborrow ?_ hheld
  have hreport := on_reportExecution_of_long (s := s.afterBorrowing) hname sql
  unfold onRefusal
  rw [on_tryCatch, on_bind_error hreport]
  rfl

theorem asks_executePooled (hengine : s.source.engine = .postgresql) :
    Asks (executePooled sql args) s sql args := by
  cases hname : s.source.name.hasLongNumeral with
  | false =>
    refine asks_borrowing_of_sends hengine ?_ fun m => ?_
    · refine Sends.reportExecution_bind sql hname fun es => (Sends.send _).bind fun r => ?_
      rcases r.columns with _ | names
      · exact .throw _
      · exact (Settles.perform rfl).bind fun _ => .check _
    · refine (Settles.perform rfl).bind fun _ => .get_bind fun s => ?_
      exact (Settles.check s.source.name.shown).bind fun _ => .reportSource _ _
  | true =>
    refine asks_borrowing hengine fun hheld hborrow => ?_
    have hon := on_executePooled_of_long hheld hborrow hname sql args
    refine ⟨_, .unreported hengine hheld hborrow hname, ?_⟩
    exact hon ▸ (talks_afterBorrowing s).trans (talks_giveBack _)

theorem on_execute_of_duckdb (hengine : s.source.engine = .duckdb) :
    on (execute sql args) s = on (executeFile sql args) s := by
  unfold execute
  rw [on_bind_ok (on_get s), hengine]

theorem on_execute_of_postgresql (hengine : s.source.engine = .postgresql) :
    on (execute sql args) s = on (executePooled sql args) s := by
  unfold execute
  rw [on_bind_ok (on_get s), hengine]

/-- **Running a query** on a data source is one statement. -/
theorem asks_execute (sql : String) (args : List Value) (s : Session) :
    Asks (execute sql args) s sql args := by
  rcases hengine : s.source.engine with _ | _
  · rw [Asks, on_execute_of_duckdb hengine]
    exact asks_executeFile hengine
  · rw [Asks, on_execute_of_postgresql hengine]
    exact asks_executePooled hengine

end Session

end BoundSql
