import BoundSql.Proofs.Session.Statement
import BoundSql.Session.Query

/-! # Everything that is done with a session

A use of a session (`Use`) opens or closes the data source, asks the database about itself, or runs a
query. Whatever it is, and however it ends, it goes in one of three ways (`goes_after`): it sends at
most one statement, it closes the data source, or it first opens the data source and then sends at
most one statement. Which uses begin by opening is said without running them (`Use.opens`).

What is kept by each of these ways is kept by any number of uses (`Reached`). -/

namespace BoundSql.Session

open Session.Action Outcome

/-- What is returned to those who use a session. -/
inductive Answer where
  | done
  | names (tables : List Value)
  | description (t : TableDescription)
  | table (t : Table)
  | rows (rs : List Row)

/-- Anything that is done with a session. To enter a scope in which the data source is to be open is
to make sure that it is connected. -/
inductive Use where
  | connect
  | ensureConnected
  | leave
  | disconnect
  | listTables (schema : Value)
  | describe (schema table : Value)
  | execute (sql : String) (args : List Value)
  | runToTable (config : ExecutorConfig) (sql : String) (params : Mapping)
  | run (config : ExecutorConfig) (sql : String) (params : Mapping) (shape : Shape)
  | query (config : ExecutorConfig) (b : Builder) (shape : Shape)

namespace Use

def perform : Use → Action Answer
  | connect => do
    Session.connect
    return .done
  | ensureConnected => do
    Session.ensureConnected
    return .done
  | leave => do
    Session.leave
    return .done
  | disconnect => do
    Session.disconnect
    return .done
  | listTables schema => return .names (← Session.listTables schema)
  | describe schema table => return .description (← Session.describe schema table)
  | execute sql args => return .table (← Session.execute sql args)
  | runToTable config sql params => return .table (← Session.runToTable config sql params)
  | run config sql params shape => return .rows (← Session.run config sql params shape)
  | query config b shape => return .rows (← Session.query config b shape)

/-- The session after a use, whether or not that succeeded. -/
def after (u : Use) (s : Session) : Session := (on u.perform s).2

/-- The use begins by opening the data source. -/
def opens (s : Session) : Use → Bool
  | connect => true
  | ensureConnected | runToTable .. | run .. => !s.source.connected
  | query _ b _ => b.sql.isOk && !s.source.connected
  | leave | disconnect | listTables _ | describe .. | execute .. => false

end Use

/-- The session can be reached from the first one by allowed uses, successful or not. -/
inductive Reached (allowed : Use → Session → Prop) (first : Session) : Session → Prop
  | start : Reached allowed first first
  | use {s : Session} (h : Reached allowed first s) (u : Use) :
      allowed u s → Reached allowed first (u.after s)

/-! ### How a use goes -/

/-- At most one statement has been sent. -/
inductive Speaks (s s' : Session) : Prop
  | nothing : s.Talks s' [] → Speaks s s'
  | statement {sql : String} {args : List Value} {made : List Call} :
      Exchange s sql args made → s.Talks s' made → Speaks s s'

/-- The data source has been opened, or that has been tried in vain, or it was not to be done; then at
most one statement has been sent. -/
inductive Runs (s s' : Session) : Bool → Prop
  | speaks : Speaks s s' → Runs s s' false
  | opens (t : Session) (outcome : Outcome Unit) : Opens s t outcome → Speaks t s' → Runs s s' true

/-- The ways in which a use can go, if it begins by opening the data source or not. -/
inductive Goes (s s' : Session) : Bool → Prop
  | runs {opens : Bool} : Runs s s' opens → Goes s s' opens
  | closes (idle : Source) (outcome : Outcome Unit) : idle = s.source ∨ idle = s.source.closed →
      Closes s s' idle outcome → Goes s s' false

variable {α β : Type} {s s' : Session} {es : List Log.Event} {a : Action α}

theorem Speaks.of_addEvents (h : Speaks (s.addEvents es) s') : Speaks s s' := by
  cases h with
  | nothing h => exact .nothing ((Talks.addEvents s es).trans h)
  | statement hmade h => exact .statement hmade.of_addEvents ((Talks.addEvents s es).trans h)

/-- At most one statement has been sent, and nothing was opened or closed. -/
theorem Speaks.calls (h : Speaks s s') : ∃ made, s.Talks s' made ∧ (∀ c ∈ made, c.isQuiet = true) ∧
    made.countP Call.isStatement ≤ 1 := by
  cases h with
  | nothing htalks => exact ⟨[], htalks, List.forall_mem_nil _, Nat.zero_le 1⟩
  | statement hmade htalks => exact ⟨_, htalks, hmade.isQuiet, hmade.countP_isStatement_le⟩

theorem Opens.of_addEvents {outcome : Outcome Unit} (h : Opens (s.addEvents es) s' outcome) :
    Opens s s' outcome := by
  cases h with
  | unprepared f hprepared hf h =>
    exact .unprepared f hprepared hf ((Talks.addEvents s es).trans h)
  | refused f d c hf hprepared hreply hc h =>
    exact .refused f d c hf hprepared hreply hc ((Talks.addEvents s es).trans h)
  | opened c outcome hreported hopen htrial hc h hsource =>
    exact .opened c outcome hreported ⟨hopen.prepared, hopen.opens⟩ htrial hc h.of_addEvents hsource
  | exhausted f d c hf hopen hengine hborrow hc h hsource =>
    exact .exhausted f d c hf ⟨hopen.prepared, hopen.opens⟩ hengine hborrow hc h.of_addEvents hsource

theorem Runs.of_addEvents {opens : Bool} (h : Runs (s.addEvents es) s' opens) : Runs s s' opens := by
  cases h with
  | speaks h => exact .speaks h.of_addEvents
  | opens t outcome h h' => exact .opens t outcome h.of_addEvents h'

theorem speaks_of_asks {sql : String} {args : List Value} (h : Asks a s sql args) :
    Speaks s (on a s).2 := by
  obtain ⟨made, hmade, htalks⟩ := h
  exact .statement hmade htalks

/-- What is done with the result of an action does not matter if it changes nothing. -/
theorem on_bind_snd {f : α → Action β} (hf : ∀ x t, (on (f x) t).2 = t) :
    (on (a >>= f) s).2 = (on a s).2 := by
  rcases hon : on a s with ⟨e | x, t⟩
  · rw [on_bind_error hon]
  · rw [on_bind_ok hon, hf]

theorem Goes.returns {f : α → β} {opens : Bool} (h : Goes s (on a s).2 opens) :
    Goes s (on (do return f (← a)) s).2 opens := by
  rw [on_bind_snd fun _ _ => rfl]
  exact h

/-- Failing with another fault changes nothing. -/
theorem on_tryCatch_throw_snd (a : Action α) (f : Fault → Fault) (s : Session) :
    (on (tryCatch a fun fault => throw (f fault)) s).2 = (on a s).2 := by
  rw [on_tryCatch]
  rcases on a s with ⟨e | x, t⟩ <;> rfl

/-- How an action goes that makes sure that the data source is connected and then sends at most one
statement. -/
theorem runs_of_ensureConnected {f : Unit → Action α} (hf : ∀ t, Speaks t (on (f ⟨⟩) t).2)
    (s : Session) : Runs s (on (ensureConnected >>= f) s).2 (!s.source.connected) := by
  rcases hconnected : s.source.connected with _ | _
  · have hopens := opens_ensureConnected hconnected
    rcases hon : on ensureConnected s with ⟨e | ⟨⟩, t⟩ <;> rw [hon] at hopens
    · rw [on_bind_error hon]
      exact .opens t (.error e) hopens (.nothing (Talks.refl t))
    · rw [on_bind_ok hon]
      exact .opens t (.ok ⟨⟩) hopens (hf t)
  · rw [on_bind_ok (on_ensureConnected_of_connected hconnected)]
    exact .speaks (hf s)

/-- What a query runner does once the data source is connected. -/
def runConnected (config : ExecutorConfig) (sql : String) (params : Mapping) : Action Table := do
  let s := (← get).source
  let (driverSql, args) ← check (Placeholder.bind s.engine sql params)
  let shown ← check (shownValues config args)
  report Log.debug runnerLogger ("Running " ++ driverSql ++ shown)
    (some [(.text "datasource", s.name)])
  execute driverSql args

theorem runToTable_eq (config : ExecutorConfig) (sql : String) (params : Mapping) :
    runToTable config sql params = ensureConnected >>= fun _ => runConnected config sql params := rfl

theorem speaks_runConnected (config : ExecutorConfig) (sql : String) (params : Mapping)
    (s : Session) : Speaks s (on (runConnected config sql params) s).2 := by
  unfold runConnected
  rw [on_bind_ok (on_get s)]
  dsimp only
  rcases hbind : Placeholder.bind s.source.engine sql params with e | ⟨driverSql, args⟩
  · rw [on_bind_error (on_check (.error e) s)]
    exact .nothing (Talks.refl s)
  rw [on_bind_ok (on_check (.ok (driverSql, args)) s)]
  dsimp only
  rcases hshown : shownValues config args with e | shown
  · rw [on_bind_error (on_check (.error e) s)]
    exact .nothing (Talks.refl s)
  rw [on_bind_ok (on_check (.ok shown) s), on_bind_ok (on_report ..)]
  exact (speaks_of_asks (asks_execute driverSql args _)).of_addEvents

theorem runs_runToTable (config : ExecutorConfig) (sql : String) (params : Mapping) (s : Session) :
    Runs s (on (runToTable config sql params) s).2 (!s.source.connected) :=
  runs_of_ensureConnected (speaks_runConnected config sql params) s

/-- What is done with the rows of a query changes nothing. -/
theorem on_run_snd (config : ExecutorConfig) (sql : String) (params : Mapping) (shape : Shape)
    (s : Session) :
    (on (run config sql params shape) s).2 = (on (runToTable config sql params) s).2 :=
  on_bind_snd fun _ _ => rfl

theorem runs_run (config : ExecutorConfig) (sql : String) (params : Mapping) (shape : Shape)
    (s : Session) : Runs s (on (run config sql params shape) s).2 (!s.source.connected) := by
  rw [on_run_snd]
  exact runs_runToTable config sql params s

theorem runs_query (config : ExecutorConfig) (b : Builder) (shape : Shape) (s : Session) :
    Runs s (on (query config b shape) s).2 (b.sql.isOk && !s.source.connected) := by
  unfold query
  rcases hsql : b.sql with e | sql
  · rw [on_bind_error (on_check (.error e) s)]
    exact .speaks (.nothing (Talks.refl s))
  · rw [on_bind_ok (on_check (.ok sql) s), on_bind_ok (on_report ..), on_tryCatch_throw_snd]
    exact (runs_run config sql b.paramMap shape _).of_addEvents

/-- **How a use goes.** -/
theorem goes_after (u : Use) (s : Session) : Goes s (u.after s) (u.opens s) := by
  cases u with
  | connect => exact .returns (.runs (.opens _ _ (opens_connect s) (.nothing (Talks.refl _))))
  | ensureConnected =>
    refine .runs (runs_of_ensureConnected (f := fun _ => pure Answer.done) (fun t => ?_) s)
    exact .nothing (Talks.refl t)
  | leave => exact .returns (.closes _ _ (.inr rfl) (closes_leave s))
  | disconnect => exact .returns (.closes _ _ (.inl rfl) (closes_disconnect s))
  | listTables schema => exact .returns (.runs (.speaks (speaks_of_asks (asks_listTables schema s))))
  | describe schema table =>
    exact .returns (.runs (.speaks (speaks_of_asks (asks_describe schema table s))))
  | execute sql args => exact .returns (.runs (.speaks (speaks_of_asks (asks_execute sql args s))))
  | runToTable config sql params => exact .returns (.runs (runs_runToTable config sql params s))
  | run config sql params shape => exact .returns (.runs (runs_run config sql params shape s))
  | query config b shape => exact .returns (.runs (runs_query config b shape s))

/-- A database on a server. -/
def shop : Source :=
  ⟨.postgresql, .text "shop", [(.text "host", .text "h"), (.text "port", .int 5433),
    (.text "database", .text "d"), (.text "user", .text "u"), (.text "password", .text "p")], false,
    false⟩

end BoundSql.Session
