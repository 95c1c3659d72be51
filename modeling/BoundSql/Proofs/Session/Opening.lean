import BoundSql.Proofs.Session.Traffic

/-! # Opening a data source

Opening a data source can go in four ways (`Opens`, `opens_connect`). It can fail before anything is
open: what is to be reported about it cannot be written, the settings of a pool are incomplete, or
the driver refuses. It can be opened; then the success is reported with the name of the data source,
which fails if the name is too long (`reported`). Or a pool is opened and no connection can be
borrowed from it. What is said of openings is read off these ways.

An opening that fails once something is open leaves that behind: the data source already holds it,
and nothing closes it. This is the only way in which an opening that fails leaves something behind
(`opening_leavesNothing_iff`). -/

namespace BoundSql

/-- How many calls have opened something, if these are the driver's answers to the openings; nothing
more stands for success. -/
def Call.opened : List (Option DriverFault) → List Call → Nat
  | _, [] => 0
  | replies, c :: cs =>
    if c.isOpening then
      (if (replies.head?.getD none).isNone then 1 else 0) + opened (replies.drop 1) cs
    else opened replies cs

namespace Session

open Session.Action Outcome

/-- The settings that are reported before the opening are short enough to be written, and those that
a pool is opened with are there. -/
def IsOpenable (source : Source) : Prop :=
  match source.engine with
  | .duckdb => source.path.hasLongNumeral = false
  | .postgresql => (poolSettings source).isOk = true ∧
      (∃ database, source.option "database" = .ok database ∧ database.hasLongNumeral = false) ∧
      ∃ host, source.option "host" = .ok host ∧ host.hasLongNumeral = false

/-- The driver opens a database or a pool. -/
structure CanOpen (s : Session) : Prop where
  prepared : IsOpenable s.source
  opens : s.nextConnect = none

/-- A connection is to be borrowed from a pool that has been opened, and that fails. -/
def TrialFails (s : Session) : Prop := s.source.engine = .postgresql ∧ s.nextBorrow ≠ none

variable {s s' : Session} {a : Action Unit}

/-! ### The call that opens -/

/-- Makes the call that opens a database or a pool. -/
def openWith (c : Call) : Action Unit := do
  perform c
  demand (← connectReply)

/-- The session after the call that opens, whether or not that succeeded. -/
def afterOpening (s : Session) (c : Call) : Session :=
  { s.addCalls [c] with replies := { s.replies with connect := s.replies.connect.drop 1 } }

theorem on_openWith (c : Call) (s : Session) :
    on (openWith c) s = on (demand s.nextConnect) (s.afterOpening c) := rfl

theorem on_openWith_of_none (h : s.nextConnect = none) (c : Call) :
    on (openWith c) s = (.ok ⟨⟩, s.afterOpening c) := by
  rw [on_openWith, h, on_demand_none]

theorem on_openWith_of_some {f : DriverFault} (h : s.nextConnect = some f) (c : Call) :
    on (openWith c) s = (.error f.toFault, s.afterOpening c) := by
  rw [on_openWith, h, on_demand_some]

theorem talks_afterOpening {c : Call} (hc : c.isOpening = true) (s : Session) :
    s.Talks (s.afterOpening c) [c] := by
  cases c <;> cases hc <;> exact ⟨⟨rfl, rfl, rfl, rfl⟩, rfl⟩

/-! ### The report of the success -/

/-- What comes of the report that the database has been reached. -/
def reported (source : Source) : Outcome Unit := source.name.shown.map fun _ => ⟨⟩

theorem reported_of_short {source : Source} (h : source.name.hasLongNumeral = false) :
    reported source = .ok ⟨⟩ := by
  rw [reported, Value.shown_of_short h]
  rfl

theorem reported_of_long {source : Source} (h : source.name.hasLongNumeral = true) :
    reported source = .error (.unwritable Text.numeralLimit) := by
  rw [reported, Value.shown_of_long h]
  rfl

theorem on_connectionOpened (s : Session) :
    ∃ es, on connectionOpened s = (reported s.source, s.addEvents es) := by
  unfold connectionOpened
  rw [on_bind_ok (on_get s)]
  cases hname : s.source.name.hasLongNumeral with
  | false =>
    rw [on_bind_shown_of_short hname, reported_of_short hname]
    exact ⟨_, rfl⟩
  | true =>
    rw [on_bind_shown_of_long hname, reported_of_long hname]
    exact ⟨[], by rw [addEvents_nil]⟩

/-! ### Refusals -/

/-- What comes of a fault of the driver: a refusal is a failed connection, which is reported. -/
def failed (source : Source) : DriverFault → Fault
  | .refused m =>
    if source.name.hasLongNumeral then .unwritable Text.numeralLimit
    else .connection source.engine.label m
  | .broken m => .driverOther m

theorem on_connectionFailed (message : String) (s : Session) :
    ∃ es, on (connectionFailed message) s =
      (.error (failed s.source (.refused message)), s.addEvents es) := by
  unfold connectionFailed failed
  rw [on_bind_ok (on_get s)]
  cases hname : s.source.name.hasLongNumeral with
  | false =>
    rw [on_bind_shown_of_short hname]
    exact ⟨_, rfl⟩
  | true =>
    rw [on_bind_shown_of_long hname]
    exact ⟨[], by rw [addEvents_nil]; rfl⟩

/-- A fault of the driver is reported if it is a refusal. Nothing is undone. -/
theorem on_onRefusal_of_driver {d : DriverFault} (h : on a s = (.error d.toFault, s')) :
    ∃ es, on (onRefusal a connectionFailed) s = (.error (failed s'.source d), s'.addEvents es) := by
  cases d with
  | refused m =>
    obtain ⟨es, hfailed⟩ := on_connectionFailed m s'
    unfold onRefusal
    rw [on_tryCatch, h]
    exact ⟨es, on_bind_error hfailed⟩
  | broken m => exact ⟨[], by rw [on_onRefusal_of_not_driver h nofun, addEvents_nil]; rfl⟩

/-! ### The ways of opening -/

/-- A setting is missing, or it is too long to be reported. -/
def IsUnprepared (f : Fault) : Prop := (∃ key, f = .missingKey key) ∨ f = .unwritable Text.numeralLimit

theorem IsUnprepared.ne_driver {f : Fault} (h : IsUnprepared f) (m : String) : f ≠ .driver m := by
  rcases h with ⟨key, rfl⟩ | rfl <;> nofun

/-- The calls by which a pool is tried out; nothing is tried out with a file. -/
def trial : Engine → List Call
  | .duckdb => []
  | .postgresql => [.borrow, .giveBack]

theorem isQuiet_trial (e : Engine) : ∀ c ∈ trial e, c.isQuiet = true := by
  cases e <;> decide

theorem countP_isStatement_trial (e : Engine) : (trial e).countP Call.isStatement = 0 := by
  cases e <;> rfl

/-- How opening a data source can go. -/
inductive Opens (s s' : Session) : Outcome Unit → Prop
  /-- The settings are incomplete, or too long to be reported. -/
  | unprepared (f : Fault) : ¬IsOpenable s.source → IsUnprepared f → s.Talks s' [] →
      Opens s s' (.error f)
  /-- The driver does not open anything. -/
  | refused (f : Fault) (d : DriverFault) (c : Call) : f = failed s.source d →
      IsOpenable s.source → s.nextConnect = some d → c.isOpening = true → s.Talks s' [c] →
      Opens s s' (.error f)
  /-- The file or the pool is open and has been tried out, whether or not that could be reported. -/
  | opened (c : Call) (outcome : Outcome Unit) : outcome = reported s.source → s.CanOpen →
      ¬s.TrialFails → c.isOpening = true → s.Continues s' (c :: trial s.source.engine) →
      s'.source = s.source.opened → Opens s s' outcome
  /-- The pool is open and held, but no connection could be borrowed. -/
  | exhausted (f : Fault) (d : DriverFault) (c : Call) : f = failed s.source d → s.CanOpen →
      s.source.engine = .postgresql → s.nextBorrow = some d → c.isOpening = true →
      s.Continues s' [c, .borrow] → s'.source = { s.source with held := true } →
      Opens s s' (.error f)

/-! ### Database files -/

/-- The database file is held only once it is open. -/
theorem on_connectFile (h : s.source.path.hasLongNumeral = false) :
    ∃ es, on connectFile s = on (do
      onRefusal (openWith (.connect s.source.path s.source.readOnly)) connectionFailed
      setState true true
      connectionOpened) (s.addEvents es) := by
  unfold connectFile
  rw [on_bind_ok (on_get s), on_bind_shown_of_short h]
  exact ⟨_, rfl⟩

theorem opens_connectFile (hengine : s.source.engine = .duckdb) :
    Opens s (on connectFile s).2 (on connectFile s).1 := by
  have hopenable : IsOpenable s.source ↔ s.source.path.hasLongNumeral = false := by
    rw [IsOpenable, hengine]
  cases hpath : s.source.path.hasLongNumeral with
  | true =>
    have hon : on connectFile s = (.error (.unwritable Text.numeralLimit), s) := by
      unfold connectFile
      rw [on_bind_ok (on_get s), on_bind_shown_of_long hpath]
    rw [hon]
    refine .unprepared _ (fun h => ?_) (Or.inr rfl) (Talks.refl s)
    cases hpath.symm.trans (hopenable.mp h)
  | false =>
    have hprepared : IsOpenable s.source := hopenable.mpr hpath
    obtain ⟨es, hon⟩ := on_connectFile hpath
    set call := Call.connect s.source.path s.source.readOnly
    rw [hon]
    rcases hreply : s.nextConnect with _ | d
    · have hopen := on_openWith_of_none (s := s.addEvents es) hreply call
      obtain ⟨es', hreport⟩ := on_connectionOpened { (s.addEvents es).afterOpening call with
        source := s.source.opened }
      have htrial : ¬s.TrialFails := fun h => by cases hengine.symm.trans h.1
      rw [on_bind_ok (on_onRefusal_of_ok hopen), on_bind_ok (on_setState ..)]
      refine hreport ▸ .opened call _ rfl ⟨hprepared, hreply⟩ htrial rfl ?_ rfl
      rw [hengine]
      exact ⟨rfl, rfl, rfl, rfl⟩
    · have hopen := on_openWith_of_some (s := s.addEvents es) hreply call
      obtain ⟨es', hf⟩ := on_onRefusal_of_driver hopen
      rw [on_bind_error hf]
      have hcall := (Talks.addEvents s es).trans (talks_afterOpening (c := call) rfl _)
      exact .refused _ d call rfl hprepared hreply rfl (hcall.report es')

/-! ### Pools -/

/-- Holds a pool that has been opened, and tries it out by borrowing a connection. -/
def tryConnection (connected : Bool) : Action Unit := do
  setState true connected
  perform .borrow
  demand (← borrowReply)
  perform .giveBack
  setState true true
  connectionOpened

/-- Opens a pool and tries it out; nothing is reported if that fails. -/
def tryPool : Action Unit := do
  let s := (← get).source
  let database ← check (s.option "database" >>= Value.shown)
  let host ← check (s.option "host" >>= Value.shown)
  reportSource Log.info ("Connecting to PostgreSQL database '" ++ database ++ "' at " ++ host)
  let settings ← check (poolSettings s)
  openWith (.openPool s.leastConnections s.mostConnections settings)
  tryConnection s.connected

theorem connectPool_eq : connectPool = onRefusal tryPool connectionFailed := by
  simp only [tryPool, openWith, bind_assoc]
  rfl

theorem failsWith_option (source : Source) (key : String) :
    FailsWith IsUnprepared (source.option key) := by
  unfold Source.option
  split
  · exact .ok _
  · exact .error (Or.inl ⟨_, rfl⟩)

theorem failsWith_shown (v : Value) : FailsWith IsUnprepared v.shown := by
  unfold Value.shown
  split
  · exact .error (Or.inr rfl)
  · exact .ok _

theorem failsWith_poolSettings (source : Source) : FailsWith IsUnprepared (poolSettings source) := by
  have hoption := failsWith_option source
  refine (hoption "host").bind fun _ _ => (hoption "database").bind fun _ _ => ?_
  exact (hoption "user").bind fun _ _ => (hoption "password").bind fun _ _ => .ok _

/-- A setting that is missing or too long is a fault before anything is opened. -/
theorem on_tryPool_of_not_isOpenable (hengine : s.source.engine = .postgresql)
    (h : ¬IsOpenable s.source) :
    ∃ f es, IsUnprepared f ∧ on tryPool s = (.error f, s.addEvents es) := by
  have hshown : ∀ key, FailsWith IsUnprepared (s.source.option key >>= Value.shown) := fun key =>
    (failsWith_option s.source key).bind fun v _ => failsWith_shown v
  unfold tryPool
  rw [on_bind_ok (on_get s)]
  dsimp only
  rcases hdatabase : s.source.option "database" >>= Value.shown with e | database
  · exact ⟨e, [], hshown _ e hdatabase, by rw [on_bind_error (on_check _ s), addEvents_nil]⟩
  rw [on_bind_ok (on_check (.ok database) s)]
  rcases hhost : s.source.option "host" >>= Value.shown with e | host
  · exact ⟨e, [], hshown _ e hhost, by rw [on_bind_error (on_check _ s), addEvents_nil]⟩
  rw [on_bind_ok (on_check (.ok host) s), on_bind_ok (on_reportSource ..)]
  rcases hsettings : poolSettings s.source with e | settings
  · exact ⟨e, _, failsWith_poolSettings s.source e hsettings, on_bind_error (on_check _ _)⟩
  -- both texts could be written, and the settings are there
  obtain ⟨d, hd, hdshown⟩ := bind_ok_iff.mp hdatabase
  obtain ⟨n, hn, hnshown⟩ := bind_ok_iff.mp hhost
  refine absurd ?_ h
  rw [IsOpenable, hengine, hsettings]
  exact ⟨rfl, ⟨d, hd, (Value.shown_eq_ok_iff.mp hdshown).1⟩, n, hn,
    (Value.shown_eq_ok_iff.mp hnshown).1⟩

theorem on_tryPool_of_isOpenable (hengine : s.source.engine = .postgresql)
    (h : IsOpenable s.source) : ∃ settings es, on tryPool s = on (do
      openWith (.openPool s.source.leastConnections s.source.mostConnections settings)
      tryConnection s.source.connected) (s.addEvents es) := by
  rw [IsOpenable, hengine] at h
  obtain ⟨hsettings, ⟨database, hdatabase, hdshort⟩, host, hhost, hhshort⟩ := h
  obtain ⟨settings, hsettings⟩ := isOk_iff_exists.mp hsettings
  have hdshown : s.source.option "database" >>= Value.shown = .ok database.plain :=
    bind_ok_iff.mpr ⟨database, hdatabase, Value.shown_of_short hdshort⟩
  have hhshown : s.source.option "host" >>= Value.shown = .ok host.plain :=
    bind_ok_iff.mpr ⟨host, hhost, Value.shown_of_short hhshort⟩
  unfold tryPool
  rw [on_bind_ok (on_get s)]
  dsimp only
  rw [hdshown, hhshown, hsettings, on_bind_ok (on_check (.ok _) s), on_bind_ok (on_check (.ok _) s),
    on_bind_ok (on_reportSource ..), on_bind_ok (on_check (.ok settings) _)]
  exact ⟨settings, _, rfl⟩

/-- The session in which the pool that has been opened is held. -/
def holding (s : Session) (connected : Bool) : Session :=
  { s with source := { s.source with held := true, connected } }

theorem continues_holding (s : Session) (connected : Bool) :
    s.Continues (s.holding connected).afterBorrowing [.borrow] := ⟨rfl, rfl, rfl, rfl⟩

/-- What trying out a pool does once a connection has been asked for. -/
theorem on_tryConnection (connected : Bool) (s : Session) : on (tryConnection connected) s = on (do
    demand s.nextBorrow
    perform .giveBack
    setState true true
    connectionOpened) (s.holding connected).afterBorrowing := rfl

/-- The connection is given back, and then the success is reported. -/
theorem on_tryConnection_of_none (h : s.nextBorrow = none) (connected : Bool) :
    ∃ s', on (tryConnection connected) s = (reported s.source, s') ∧
      s.Continues s' [.borrow, .giveBack] ∧ s'.source = s.source.opened := by
  obtain ⟨es, hreport⟩ := on_connectionOpened
    { (s.holding connected).afterBorrowing.addCalls [.giveBack] with source := s.source.opened }
  rw [on_tryConnection, h, on_bind_ok (on_demand_none _)]
  exact ⟨_, hreport, ⟨List.append_assoc .., rfl, rfl, rfl⟩, rfl⟩

/-- No connection is given back, and the pool is still held. -/
theorem on_tryConnection_of_some {d : DriverFault} (h : s.nextBorrow = some d) (connected : Bool) :
    on (tryConnection connected) s = (.error d.toFault, (s.holding connected).afterBorrowing) := by
  rw [on_tryConnection, h, on_bind_error (on_demand_some d _)]

/-- A report that fails is no refusal by the driver, so that it is passed on. -/
theorem on_onRefusal_of_reported {source : Source} (h : on a s = (reported source, s')) :
    on (onRefusal a connectionFailed) s = (reported source, s') := by
  cases hname : source.name.hasLongNumeral with
  | false =>
    rw [reported_of_short hname] at h ⊢
    exact on_onRefusal_of_ok h
  | true =>
    rw [reported_of_long hname] at h ⊢
    exact on_onRefusal_of_not_driver h nofun

theorem opens_connectPool (hengine : s.source.engine = .postgresql) :
    Opens s (on connectPool s).2 (on connectPool s).1 := by
  rw [connectPool_eq]
  by_cases hprepared : IsOpenable s.source
  · obtain ⟨settings, es, htry⟩ := on_tryPool_of_isOpenable hengine hprepared
    set call := Call.openPool s.source.leastConnections s.source.mostConnections settings
    have hcall : s.Talks ((s.addEvents es).afterOpening call) [call] :=
      (Talks.addEvents s es).trans (talks_afterOpening rfl _)
    rcases hreply : s.nextConnect with _ | d
    · rw [on_bind_ok (on_openWith_of_none (s := s.addEvents es) hreply call)] at htry
      rcases hborrow : s.nextBorrow with _ | d
      · obtain ⟨s', hon, hmade, hsource⟩ := on_tryConnection_of_none
          (s := (s.addEvents es).afterOpening call) hborrow s.source.connected
        rw [on_onRefusal_of_reported (htry.trans hon)]
        refine .opened call _ rfl ⟨hprepared, hreply⟩ (fun h => h.2 hborrow) rfl ?_ hsource
        rw [hengine]
        exact hcall.toContinues.trans hmade
      · have hon := on_tryConnection_of_some (s := (s.addEvents es).afterOpening call) hborrow
          s.source.connected
        obtain ⟨es', hf⟩ := on_onRefusal_of_driver (htry.trans hon)
        have hmade := hcall.toContinues.trans (continues_holding _ s.source.connected)
        rw [hf]
        exact .exhausted _ d call rfl ⟨hprepared, hreply⟩ hengine hborrow rfl (hmade.report es') rfl
    · rw [on_bind_error (on_openWith_of_some (s := s.addEvents es) hreply call)] at htry
      obtain ⟨es', hf⟩ := on_onRefusal_of_driver htry
      rw [hf]
      exact .refused _ d call rfl hprepared hreply rfl (hcall.report es')
  · obtain ⟨f, es, hf, htry⟩ := on_tryPool_of_not_isOpenable hengine hprepared
    rw [on_onRefusal_of_not_driver htry hf.ne_driver]
    exact .unprepared f hprepared hf (Talks.addEvents s es)

/-! ### Data sources -/

theorem on_ensureConnected_of_connected (h : s.source.connected = true) :
    on ensureConnected s = (.ok ⟨⟩, s) := by
  unfold ensureConnected
  rw [on_bind_ok (on_get s), h]
  rfl

/-- **Opening a data source** goes in one of these ways. -/
theorem opens_connect (s : Session) : Opens s (on connect s).2 (on connect s).1 := by
  rcases hengine : s.source.engine with _ | _
  · have hconnect : on connect s = on connectFile s := by
      unfold connect
      rw [on_bind_ok (on_get s), hengine]
    rw [hconnect]
    exact opens_connectFile hengine
  · have hconnect : on connect s = on connectPool s := by
      unfold connect
      rw [on_bind_ok (on_get s), hengine]
    rw [hconnect]
    exact opens_connectPool hengine

/-- A data source that does not count as connected is opened. -/
theorem opens_ensureConnected (h : s.source.connected = false) :
    Opens s (on ensureConnected s).2 (on ensureConnected s).1 := by
  have hensure : on ensureConnected s = on (connect >>= fun _ => do
      setState (← get).source.held true) s := by
    unfold ensureConnected
    rw [on_bind_ok (on_get s), h]
    rfl
  have hconnect := opens_connect s
  rw [hensure]
  rcases hon : on connect s with ⟨e | ⟨⟩, s'⟩ <;> rw [hon] at hconnect
  · rw [on_bind_error hon]
    exact hconnect
  · rw [on_bind_ok hon]
    cases hconnect with
    | opened c outcome hreported hopen htrial hc hmade hsource =>
      -- what is held is held already, so that counting as connected changes nothing
      have hsame : { s'.source with held := s'.source.held, connected := true } = s.source.opened := by
        have hopened : s'.source = s.source.opened := hsource
        rw [hopened]
        rfl
      exact .opened c _ hreported hopen htrial hc (hmade.withSource _) hsame

/-- Only what is held, and whether it counts as connected, is changed. -/
theorem Opens.source {outcome : Outcome Unit} (h : Opens s s' outcome) :
    ∃ held connected, s'.source = { s.source with held, connected } := by
  cases h with
  | unprepared _ _ _ htalks => exact ⟨_, _, htalks.source⟩
  | refused _ _ _ _ _ _ _ htalks => exact ⟨_, _, htalks.source⟩
  | opened _ _ _ _ _ _ _ hsource => exact ⟨_, _, hsource⟩
  | exhausted _ _ _ _ _ _ _ _ _ hsource => exact ⟨_, _, hsource⟩

theorem Opens.engine {outcome : Outcome Unit} (h : Opens s s' outcome) :
    s'.source.engine = s.source.engine := by
  obtain ⟨_, _, hsource⟩ := h.source
  rw [hsource]

theorem Opens.name {outcome : Outcome Unit} (h : Opens s s' outcome) :
    s'.source.name = s.source.name := by
  obtain ⟨_, _, hsource⟩ := h.source
  rw [hsource]

/-- An opening that succeeds has been reported. -/
theorem Opens.of_ok (h : Opens s s' (.ok ⟨⟩)) :
    s'.source = s.source.opened ∧ s.source.name.hasLongNumeral = false := by
  cases h with
  | opened _ _ hreported _ _ _ _ hsource =>
    refine ⟨hsource, ?_⟩
    cases hname : s.source.name.hasLongNumeral with
    | false => rfl
    | true =>
      rw [reported_of_long hname] at hreported
      cases hreported

/-- At most one thing has been opened, nothing was closed, and no statement was sent. -/
theorem Opens.calls {outcome : Outcome Unit} (h : Opens s s' outcome) : ∃ made,
    s.Continues s' made ∧ made.countP Call.isOpening ≤ 1 ∧ made.countP Call.isClosing = 0 ∧
    made.countP Call.isStatement = 0 := by
  have hopening : ∀ {c : Call} {rest : List Call}, c.isOpening = true →
      (∀ c ∈ rest, c.isQuiet = true) → rest.countP Call.isStatement = 0 →
      (c :: rest).countP Call.isOpening ≤ 1 ∧ (c :: rest).countP Call.isClosing = 0 ∧
        (c :: rest).countP Call.isStatement = 0 := fun hc hquiet hrest =>
    (Call.countP_of_isOpening hc hquiet hrest).imp_left Nat.le_of_eq
  cases h with
  | unprepared f _ _ htalks => exact ⟨[], htalks.toContinues, Nat.zero_le 1, rfl, rfl⟩
  | refused f d c _ _ _ hc htalks =>
    exact ⟨[c], htalks.toContinues, hopening hc (List.forall_mem_nil _) rfl⟩
  | opened c _ _ _ _ hc hmade =>
    exact ⟨_, hmade, hopening hc (isQuiet_trial _) (countP_isStatement_trial _)⟩
  | exhausted f d c _ _ _ _ hc hmade =>
    exact ⟨_, hmade, hopening hc (List.forall_mem_singleton.mpr rfl) rfl⟩

theorem engine_ensureConnected (s : Session) :
    (on ensureConnected s).2.source.engine = s.source.engine := by
  rcases hconnected : s.source.connected with _ | _
  · exact (opens_ensureConnected hconnected).engine
  · rw [on_ensureConnected_of_connected hconnected]

theorem name_ensureConnected (s : Session) :
    (on ensureConnected s).2.source.name = s.source.name := by
  rcases hconnected : s.source.connected with _ | _
  · exact (opens_ensureConnected hconnected).name
  · rw [on_ensureConnected_of_connected hconnected]

/-! ### What a failed opening leaves behind -/

/-- If the action fails, the data source holds what it held before and counts as connected if it did
before, and as much as the action has opened it has closed. -/
def LeavesNothing (a : Action Unit) (s : Session) : Prop :=
  ∀ f s', on a s = (.error f, s') → s'.source = s.source ∧
    ∃ made, s'.calls = s.calls ++ made ∧
      Call.opened s.replies.connect made = made.countP Call.isClosing

/-- A database or a pool is opened, but then the opening fails: no connection can be borrowed from the
pool, or the name of the data source is too long to be written. -/
structure FailsOpen (s : Session) : Prop extends CanOpen s where
  fails : s.TrialFails ∨ s.source.name.hasLongNumeral = true

theorem leavesNothing_of_ok (h : on a s = (.ok ⟨⟩, s')) : LeavesNothing a s := by
  intro f s'' hf
  cases h.symm.trans hf

theorem leavesNothing_of_error {f : Fault} (h : on a s = (.error f, s')) {made : List Call}
    (hsource : s'.source = s.source) (hcalls : s'.calls = s.calls ++ made)
    (hmade : Call.opened s.replies.connect made = made.countP Call.isClosing) :
    LeavesNothing a s := by
  intro f' s'' hf
  cases h.symm.trans hf
  exact ⟨hsource, made, hcalls, hmade⟩

/-- A call to open that fails has opened nothing. -/
theorem opened_of_some {f : DriverFault} (h : s.nextConnect = some f) {c : Call}
    (hc : c.isOpening = true) : Call.opened s.replies.connect [c] = 0 := by
  have hreply : s.replies.connect.head?.getD none = some f := h
  rw [Call.opened, hc, hreply]
  rfl

/-- What has been opened is left behind, if no call closes it. -/
theorem not_leavesNothing {f : Fault} (h : on a s = (.error f, s')) (hreply : s.nextConnect = none)
    {c : Call} (hc : c.isOpening = true) {rest : List Call} (hcalls : s'.calls = s.calls ++ c :: rest)
    (hopened : Call.opened (s.replies.connect.drop 1) rest = 0)
    (hclosing : rest.countP Call.isClosing = 0) : ¬LeavesNothing a s := by
  intro hnothing
  obtain ⟨-, made, hmade, hcount⟩ := hnothing f s' h
  have heq : made = c :: rest := List.append_cancel_left (hmade.symm.trans hcalls)
  have hnone : s.replies.connect.head?.getD none = none := hreply
  rw [heq, Call.opened, hc, hnone, hopened, List.countP_cons, hclosing,
    (Call.not_of_isOpening hc).1] at hcount
  exact Nat.one_ne_zero hcount

/-- Something is left behind just if the opening fails once something is open. -/
theorem leavesNothing_iff (h : Opens s (on a s).2 (on a s).1) : LeavesNothing a s ↔ ¬s.FailsOpen := by
  rcases hon : on a s with ⟨outcome, s'⟩
  rw [hon] at h
  cases h with
  | unprepared f hprepared _ htalks =>
    refine iff_of_true (leavesNothing_of_error hon htalks.source htalks.calls rfl) fun h => ?_
    exact hprepared h.prepared
  | refused f d c _ _ hreply hc htalks =>
    have hopened : Call.opened s.replies.connect [c] = [c].countP Call.isClosing := by
      rw [opened_of_some hreply hc, List.countP_singleton, (Call.not_of_isOpening hc).1]
      rfl
    refine iff_of_true (leavesNothing_of_error hon htalks.source htalks.calls hopened) fun h => ?_
    cases hreply.symm.trans h.opens
  | opened c _ hreported hopen htrial hc hmade _ =>
    subst hreported
    cases hname : s.source.name.hasLongNumeral with
    | true =>
      rw [reported_of_long hname] at hon
      refine iff_of_false ?_ fun h => h ⟨hopen, Or.inr hname⟩
      refine not_leavesNothing hon hopen.opens hc hmade.calls ?_ ?_ <;>
        cases s.source.engine <;> rfl
    | false =>
      rw [reported_of_short hname] at hon
      refine iff_of_true (leavesNothing_of_ok hon) fun h => ?_
      exact h.fails.elim htrial fun hlong => Bool.noConfusion (hname.symm.trans hlong)
  | exhausted f d c _ hopen hengine hborrow hc hmade _ =>
    have htrial : s.TrialFails := ⟨hengine, by rw [hborrow]; exact Option.some_ne_none d⟩
    refine iff_of_false ?_ fun h => h ⟨hopen, Or.inl htrial⟩
    exact not_leavesNothing hon hopen.opens hc hmade.calls rfl rfl

theorem connect_leavesNothing_iff (s : Session) : LeavesNothing connect s ↔ ¬s.FailsOpen :=
  leavesNothing_iff (opens_connect s)

/-- A data source that counts as connected is not opened again. -/
theorem ensureConnected_leavesNothing_iff (s : Session) :
    LeavesNothing ensureConnected s ↔ s.source.connected = true ∨ ¬s.FailsOpen := by
  rcases hconnected : s.source.connected with _ | _
  · rw [leavesNothing_iff (opens_ensureConnected hconnected), or_iff_right Bool.false_ne_true]
  · have hensure := on_ensureConnected_of_connected hconnected
    exact iff_of_true (leavesNothing_of_ok hensure) (Or.inl rfl)

/-- **What a failed opening leaves behind.** If opening a data source fails, nothing has changed and
nothing is left open, unless a database or a pool was opened and then no connection could be borrowed
or the success could not be reported. The same holds of a data source that is opened only if it does
not count as connected. -/
theorem opening_leavesNothing_iff (s : Session) :
    (LeavesNothing connect s ↔ ¬s.FailsOpen) ∧
    (LeavesNothing ensureConnected s ↔ s.source.connected = true ∨ ¬s.FailsOpen) :=
  ⟨connect_leavesNothing_iff s, ensureConnected_leavesNothing_iff s⟩

/-- A pool that opens, and from which no connection can be borrowed. -/
def exhausted : Session :=
  start ⟨.postgresql, .text "shop", [(.text "host", .text "h"), (.text "port", .int 5433),
    (.text "database", .text "d"), (.text "user", .text "u"), (.text "password", .text "p")], false,
    false⟩ { Replies.success with borrow := [some (.refused "boom")] }

/-- The pool stays open and held, and the data source does not count as connected. -/
theorem exhausted_leavesSomething : ¬LeavesNothing connect exhausted ∧
    ¬LeavesNothing ensureConnected exhausted ∧
    (on connect exhausted).1 = .error (.connection "PostgreSQL" "boom") ∧
    (on connect exhausted).2.source.held = true ∧
    (on connect exhausted).2.source.connected = false ∧
    (on connect exhausted).2.calls.countP Call.isClosing = 0 := by
  have hfails : exhausted.FailsOpen :=
    ⟨⟨⟨rfl, ⟨_, rfl, rfl⟩, _, rfl, rfl⟩, rfl⟩, Or.inl ⟨rfl, Option.some_ne_none _⟩⟩
  refine ⟨fun h => (connect_leavesNothing_iff _).mp h hfails, fun h => ?_, rfl, rfl, rfl, rfl⟩
  exact ((ensureConnected_leavesNothing_iff _).mp h).elim Bool.false_ne_true fun hnot => hnot hfails

end Session

end BoundSql
