import BoundSql.Proofs.Builder.Independence
import BoundSql.Proofs.Session.Action

/-! # Two sessions side by side

Two data sources are alike if they differ in nothing but the user and the password they are opened
with (`Source.Alike`), and two calls on a driver if they differ in nothing but those and the values
that are bound (`Call.Alike`). Two sessions are alike if their data sources and calls are, the driver
will answer the same, and what they have reported is related in a way that is left open
(`Session.Alike`); all that is asked of it is that it stays so if both report the same event
(`Steady`).

On alike sessions an action has the same outcome and leaves alike sessions (`Action.Alike`). This is
shown once for sequences, for attempts and for what is done at the end in any case, and then for the
operations on a data source. -/

namespace BoundSql

/-- The same keys, and the same values at all of them but those of the user and the password. -/
def Mapping.Alike (m m' : Mapping) : Prop :=
  List.Forall₂ (fun p q => p.1 = q.1 ∧ (p.2 = q.2 ∨ p.1 = .text "user" ∨ p.1 = .text "password")) m m'

/-- The same data sources up to the user and the password. -/
structure Source.Alike (a b : Source) : Prop where
  engine : a.engine = b.engine
  name : a.name = b.name
  held : a.held = b.held
  connected : a.connected = b.connected
  options : a.options.Alike b.options

/-- The same calls up to the values that are bound, the user and the password. -/
inductive Call.Alike : Call → Call → Prop
  | same (c : Call) : Alike c c
  | openPool (least most : Value) {settings settings' : Mapping} : settings.Alike settings' →
      Alike (.openPool least most settings) (.openPool least most settings')
  | execute (sql : String) {args args' : List Value} : args.length = args'.length →
      Alike (.execute sql args) (.execute sql args')

variable {a b : Source}

theorem Mapping.Alike.refl (m : Mapping) : m.Alike m :=
  List.forall₂_same.mpr fun _ _ => ⟨rfl, .inl rfl⟩

theorem Mapping.Alike.symm {m m' : Mapping} (h : m.Alike m') : m'.Alike m :=
  h.flip.imp fun _ _ hpq => ⟨hpq.1.symm, hpq.2.imp Eq.symm (hpq.1 ▸ id)⟩

/-- A setting that is neither the user nor the password is the same. -/
theorem Mapping.Alike.field? {m m' : Mapping} (h : m.Alike m') {key : String} (huser : key ≠ "user")
    (hpassword : key ≠ "password") : m.field? key = m'.field? key := by
  have hget : Option.Rel Eq (m.get? (.text key)) (m'.get? (.text key)) := by
    refine Mapping.rel_get? (h.imp fun p q hpq => ⟨hpq.1, fun hkey => ?_⟩)
    have hother : ∀ other : String, p.1 = .text other → other = key := by
      intro other hother
      rw [hother] at hkey
      exact eq_of_beq hkey
    rcases hpq.2 with hvalue | hp | hp
    · exact hvalue
    · exact absurd (hother _ hp).symm huser
    · exact absurd (hother _ hp).symm hpassword
  unfold Mapping.field?
  generalize m.get? (.text key) = o at hget ⊢
  generalize m'.get? (.text key) = o' at hget ⊢
  rcases hget with hv | _
  · rw [hv]
  · rfl

/-- Any two values are found at the same keys. -/
theorem Mapping.Alike.rel_field? {m m' : Mapping} (h : m.Alike m') (key : String) :
    Option.Rel (fun _ _ => True) (m.field? key) (m'.field? key) :=
  Mapping.rel_get? (h.imp fun _ _ hpq => ⟨hpq.1, fun _ => trivial⟩)

namespace Source.Alike

theorem refl (a : Source) : a.Alike a := ⟨rfl, rfl, rfl, rfl, .refl _⟩

theorem symm (h : a.Alike b) : b.Alike a :=
  ⟨h.engine.symm, h.name.symm, h.held.symm, h.connected.symm, h.options.symm⟩

theorem optionOr (h : a.Alike b) (key : String) (default : Value) (huser : key ≠ "user")
    (hpassword : key ≠ "password") : a.optionOr key default = b.optionOr key default := by
  unfold Source.optionOr
  rw [h.options.field? huser hpassword]

theorem option (h : a.Alike b) (key : String) (huser : key ≠ "user")
    (hpassword : key ≠ "password") : a.option key = b.option key := by
  unfold Source.option
  rw [h.options.field? huser hpassword]

theorem related_option (h : a.Alike b) (key : String) :
    Outcome.Related (fun _ _ => True) (a.option key) (b.option key) := by
  have hrel := h.options.rel_field? key
  unfold Source.option
  generalize a.options.field? key = o at hrel ⊢
  generalize b.options.field? key = o' at hrel ⊢
  rcases hrel with _ | _
  · exact .ok trivial
  · exact .error _

end Source.Alike

theorem Call.Alike.symm {c d : Call} (h : c.Alike d) : d.Alike c := by
  cases h with
  | same c => exact .same c
  | openPool least most h => exact .openPool least most h.symm
  | execute sql h => exact .execute sql h.symm

namespace Session

open Session.Action

variable {α β γ : Type} {E : List Log.Event → List Log.Event → Prop} {s t : Session}

/-- The relation stays when the same event is added on both sides. -/
def Steady (E : List Log.Event → List Log.Event → Prop) : Prop :=
  ∀ xs ys e, E xs ys → E (xs ++ [e]) (ys ++ [e])

/-- The same sessions up to the values that are bound, the user and the password; what has been
reported is related. -/
structure Alike (E : List Log.Event → List Log.Event → Prop) (s t : Session) : Prop where
  source : s.source.Alike t.source
  replies : s.replies = t.replies
  calls : List.Forall₂ Call.Alike s.calls t.calls
  events : E s.events t.events

theorem Alike.symm (h : s.Alike E t) (hE : E t.events s.events) : t.Alike E s :=
  ⟨h.source.symm, h.replies.symm, h.calls.flip.imp fun _ _ hcd => hcd.symm, hE⟩

theorem Alike.addEvent (h : s.Alike E t) (hE : Steady E) (e : Log.Event) :
    (s.addEvents [e]).Alike E (t.addEvents [e]) := ⟨h.source, h.replies, h.calls, hE _ _ _ h.events⟩

/-- The same outcome, and alike sessions. -/
structure Agree (E : List Log.Event → List Log.Event → Prop) (p q : Outcome α × Session) : Prop where
  outcome : p.1 = q.1
  session : p.2.Alike E q.2

theorem Agree.bind {x y : Action α} {f g : α → Action β} (h : Agree E (on x s) (on y t))
    (hf : ∀ a s' t', on x s = (.ok a, s') → on y t = (.ok a, t') → s'.Alike E t' →
      Agree E (on (f a) s') (on (g a) t')) : Agree E (on (x >>= f) s) (on (y >>= g) t) := by
  obtain ⟨houtcome, hsession⟩ := h
  rcases hx : on x s with ⟨e | a, s'⟩ <;> rcases hy : on y t with ⟨e' | a', t'⟩ <;>
    rw [hx, hy] at houtcome hsession <;> cases houtcome
  · rw [on_bind_error hx, on_bind_error hy]
    exact ⟨rfl, hsession⟩
  · rw [on_bind_ok hx, on_bind_ok hy]
    exact hf a s' t' hx hy hsession

theorem Agree.returns {x y : Action α} (h : Agree E (on x s) (on y t)) (f : α → β) :
    Agree E (on (do return f (← x)) s) (on (do return f (← y)) t) :=
  h.bind fun _ _ _ _ _ hst => ⟨rfl, hst⟩

theorem Agree.check_bind {r : α → β → Prop} {x : Outcome α} {y : Outcome β} {f : α → Action γ}
    {g : β → Action γ} (hst : s.Alike E t) (h : Outcome.Related r x y)
    (hf : ∀ a b, x = .ok a → y = .ok b → r a b → Agree E (on (f a) s) (on (g b) t)) :
    Agree E (on (check x >>= f) s) (on (check y >>= g) t) := by
  cases h with
  | ok hab => exact hf _ _ rfl rfl hab
  | error f => exact ⟨rfl, hst⟩

/-- On alike sessions both actions have the same outcome and leave alike sessions. -/
def Action.Alike (E : List Log.Event → List Log.Event → Prop) (x y : Action α) : Prop :=
  ∀ s t, s.Alike E t → Agree E (on x s) (on y t)

theorem Agree.tryCatch {x y : Action α} {f g : Fault → Action α} (h : Agree E (on x s) (on y t))
    (hf : ∀ e, Action.Alike E (f e) (g e)) : Agree E (on (tryCatch x f) s) (on (tryCatch y g) t) := by
  rw [on_tryCatch, on_tryCatch]
  obtain ⟨houtcome, hsession⟩ := h
  rcases hx : on x s with ⟨e | a, s'⟩ <;> rcases hy : on y t with ⟨e' | a', t'⟩ <;>
    rw [hx, hy] at houtcome hsession <;> cases houtcome
  · exact hf e s' t' hsession
  · exact ⟨rfl, hsession⟩

namespace Action.Alike

/-! ### Actions in general -/

theorem pure (a : α) : Action.Alike E (Pure.pure a : Action α) (Pure.pure a) :=
  fun _ _ h => ⟨rfl, h⟩

theorem throw (f : Fault) : Action.Alike E (MonadExcept.throw f : Action α) (MonadExcept.throw f) :=
  fun _ _ h => ⟨rfl, h⟩

theorem check (x : Outcome α) : Action.Alike E (Session.check x) (Session.check x) :=
  fun _ _ h => ⟨rfl, h⟩

theorem bind {x y : Action α} {f g : α → Action β} (h : Action.Alike E x y)
    (hf : ∀ a, Action.Alike E (f a) (g a)) : Action.Alike E (x >>= f) (y >>= g) :=
  fun s t hst => (h s t hst).bind fun a s' t' _ _ hst' => hf a s' t' hst'

/-- What an action reads of the session may be read off either of two alike sessions. -/
theorem get_bind {f g : Session → Action β}
    (h : ∀ s t, s.Alike E t → Action.Alike E (f s) (g t)) :
    Action.Alike E (get >>= f) (get >>= g) := by
  intro s t hst
  rw [on_bind_ok (on_get s), on_bind_ok (on_get t)]
  exact h s t hst s t hst

theorem check_bind {r : α → β → Prop} {x : Outcome α} {y : Outcome β} {f : α → Action γ}
    {g : β → Action γ} (h : Outcome.Related r x y)
    (hf : ∀ a b, r a b → Action.Alike E (f a) (g b)) :
    Action.Alike E (Session.check x >>= f) (Session.check y >>= g) :=
  fun s t hst => Agree.check_bind hst h fun a b _ _ hab => hf a b hab s t hst

theorem tryCatch {x y : Action α} {f g : Fault → Action α} (h : Action.Alike E x y)
    (hf : ∀ e, Action.Alike E (f e) (g e)) :
    Action.Alike E (MonadExcept.tryCatch x f) (MonadExcept.tryCatch y g) :=
  fun s t hst => (h s t hst).tryCatch hf

theorem perform {c d : Call} (h : c.Alike d) :
    Action.Alike E (Session.perform c) (Session.perform d) :=
  fun _ _ hst => ⟨rfl, hst.source, hst.replies, List.rel_append hst.calls (.cons h .nil), hst.events⟩

theorem setState (held connected : Bool) :
    Action.Alike E (Session.setState held connected) (Session.setState held connected) :=
  fun _ _ hst => ⟨rfl, ⟨hst.source.engine, hst.source.name, rfl, rfl, hst.source.options⟩,
    hst.replies, hst.calls, hst.events⟩

theorem report (hE : Steady E) (level : Log.Level) (logger message : String)
    (context : Option Mapping) : Action.Alike E (Session.report level logger message context)
      (Session.report level logger message context) :=
  fun _ _ hst => ⟨rfl, hst.addEvent hE _⟩

theorem reportSource (hE : Steady E) (level : Log.Level) (message : String) :
    Action.Alike E (Session.reportSource level message) (Session.reportSource level message) := by
  refine get_bind fun s t h => ?_
  rw [h.source.engine]
  exact report hE _ _ _ _

theorem demand (reply : Option DriverFault) :
    Action.Alike E (Session.demand reply) (Session.demand reply) := by
  cases reply with
  | none => exact pure _
  | some f => exact throw f.toFault

theorem connectReply : Action.Alike E Session.connectReply Session.connectReply := by
  refine get_bind fun s t h => ?_
  rw [h.replies]
  exact fun s' t' h' => ⟨rfl, h.source, rfl, h.calls, h.events⟩

theorem borrowReply : Action.Alike E Session.borrowReply Session.borrowReply := by
  refine get_bind fun s t h => ?_
  rw [h.replies]
  exact fun s' t' h' => ⟨rfl, h.source, rfl, h.calls, h.events⟩

theorem resultReply : Action.Alike E Session.resultReply Session.resultReply := by
  refine get_bind fun s t h => ?_
  rw [h.replies]
  exact fun s' t' h' => ⟨rfl, h.source, rfl, h.calls, h.events⟩

theorem onRefusal {x y : Action α} {f : String → Action Unit} (h : Action.Alike E x y)
    (hf : ∀ m, Action.Alike E (f m) (f m)) :
    Action.Alike E (Session.onRefusal x f) (Session.onRefusal y f) := by
  refine tryCatch h fun e => ?_
  cases e with
  | driver m => exact (hf m).bind fun _ => throw _
  | _ => exact throw _

theorem finishing {x y : Action α} {last : Action Unit} (h : Action.Alike E x y)
    (hlast : Action.Alike E last last) :
    Action.Alike E (Session.finishing x last) (Session.finishing y last) := by
  have hmap : Action.Alike E (Except.ok <$> x : Action (Outcome α)) (Except.ok <$> y) := by
    rw [map_eq_pure_bind, map_eq_pure_bind]
    exact h.bind fun a => pure _
  exact (hmap.tryCatch fun e => pure _).bind fun r => hlast.bind fun _ => check r

/-! ### Opening and closing -/

theorem connectionFailed (hE : Steady E) (message : String) :
    Action.Alike E (Session.connectionFailed message) (Session.connectionFailed message) := by
  refine get_bind fun s t h => ?_
  dsimp only
  rw [h.source.engine, h.source.name]
  exact (check _).bind fun _ => (reportSource hE _ _).bind fun _ => throw _

theorem connectionOpened (hE : Steady E) :
    Action.Alike E Session.connectionOpened Session.connectionOpened := by
  refine get_bind fun s t h => ?_
  dsimp only
  rw [h.source.engine, h.source.name]
  exact (check _).bind fun _ => reportSource hE _ _

theorem connectFile (hE : Steady E) : Action.Alike E Session.connectFile Session.connectFile := by
  refine get_bind fun s t h => ?_
  dsimp only
  have hpath : s.source.path = t.source.path := h.source.optionOr _ _ (by decide) (by decide)
  have hreadOnly : s.source.readOnly = t.source.readOnly :=
    h.source.optionOr _ _ (by decide) (by decide)
  rw [hpath, hreadOnly]
  refine (check _).bind fun _ => (reportSource hE _ _).bind fun _ => Alike.bind ?_ fun _ =>
    (setState true true).bind fun _ => connectionOpened hE
  refine onRefusal ?_ (connectionFailed hE)
  exact (perform (.same _)).bind fun _ => connectReply.bind demand

theorem related_poolSettings {a b : Source} (h : a.Alike b) :
    Outcome.Related Mapping.Alike (poolSettings a) (poolSettings b) := by
  unfold poolSettings
  rw [h.option "host" (by decide) (by decide), h.option "database" (by decide) (by decide),
    h.optionOr "port" _ (by decide) (by decide)]
  refine (Outcome.Related.refl (fun v : Value => rfl) _).bind fun host _ hhost => ?_
  refine (Outcome.Related.refl (fun v : Value => rfl) _).bind fun database _ hdatabase => ?_
  refine (h.related_option "user").bind fun user user' _ => ?_
  refine (h.related_option "password").bind fun password password' _ => .ok ?_
  rw [← hhost, ← hdatabase]
  exact .cons ⟨rfl, .inl rfl⟩ <| .cons ⟨rfl, .inl rfl⟩ <| .cons ⟨rfl, .inl rfl⟩ <|
    .cons ⟨rfl, .inr (.inl rfl)⟩ <| .cons ⟨rfl, .inr (.inr rfl)⟩ .nil

theorem connectPool (hE : Steady E) : Action.Alike E Session.connectPool Session.connectPool := by
  refine onRefusal (get_bind fun s t h => ?_) (connectionFailed hE)
  dsimp only
  have hleast : s.source.leastConnections = t.source.leastConnections :=
    h.source.optionOr _ _ (by decide) (by decide)
  have hmost : s.source.mostConnections = t.source.mostConnections :=
    h.source.optionOr _ _ (by decide) (by decide)
  rw [h.source.option "host" (by decide) (by decide), hleast, hmost, h.source.connected,
    h.source.option "database" (by decide) (by decide)]
  refine (check _).bind fun database => (check _).bind fun host => ?_
  refine (reportSource hE _ _).bind fun _ => ?_
  refine check_bind (related_poolSettings h.source) fun settings settings' hsettings => ?_
  refine (perform (.openPool _ _ hsettings)).bind fun _ => connectReply.bind fun r => ?_
  refine (demand r).bind fun _ => (setState _ _).bind fun _ => (perform (.same _)).bind fun _ => ?_
  refine borrowReply.bind fun r => (demand r).bind fun _ => (perform (.same _)).bind fun _ => ?_
  exact (setState _ _).bind fun _ => connectionOpened hE

theorem connect (hE : Steady E) : Action.Alike E Session.connect Session.connect := by
  refine get_bind fun s t h => ?_
  rw [h.source.engine]
  cases t.source.engine with
  | duckdb => exact connectFile hE
  | postgresql => exact connectPool hE

/-- **Making sure that the data source is connected.** -/
theorem ensureConnected (hE : Steady E) :
    Action.Alike E Session.ensureConnected Session.ensureConnected := by
  refine get_bind fun s t h => ?_
  rw [h.source.connected]
  cases t.source.connected with
  | true => exact pure _
  | false =>
    refine (connect hE).bind fun _ => get_bind fun s t h => ?_
    rw [h.source.held]
    exact setState _ _

theorem disconnect (hE : Steady E) : Action.Alike E Session.disconnect Session.disconnect := by
  refine get_bind fun s t h => ?_
  dsimp only
  rw [h.source.held, h.source.engine, h.source.name]
  cases t.source.held with
  | false => exact pure _
  | true =>
    refine (perform (.same _)).bind fun _ => (check _).bind fun _ => ?_
    exact (reportSource hE _ _).bind fun _ => setState _ _

theorem leave (hE : Steady E) : Action.Alike E Session.leave Session.leave := by
  refine (disconnect hE).bind fun _ => get_bind fun s t h => ?_
  rw [h.source.held]
  exact setState _ _

/-! ### Statements -/

theorem send (sql : String) {args args' : List Value} (h : args.length = args'.length) :
    Action.Alike E (Session.send sql args) (Session.send sql args') := by
  refine (perform (.execute sql h)).bind fun _ => resultReply.bind fun r => ?_
  cases r with
  | ok r => exact pure r
  | error f => exact throw f.toFault

theorem giveBack : Action.Alike E Session.giveBack Session.giveBack := by
  refine get_bind fun s t h => ?_
  rw [h.source.held]
  cases t.source.held with
  | false => exact pure _
  | true => exact perform (.same _)

theorem borrowing {x y : Action α} {refused : String → Action Unit} (h : Action.Alike E x y)
    (hrefused : ∀ m, Action.Alike E (refused m) (refused m)) :
    Action.Alike E (Session.borrowing x refused) (Session.borrowing y refused) := by
  have hborrowed : Action.Alike E
      (do
        Session.perform .borrow
        Session.demand (← Session.borrowReply)
        Session.finishing (Session.onRefusal x refused) Session.giveBack)
      (do
        Session.perform .borrow
        Session.demand (← Session.borrowReply)
        Session.finishing (Session.onRefusal y refused) Session.giveBack) := by
    refine (perform (.same _)).bind fun _ => borrowReply.bind fun r => (demand r).bind fun _ => ?_
    exact finishing (onRefusal h hrefused) giveBack
  refine get_bind fun s t hst => ?_
  dsimp only
  rw [hst.source.held, hst.source.name]
  cases t.source.held with
  | false => exact (check _).bind fun _ => (throw _).bind fun _ => hborrowed
  | true => exact hborrowed

theorem inspect (hE : Steady E) (query : Engine → String) (args : List Value)
    (failure : Outcome String) (read : Engine → ResultSet → Outcome α) :
    Action.Alike E (Session.inspect query args failure read)
      (Session.inspect query args failure read) := by
  refine get_bind fun s t h => ?_
  dsimp only
  rw [h.source.engine, h.source.held]
  have hread : ∀ e, Action.Alike E (do Session.check (read e (← Session.send (query e) args)))
      (do Session.check (read e (← Session.send (query e) args))) :=
    fun e => (send (query e) rfl).bind fun r => check _
  cases t.source.engine with
  | duckdb =>
    cases t.source.held with
    | false => exact (throw _).bind fun _ => hread .duckdb
    | true => exact hread .duckdb
  | postgresql =>
    refine borrowing (hread .postgresql) fun m => ?_
    exact (check failure).bind fun _ => reportSource hE _ _

theorem listTables (hE : Steady E) (schema : Value) :
    Action.Alike E (Session.listTables schema) (Session.listTables schema) := inspect hE _ _ _ _

theorem describe (hE : Steady E) (schema table : Value) :
    Action.Alike E (Session.describe schema table) (Session.describe schema table) :=
  (inspect hE _ _ _ _).bind fun _ => pure _

theorem reportExecution (hE : Steady E) (sql : String) :
    Action.Alike E (Session.reportExecution sql) (Session.reportExecution sql) := by
  refine get_bind fun s t h => ?_
  rw [h.source.name]
  exact (check _).bind fun _ => reportSource hE _ _

theorem executePooled (hE : Steady E) (sql : String) {args args' : List Value}
    (h : args.length = args'.length) :
    Action.Alike E (Session.executePooled sql args) (Session.executePooled sql args') := by
  refine borrowing ?_ fun m => ?_
  · refine (reportExecution hE sql).bind fun _ => (send sql h).bind fun r => ?_
    cases r.columns with
    | none => exact throw _
    | some names => exact (perform (.same _)).bind fun _ => check _
  · refine (perform (.same _)).bind fun _ => get_bind fun s t h => ?_
    rw [h.source.name]
    exact (check _).bind fun _ => reportSource hE _ _

theorem executeFile (hE : Steady E) (sql : String) {args args' : List Value}
    (h : args.length = args'.length) :
    Action.Alike E (Session.executeFile sql args) (Session.executeFile sql args') := by
  have hsent : Action.Alike E
      (do
        Session.reportExecution sql
        let r ← Session.send sql args
        Session.check (Table.ofRows (r.columns.getD []) r.rows))
      (do
        Session.reportExecution sql
        let r ← Session.send sql args'
        Session.check (Table.ofRows (r.columns.getD []) r.rows)) :=
    (reportExecution hE sql).bind fun _ => (send sql h).bind fun r => check _
  refine get_bind fun s t hst => ?_
  dsimp only
  rw [hst.source.held, hst.source.name]
  cases t.source.held with
  | false => exact (check _).bind fun _ => (throw _).bind fun _ => hsent
  | true => exact hsent

/-- **Running a query**, with as many values. -/
theorem execute (hE : Steady E) (sql : String) {args args' : List Value}
    (h : args.length = args'.length) :
    Action.Alike E (Session.execute sql args) (Session.execute sql args') := by
  refine get_bind fun s t hst => ?_
  rw [hst.source.engine]
  cases t.source.engine with
  | duckdb => exact executeFile hE sql h
  | postgresql => exact executePooled hE sql h

end Action.Alike

end Session

end BoundSql
