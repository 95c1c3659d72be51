import BoundSql.Proofs.Session.Shown
import Mathlib.Algebra.Group.Nat.Defs

/-! # Secrets stay out of the log

Two runs of the same uses of a session are compared, moment by moment (`moments`). They differ in the
values that are bound, and in the user and the password of the data source. At each moment both have
had the same outcome, have made alike calls and have reported the same, as long as no values are to be
shown.

If values are to be shown, the reports about the queries differ in what is shown. That is the only
difference in what is reported exactly if the same uses of both runs are stopped because values cannot
be written (`log_alike_iff`): one that is stopped reports less (`Use.Alike.length_lt_of_stops`). -/

namespace BoundSql.Session

open Session.Action Outcome

variable {E : List Log.Event → List Log.Event → Prop} {s t : Session} {q q' : Task} {u v : Use}
  {us vs : List Use}

/-! ### A use that is stopped -/

/-- What has been reported stays, and more may follow. -/
theorem events_prefix_execute (sql : String) (args : List Value) (s : Session) :
    s.events <+: (on (execute sql args) s).2.events := by
  -- compared with a session that has reported nothing before
  have hsteady : Steady fun xs ys => s.events ++ xs = ys := fun xs ys e h => by
    rw [← h, List.append_assoc]
  have halike : ({ s with events := [] } : Session).Alike (fun xs ys => s.events ++ xs = ys) s :=
    ⟨.refl _, rfl, List.forall₂_same.mpr fun c _ => .same c, List.append_nil _⟩
  exact ⟨_, (Action.Alike.execute hsteady sql rfl _ _ halike).session.events⟩

theorem on_runConnected_of_isUnwritable (h : q.isUnwritable s.source.engine = true) :
    ∃ f, on (runConnected q.config q.sql q.params) s = (.error f, s) := by
  obtain ⟨sql, args, hbind, htruthy, hlong⟩ := Task.exists_bind_of_isUnwritable h
  unfold runConnected
  rw [on_bind_ok (on_get s)]
  dsimp only
  rw [hbind, on_bind_ok (on_check (.ok (sql, args)) s)]
  dsimp only
  rw [Task.shownValues_of_truthy htruthy, hlong]
  exact ⟨_, rfl⟩

theorem on_runConnected_of_shown {sql shown : String} {args : List Value}
    (hbind : Placeholder.bind s.source.engine q.sql q.params = .ok (sql, args))
    (hshown : shownValues q.config args = .ok shown) :
    on (runConnected q.config q.sql q.params) s =
      on (execute sql args) (s.addEvents [running s.source.name sql shown]) := by
  unfold runConnected
  rw [on_bind_ok (on_get s)]
  dsimp only
  rw [hbind, on_bind_ok (on_check (.ok (sql, args)) s)]
  dsimp only
  rw [hshown, on_bind_ok (on_check (.ok shown) s), on_bind_ok (on_report ..)]
  rfl

/-- A query that is stopped reports less than one that is not. -/
theorem Task.Alike.length_lt_of_isUnwritable (hq : q.Alike q')
    (hengine : s.source.engine = t.source.engine) (hevents : s.events.length = t.events.length)
    (h : q.isUnwritable s.source.engine = true) (h' : q'.isUnwritable t.source.engine = false) :
    (on (runConnected q.config q.sql q.params) s).2.events.length <
      (on (runConnected q'.config q'.sql q'.params) t).2.events.length := by
  obtain ⟨f, hstopped⟩ := on_runConnected_of_isUnwritable h
  obtain ⟨sql, args', shown, hbind', hshown'⟩ : ∃ sql args' shown,
      Placeholder.bind t.source.engine q'.sql q'.params = .ok (sql, args') ∧
      shownValues q'.config args' = .ok shown := by
    have hrelated := hq.related_bind t.source.engine
    obtain ⟨sql, args, hbind, htruthy, -⟩ := exists_bind_of_isUnwritable (hengine ▸ h)
    rw [hq.config] at htruthy
    rcases hbind' : Placeholder.bind t.source.engine q'.sql q'.params with f | ⟨sql', args'⟩ <;>
      rw [hbind, hbind'] at hrelated
    · cases hrelated
    · rw [isUnwritable_of_bind hbind', htruthy, Bool.true_and] at h'
      refine ⟨sql', args', " with " ++ (Value.list args').literal, rfl, ?_⟩
      rw [shownValues_of_truthy htruthy, h']
      rfl
  rw [hstopped, on_runConnected_of_shown hbind' hshown']
  calc s.events.length = t.events.length := hevents
    _ < (t.addEvents [running t.source.name sql shown]).events.length := by
      rw [addEvents, List.length_append, List.length_singleton]
      exact Nat.lt_succ_self _
    _ ≤ _ := (events_prefix_execute sql args' _).length_le

/-- What a use reports before its query is run. -/
def Use.prelude : Use → List Log.Event
  | query _ b _ =>
    match b.sql with
    | .ok sql => [⟨Log.debug, builderLogger, "Prepared query " ++ sql, none⟩]
    | .error _ => []
  | connect | ensureConnected | leave | disconnect | listTables _ | describe .. | execute ..
  | runToTable .. | run .. => []

theorem Use.Alike.prelude (h : u.Alike v) : u.prelude = v.prelude := by
  cases h with
  | query config shape hsql =>
    rw [Use.prelude, Use.prelude, hsql]
  | _ => rfl

theorem Use.after_of_task (h : u.task = some q) (s : Session) :
    u.after s = (on q.perform (s.addEvents u.prelude)).2 := by
  cases u with
  | runToTable config sql params =>
    cases h
    rw [prelude, addEvents_nil]
    exact on_bind_snd fun _ _ => rfl
  | run config sql params shape =>
    cases h
    rw [prelude, addEvents_nil]
    exact (on_bind_snd fun _ _ => rfl).trans (on_run_snd config sql params shape s)
  | query config b shape =>
    rcases hb : b.sql with f | sql <;> rw [task, hb] at h <;> cases h
    refine (on_bind_snd fun _ _ => rfl).trans ?_
    unfold Session.query
    rw [prelude, hb, on_bind_ok (on_check (.ok sql) s), on_bind_ok (on_report ..),
      on_tryCatch_throw_snd]
    exact on_run_snd config sql b.paramMap shape _
  | _ => cases h

theorem Use.exists_task_of_stops (h : u.stops s = true) : ∃ q, u.task = some q ∧
    (on Session.ensureConnected s).1.isOk = true ∧ q.isUnwritable s.source.engine = true := by
  rcases htask : u.task with _ | q <;> rw [stops, htask] at h
  · cases h
  · exact ⟨q, rfl, Bool.and_eq_true_iff.mp h⟩

/-- A use that is stopped reports less than one that is not. -/
theorem Use.Alike.length_lt_of_stops (huv : u.Alike v)
    (hst : s.Alike (fun xs ys => xs.length = ys.length) t) (h : u.stops s = true)
    (h' : v.stops t = false) : (u.after s).events.length < (v.after t).events.length := by
  have hsteady : Steady fun xs ys : List Log.Event => xs.length = ys.length := by
    intro xs ys e hlength
    rw [List.length_append, List.length_append, hlength]
  obtain ⟨q, htask, hok, hunwritable⟩ := exists_task_of_stops h
  obtain ⟨q', htask', hq⟩ : ∃ q', v.task = some q' ∧ q.Alike q' := by
    have hrel := huv.rel_task
    rw [htask] at hrel
    rcases htask' : v.task with _ | q' <;> rw [htask'] at hrel <;> cases hrel
    next hq => exact ⟨q', rfl, hq⟩
  have hopen := (Action.Alike.ensureConnected hsteady s t hst).outcome
  have hwritable : q'.isUnwritable t.source.engine = false := by
    rw [stops, htask'] at h'
    change ((on Session.ensureConnected t).1.isOk && q'.isUnwritable t.source.engine) = false at h'
    rw [← hopen, hok, Bool.true_and] at h'
    exact h'
  -- both are connected in the same way, after they have reported the same
  have hprelude : (s.addEvents u.prelude).Alike (fun xs ys => xs.length = ys.length)
      (t.addEvents u.prelude) := by
    refine ⟨hst.source, hst.replies, hst.calls, ?_⟩
    rw [addEvents, addEvents, List.length_append, List.length_append, hst.events]
  have hconnect := Action.Alike.ensureConnected hsteady _ _ hprelude
  have hengine := engine_ensureConnected (s.addEvents u.prelude)
  have hengine' := engine_ensureConnected (t.addEvents u.prelude)
  rw [← ensureConnected_addEvents s u.prelude] at hok
  rw [after_of_task htask, after_of_task htask', ← huv.prelude]
  rcases hs : on Session.ensureConnected (s.addEvents u.prelude) with ⟨f | ⟨⟩, s'⟩ <;>
    rw [hs] at hok hconnect hengine
  · cases hok
  rcases ht : on Session.ensureConnected (t.addEvents u.prelude) with ⟨f | ⟨⟩, t'⟩ <;>
    rw [ht] at hconnect hengine'
  · cases hconnect.outcome
  · rw [Task.perform, Task.perform, runToTable_eq, runToTable_eq, on_bind_ok hs, on_bind_ok ht]
    refine hq.length_lt_of_isUnwritable hconnect.session.source.engine hconnect.session.events ?_ ?_
    · exact (congrArg q.isUnwritable hengine).trans hunwritable
    · exact (congrArg q'.isUnwritable hengine').trans hwritable

theorem Use.Alike.stops_eq_of_length (huv : u.Alike v) (hst : s.Alike (List.Forall₂ SameReport) t)
    (hlength : (u.after s).events.length = (v.after t).events.length) : u.stops s = v.stops t := by
  have hst' : s.Alike (fun xs ys => xs.length = ys.length) t :=
    ⟨hst.source, hst.replies, hst.calls, hst.events.length_eq⟩
  rcases hu : u.stops s with _ | _ <;> rcases hv : v.stops t with _ | _
  · rfl
  · exact absurd hlength (huv.symm.length_lt_of_stops (hst'.symm hst'.events.symm) hv hu).ne'
  · exact absurd hlength (huv.length_lt_of_stops hst' hu hv).ne
  · rfl

/-- Uses that are both stopped, or neither is, are alike up to what is shown of the values. -/
theorem Use.Alike.agree_of_stops (huv : u.Alike v) (hst : s.Alike (List.Forall₂ SameReport) t)
    (h : u.stops s = v.stops t) : Agree (List.Forall₂ SameReport) (on u.perform s) (on v.perform t) := by
  refine huv.agree steady_sameReport hst fun q htask q' htask' hok => ?_
  have hopen := (Action.Alike.ensureConnected steady_sameReport s t hst).outcome
  refine (huv.task_alike htask htask').shownAlike_of_isUnwritable ?_
  rw [stops, stops, htask, htask', Option.any_some, Option.any_some, ← hopen, hok,
    ← hst.source.engine, Bool.true_and, Bool.true_and] at h
  exact h

/-! ### Runs -/

/-- A use and the session it begins with. -/
structure Moment where
  use : Use
  before : Session

namespace Moment

/-- What is returned. -/
def outcome (m : Moment) : Outcome Answer := (on m.use.perform m.before).1

def after (m : Moment) : Session := m.use.after m.before

/-- The use is stopped because values are to be shown and cannot be written. -/
def stops (m : Moment) : Bool := m.use.stops m.before

/-- The same outcome and alike calls, and what has been reported until then is related. -/
structure Alike (E : List Log.Event → List Log.Event → Prop) (m n : Moment) : Prop where
  outcome : m.outcome = n.outcome
  calls : List.Forall₂ Call.Alike m.after.calls n.after.calls
  events : E m.after.events n.after.events

end Moment

/-- The moments of a run, one use after another, whether or not they succeed. -/
def moments : List Use → Session → List Moment
  | [], _ => []
  | u :: us, s => ⟨u, s⟩ :: moments us (u.after s)

theorem Agree.moment (h : Agree E (on u.perform s) (on v.perform t)) :
    Moment.Alike E ⟨u, s⟩ ⟨v, t⟩ := ⟨h.outcome, h.session.calls, h.session.events⟩

/-- Runs are alike throughout if no values are to be shown. -/
theorem moments_alike_of_hidden (huses : List.Forall₂ Use.Alike us vs) : ∀ {s t : Session},
    s.Alike Eq t → (∀ u ∈ us, ∀ q ∈ u.task, q.config.logParameters.truthy = false) →
    List.Forall₂ (Moment.Alike Eq) (moments us s) (moments vs t) := by
  induction huses with
  | nil => exact fun _ _ => .nil
  | @cons u v us vs huv _ ih =>
    intro s t hst hhidden
    obtain ⟨hu, hus⟩ := List.forall_mem_cons.mp hhidden
    have hagree : Agree Eq (on u.perform s) (on v.perform t) := by
      refine huv.agree steady_eq hst fun q hq q' hq' _ => ?_
      exact (huv.task_alike hq hq').shownAlike_of_hidden steady_eq (hu q hq) _
    exact .cons hagree.moment (ih hagree.session hus)

/-- Runs are alike up to what is shown of the values as long as the same uses are stopped. -/
theorem moments_alike_of_stops (huses : List.Forall₂ Use.Alike us vs) : ∀ {s t : Session},
    s.Alike (List.Forall₂ SameReport) t →
    List.Forall₂ (fun m n => m.stops = n.stops) (moments us s) (moments vs t) →
    List.Forall₂ (Moment.Alike (List.Forall₂ SameReport)) (moments us s) (moments vs t) := by
  induction huses with
  | nil => exact fun _ _ => .nil
  | @cons u v us vs huv _ ih =>
    intro s t hst hstops
    obtain ⟨hsame, hrest⟩ := List.forall₂_cons.mp hstops
    have hagree := huv.agree_of_stops hst hsame
    exact .cons hagree.moment (ih hagree.session hrest)

/-- As long as nothing else differs in what has been reported, the same uses have been stopped. -/
theorem stops_of_sameReport (huses : List.Forall₂ Use.Alike us vs) : ∀ {s t : Session},
    s.Alike (List.Forall₂ SameReport) t →
    List.Forall₂ (fun m n => List.Forall₂ SameReport m.after.events n.after.events) (moments us s)
      (moments vs t) →
    List.Forall₂ (fun m n => m.stops = n.stops) (moments us s) (moments vs t) := by
  induction huses with
  | nil => exact fun _ _ => .nil
  | @cons u v us vs huv _ ih =>
    intro s t hst hevents
    obtain ⟨hsame, hrest⟩ := List.forall₂_cons.mp hevents
    have hstops : u.stops s = v.stops t := huv.stops_eq_of_length hst hsame.length_eq
    have hagree := huv.agree_of_stops hst hstops
    exact .cons hstops (ih hagree.session hrest)

/-- **Secrets stay out of the log.** Two runs that differ in the values that are bound, and in the
user and the password, are alike throughout as long as no values are to be shown. If they are, what
has been reported differs only in what is shown of the values, exactly if at each moment either both
runs are stopped because values cannot be written or neither is; then the runs are alike otherwise. -/
theorem log_alike_iff {a b : Source} (hsource : a.Alike b) (replies : Replies)
    (huses : List.Forall₂ Use.Alike us vs) :
    ((∀ u ∈ us, ∀ q ∈ u.task, q.config.logParameters.truthy = false) →
      List.Forall₂ (Moment.Alike Eq) (moments us (start a replies)) (moments vs (start b replies))) ∧
    (List.Forall₂ (fun m n => List.Forall₂ SameReport m.after.events n.after.events)
        (moments us (start a replies)) (moments vs (start b replies)) ↔
      List.Forall₂ (fun m n => m.stops = n.stops) (moments us (start a replies))
        (moments vs (start b replies))) ∧
    (List.Forall₂ (fun m n => m.stops = n.stops) (moments us (start a replies))
        (moments vs (start b replies)) →
      List.Forall₂ (Moment.Alike (List.Forall₂ SameReport)) (moments us (start a replies))
        (moments vs (start b replies))) := by
  have hstart : (start a replies).Alike (List.Forall₂ SameReport) (start b replies) :=
    ⟨hsource, rfl, .nil, .nil⟩
  have halike := moments_alike_of_stops huses hstart
  refine ⟨moments_alike_of_hidden huses ⟨hsource, rfl, .nil, rfl⟩, ⟨?_, fun h => ?_⟩, halike⟩
  · exact stops_of_sameReport huses hstart
  · exact (halike h).imp fun _ _ hmn => hmn.events

/-- A query for orders with this code. -/
def lookup (logParameters : Bool) (code : Value) : Use :=
  .run ⟨.null, .bool logParameters⟩ "select id from orders where code = ?1" [(.int 1, code)] .tuple

theorem alike_lookup (logParameters : Bool) (code code' : Value) :
    (lookup logParameters code).Alike (lookup logParameters code') := .run _ _ _ rfl

/-- The shop's database with other credentials. -/
def otherShop : Source :=
  { shop with options := [(.text "host", .text "h"), (.text "port", .int 5433),
    (.text "database", .text "d"), (.text "user", .text "root"), (.text "password", .text "secret")] }

theorem log_alike_iff_lookup : shop.Alike otherShop ∧
    List.Forall₂ Use.Alike [lookup false (.text "private"), .leave] [lookup false .null, .leave] ∧
    List.Forall₂ (Moment.Alike Eq)
      (moments [lookup false (.text "private"), .leave] (start shop .success))
      (moments [lookup false .null, .leave] (start otherShop .success)) := by
  have hsource : shop.Alike otherShop :=
    ⟨rfl, rfl, rfl, rfl, .cons ⟨rfl, .inl rfl⟩ <| .cons ⟨rfl, .inl rfl⟩ <|
      .cons ⟨rfl, .inl rfl⟩ <| .cons ⟨rfl, .inr (.inl rfl)⟩ <| .cons ⟨rfl, .inr (.inr rfl)⟩ .nil⟩
  have huses : List.Forall₂ Use.Alike [lookup false (.text "private"), .leave]
      [lookup false .null, .leave] := .cons (alike_lookup ..) (.cons .leave .nil)
  refine ⟨hsource, huses, (log_alike_iff hsource .success huses).1 fun u hu q hq => ?_⟩
  rcases List.mem_pair.mp hu with rfl | rfl <;> cases hq
  rfl

/-- The least number that has too many digits to be written. -/
def longCode : Value := .int (10 ^ Text.numeralLimit : Nat)

/-- If values are to be shown, a query is not run with a number that cannot be written. It is run with
another one, and then reported. -/
theorem log_differs_longCode : List.Forall₂ Use.Alike [lookup true (.int 7)] [lookup true longCode] ∧
    (on (lookup true (.int 7)).perform (start shop .success)).1.isOk = true ∧
    (on (lookup true longCode).perform (start shop .success)).1.isOk = false ∧
    ¬List.Forall₂ (fun m n => List.Forall₂ SameReport m.after.events n.after.events)
      (moments [lookup true (.int 7)] (start shop .success))
      (moments [lookup true longCode] (start shop .success)) := by
  have huses : List.Forall₂ Use.Alike [lookup true (.int 7)] [lookup true longCode] :=
    .cons (alike_lookup ..) .nil
  have hstart : (start shop .success).Alike (List.Forall₂ SameReport) (start shop .success) :=
    ⟨.refl _, rfl, .nil, .nil⟩
  refine ⟨huses, by decide +kernel, by decide +kernel, fun hsame => ?_⟩
  obtain ⟨hstops, -⟩ := List.forall₂_cons.mp (stops_of_sameReport huses hstart hsame)
  have hseven : (lookup true (.int 7)).stops (start shop .success) = false := by decide +kernel
  have hlong : (lookup true longCode).stops (start shop .success) = true := by decide +kernel
  rw [Moment.stops, Moment.stops, hseven, hlong] at hstops
  cases hstops

end BoundSql.Session
