import BoundSql.Proofs.Outcome
import BoundSql.Session

/-! # What the actions do to a session

`Action.on` runs an action on a session. Actions in sequence are taken apart by `on_bind_ok` and
`on_bind_error`, and what a primitive action does is one equation. An action that is tried and fails
has still done what it did (`on_onRefusal_of_not_driver`). -/

namespace BoundSql.Session

variable {α β : Type}

namespace Action

/-- The outcome of an action on a session, and the session after it. -/
def on (a : Action α) (s : Session) : Outcome α × Session := a.run.run s

@[simp] theorem on_get (s : Session) : on get s = (.ok s, s) := rfl

@[simp] theorem on_check (x : Outcome α) (s : Session) : on (check x) s = (x, s) := rfl

theorem on_bind_ok {a : Action α} {f : α → Action β} {s s' : Session} {x : α}
    (h : on a s = (.ok x, s')) : on (a >>= f) s = on (f x) s' := Outcome.run_bind_ok h

theorem on_bind_error {a : Action α} {f : α → Action β} {s s' : Session} {e : Fault}
    (h : on a s = (.error e, s')) : on (a >>= f) s = (.error e, s') := Outcome.run_bind_error h

theorem on_tryCatch (a : Action α) (f : Fault → Action α) (s : Session) : on (tryCatch a f) s =
    match on a s with
    | (.ok x, s') => (.ok x, s')
    | (.error e, s') => on (f e) s' := by
  unfold on
  change (ExceptT.tryCatch a f).run.run s = _
  unfold ExceptT.tryCatch
  rw [ExceptT.run_mk, StateT.run_bind]
  change StateT.run a.run s >>= _ = _
  rcases StateT.run a.run s with ⟨e | x, s'⟩ <;> rfl

end Action

open Session.Action

/-! ### Calls, replies and events -/

/-- The session with calls made. -/
def addCalls (s : Session) (cs : List Call) : Session := { s with calls := s.calls ++ cs }

/-- The session with events reported. -/
def addEvents (s : Session) (es : List Log.Event) : Session := { s with events := s.events ++ es }

@[simp] theorem on_report (level : Log.Level) (logger message : String) (context : Option Mapping)
    (s : Session) : on (report level logger message context) s =
      (.ok ⟨⟩, s.addEvents [⟨level, logger, message, context⟩]) := rfl

@[simp] theorem on_reportSource (level : Log.Level) (message : String) (s : Session) :
    on (reportSource level message) s =
      (.ok ⟨⟩, s.addEvents [⟨level, s.source.engine.logger, message, none⟩]) := rfl

@[simp] theorem on_setState (held connected : Bool) (s : Session) : on (setState held connected) s =
    (.ok ⟨⟩, { s with source := { s.source with held, connected } }) := rfl

/-- What the driver answers next to opening a database or a pool. -/
def nextConnect (s : Session) : Option DriverFault := s.replies.connect.head?.getD none

/-- What the driver answers next to borrowing a connection. -/
def nextBorrow (s : Session) : Option DriverFault := s.replies.borrow.head?.getD none

theorem on_demand_none (s : Session) : on (demand none) s = (.ok ⟨⟩, s) := rfl

theorem on_demand_some (f : DriverFault) (s : Session) :
    on (demand (some f)) s = (.error f.toFault, s) := rfl

theorem addEvents_nil (s : Session) : s.addEvents [] = s := by
  unfold addEvents
  rw [List.append_nil]

/-! ### Texts of values -/

theorem on_bind_shown_of_short {v : Value} (h : v.hasLongNumeral = false) (f : String → Action α)
    (s : Session) : on (check v.shown >>= f) s = on (f v.plain) s := by
  rw [Value.shown_of_short h]
  rfl

theorem on_bind_shown_of_long {v : Value} (h : v.hasLongNumeral = true) (f : String → Action α)
    (s : Session) : on (check v.shown >>= f) s = (.error (.unwritable Text.numeralLimit), s) := by
  rw [Value.shown_of_long h]
  rfl

/-! ### Actions that are tried -/

theorem on_onRefusal_of_ok {a : Action α} {g : String → Action Unit} {s s' : Session} {x : α}
    (h : on a s = (.ok x, s')) : on (onRefusal a g) s = (.ok x, s') := by
  unfold onRefusal
  rw [on_tryCatch, h]

/-- Only a refusal of the driver is answered. -/
theorem on_onRefusal_of_not_driver {a : Action α} {g : String → Action Unit} {f : Fault}
    {s s' : Session} (h : on a s = (.error f, s')) (hf : ∀ m, f ≠ .driver m) :
    on (onRefusal a g) s = (.error f, s') := by
  unfold onRefusal
  rw [on_tryCatch, h]
  cases f with
  | driver m => exact absurd rfl (hf m)
  | _ => rfl

end BoundSql.Session
