import BoundSql.Proofs.CommandLine.AllOrNothing
import BoundSql.Proofs.Log.Setting

/-! # What the error stream ends with

The error stream holds whole lines: those of log records, and at last the one that reports the fault
that ended the work (`IsErrorReport`). That is kept by every step of the work (`Reports`), and so by the
work as a whole (`reports_perform`). -/

namespace BoundSql

/-- The text consists of whole lines. -/
def IsLines (text : String) : Prop := text = "" ∨ ∃ before, text = before ++ "\n"

theorem isLines_append (text line : String) : IsLines (text ++ line ++ "\n") := .inr ⟨_, rfl⟩

/-! ### Log records -/

namespace Log.Logging

open Outcome

variable {l : Logging}

theorem isLines_emit (h : IsLines l.stderr) (handler : Handler) (line : String) :
    IsLines (emit handler (line ++ "\n") l).stderr := by
  unfold emit
  split
  · change IsLines (l.stderr ++ (line ++ "\n"))
    rw [← String.append_assoc]
    exact isLines_append ..
  · exact h

theorem isLines_handle (h : IsLines l.stderr) (r : Record) (handler : Handler) :
    IsLines (handle r l handler).stderr := by
  unfold handle
  split
  · exact h
  · split
    · exact isLines_emit h handler _
    · exact h

theorem isLines_write (h : IsLines l.stderr) (r : Record) : IsLines (write r l).stderr := by
  have hhandle : ∀ (handlers : List Handler) (l : Logging), IsLines l.stderr →
      IsLines (handlers.foldl (handle r) l).stderr := by
    intro handlers
    induction handlers with
    | nil => exact fun _ h => h
    | cons handler rest ih => exact fun l h => ih _ (isLines_handle h r handler)
  unfold write
  split
  · exact h
  split
  · unfold lastResort
    split
    · exact h
    · split
      · exact isLines_append ..
      · exact h
  · exact hhandle l.handlers l h

theorem isLines_writeEvents (reading : Nat → Reading) (events : List (Event × Nat))
    (h : IsLines l.stderr) :
    IsLines (events.foldl (fun l e => l.writeEvent (reading e.2) e.1) l).stderr := by
  induction events generalizing l with
  | nil => exact h
  | cons e rest ih => exact ih (isLines_write h _)

/-- A setup writes nothing. -/
theorem stderr_setup (level structured logFile : Value) (l : Logging) :
    ((setup level structured logFile).run.run l).2.stderr = l.stderr := by
  rcases hsetting : Setting.of l.files level structured logFile with f | c
  · obtain ⟨_, _, -, hrun⟩ := run_setup_of_error hsetting
    rw [hrun]
  · obtain ⟨_, -, hrun⟩ := run_setup_of_ok hsetting
    rw [hrun]
    rfl

end Log.Logging

/-! ### Work -/

namespace CommandLine

variable {α β : Type}

/-- The last line says what the fault was. -/
def IsErrorReport (text : String) : Prop :=
  ∃ before, ∃ f : Fault, IsLines before ∧ text = before ++ "error: " ++ f.message ++ "\n"

/-- The work leaves whole lines on the error stream. If a fault ends it that is reported, then the last
of them says what the fault was. -/
structure Reports (a : Action α) : Prop where
  lines : ∀ σ, IsLines σ.logging.stderr → IsLines (on a σ).2.logging.stderr
  last : ∀ σ, IsLines σ.logging.stderr → (on a σ).1 = .error .reported →
    IsErrorReport (on a σ).2.logging.stderr

/-- Work that leaves the log alone, and does not end by reporting a fault. -/
theorem reports_of_silent {a : Action α} (hlogging : ∀ σ, (on a σ).2.logging = σ.logging)
    (h : ∀ σ, (on a σ).1 ≠ .error .reported) : Reports a where
  lines σ hσ := by rw [hlogging]; exact hσ
  last σ _ hreported := absurd hreported (h σ)

theorem reports_pure (x : α) : Reports (pure x) := reports_of_silent (fun _ => rfl) fun _ h => nomatch h

theorem reports_throw {e : Stop} (h : e ≠ .reported) : Reports (throw e : Action α) :=
  reports_of_silent (fun _ => rfl) fun _ he => h (Except.error.inj he)

theorem reports_print (line : String) : Reports (print line) :=
  reports_of_silent (fun _ => rfl) fun _ h => nomatch h

theorem reports_bind {a : Action α} {f : α → Action β} (ha : Reports a) (hf : ∀ x, Reports (f x)) :
    Reports (a >>= f) where
  lines σ hσ := by
    have hlines := ha.lines σ hσ
    rcases hon : on a σ with ⟨e | x, σ'⟩ <;> rw [hon] at hlines
    · rw [on_bind_error hon]
      exact hlines
    · rw [on_bind_ok hon]
      exact (hf x).lines σ' hlines
  last σ hσ := by
    have hlines := ha.lines σ hσ
    have hlast := ha.last σ hσ
    rcases hon : on a σ with ⟨e | x, σ'⟩ <;> rw [hon] at hlines hlast
    · rw [on_bind_error hon]
      exact fun he => hlast (congrArg Except.error (Except.error.inj he))
    · rw [on_bind_ok hon]
      exact (hf x).last σ' hlines

theorem reports_complain (f : Fault) : Reports (do
    complain ("error: " ++ f.message)
    throw .reported : Action α) where
  lines σ _ := isLines_append ..
  last σ hσ _ := by
    refine ⟨σ.logging.stderr, f, hσ, ?_⟩
    change σ.logging.stderr ++ ("error: " ++ f.message) ++ "\n" = _
    rw [← String.append_assoc]

theorem reports_require (isReported : Fault → Bool) (x : Outcome α) :
    Reports (require isReported x) := by
  rcases x with f | a
  · unfold require stop
    dsimp only
    cases isReported f with
    | true => exact reports_complain f
    | false => exact reports_throw nofun
  · exact reports_pure a

theorem reports_forM {f : α → Action Unit} (hf : ∀ x, Reports (f x)) :
    ∀ xs : List α, Reports (xs.forM f)
  | [] => reports_pure PUnit.unit
  | x :: xs => reports_bind (hf x) fun _ => reports_forM hf xs

theorem reports_setupLogging (level structured logFile : Value) :
    Reports (setupLogging level structured logFile) := by
  have hrun : ∀ σ : State, ∃ result logging, logging.stderr = σ.logging.stderr ∧
      on (setupLogging level structured logFile) σ = on (require never result) { σ with logging } :=
    fun σ => ⟨_, _, Log.Logging.stderr_setup level structured logFile σ.logging, on_setupLogging rfl⟩
  constructor <;> intro σ hσ <;> obtain ⟨result, logging, hstderr, hon⟩ := hrun σ <;> rw [hon]
  · exact (reports_require never result).lines _ (hstderr.symm ▸ hσ)
  · exact (reports_require never result).last _ (hstderr.symm ▸ hσ)

theorem reports_inSession (clock : Clock) (source : Source) (replies : Replies)
    (a : Session.Action α) : Reports (inSession clock source replies a) where
  lines _ hσ := Log.Logging.isLines_writeEvents _ _ hσ
  last _ _ h := nomatch h

theorem reports_showRows (clock : Clock) (rows : List Row) : Reports (showRows clock rows) := by
  unfold showRows
  rcases Grid.display (rows.map rowEntries) (.float clock.elapsed) with ⟨lines, fault⟩
  refine reports_bind (reports_forM reports_print lines) fun _ => ?_
  rcases fault with _ | f
  · exact reports_pure PUnit.unit
  · exact reports_throw nofun

theorem reports_render (files : Files) (level : Option String) (query : String) :
    Reports (render files level query) := by
  refine reports_bind (reports_setupLogging ..) fun _ => ?_
  refine reports_bind (reports_require ..) fun b => ?_
  refine reports_bind (reports_require ..) fun sql => reports_bind (reports_print sql) fun _ => ?_
  exact reports_forM (fun p => reports_bind (reports_require ..) reports_print) b.params

theorem reports_execute (clock : Clock) (files : Files) (replies : Replies) (level : Option String)
    (query config : String) (name : Option String) :
    Reports (execute clock files replies level query config name) := by
  refine reports_bind (reports_require ..) fun c => ?_
  refine reports_bind (reports_setupLogging ..) fun _ => ?_
  rcases chooseSource c name with f | chosen
  · exact reports_of_silent (fun _ => rfl) fun _ h => nomatch h
  refine reports_bind (reports_pure chosen) fun chosen => ?_
  refine reports_bind (reports_require ..) fun b => reports_bind (reports_require ..) fun source => ?_
  refine reports_bind (reports_inSession ..) fun outcome => ?_
  exact reports_bind (reports_require ..) (reports_showRows clock)

/-- **The error stream after a request.** -/
theorem reports_perform (clock : Clock) (files : Files) (replies : Replies) (r : Request) :
    Reports (perform clock files replies r) := by
  unfold perform
  split
  · exact reports_render ..
  · exact reports_execute ..
  · exact reports_pure PUnit.unit

end CommandLine

end BoundSql
