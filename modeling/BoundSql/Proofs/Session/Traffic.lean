import BoundSql.Proofs.Session.Action

/-! # The calls of a session

A session continues another one by some calls if these have been made and the driver's answers to
them have been used up, and no others (`Continues`); if its data source is still the same, there has
been talk with the driver and nothing else (`Talks`). Closing a data source can go in three ways
(`Closes`): there is nothing to close, or it is closed, or it is closed and that cannot be reported. -/

namespace BoundSql

namespace Call

/-- The call opens a database or a pool. -/
def isOpening : Call → Bool
  | connect .. | openPool .. => true
  | _ => false

/-- The call closes a database or a pool. -/
def isClosing : Call → Bool
  | close | closePool => true
  | _ => false

/-- The call neither opens nor closes anything. -/
def isQuiet (c : Call) : Bool := !c.isOpening && !c.isClosing

theorem isQuiet_iff {c : Call} : c.isQuiet = true ↔ c.isOpening = false ∧ c.isClosing = false := by
  rw [isQuiet, Bool.and_eq_true, Bool.not_eq_true', Bool.not_eq_true']

theorem countP_of_isQuiet {made : List Call} (h : ∀ c ∈ made, c.isQuiet = true) :
    made.countP isOpening = 0 ∧ made.countP isClosing = 0 := by
  refine ⟨List.countP_eq_zero.mpr fun c hc => ?_, List.countP_eq_zero.mpr fun c hc => ?_⟩
  · rw [(isQuiet_iff.mp (h c hc)).1]
    exact Bool.false_ne_true
  · rw [(isQuiet_iff.mp (h c hc)).2]
    exact Bool.false_ne_true

/-- The call borrows a connection from the pool. -/
def isBorrowing : Call → Bool
  | borrow => true
  | _ => false

/-- The call sends a statement. -/
def isStatement : Call → Bool
  | execute .. => true
  | _ => false

variable {c : Call}

/-- To open something is neither to close something nor to send a statement. -/
theorem not_of_isOpening (h : c.isOpening = true) : c.isClosing = false ∧ c.isStatement = false := by
  cases c <;> cases h <;> exact ⟨rfl, rfl⟩

/-- To close something is neither to open something nor to send a statement. -/
theorem not_of_isClosing (h : c.isClosing = true) : c.isOpening = false ∧ c.isStatement = false := by
  cases c <;> cases h <;> exact ⟨rfl, rfl⟩

/-- Something is opened, and what follows does not matter. -/
theorem countP_of_isOpening {rest : List Call} (hc : c.isOpening = true)
    (hquiet : ∀ c ∈ rest, c.isQuiet = true) (hrest : rest.countP isStatement = 0) :
    (c :: rest).countP isOpening = 1 ∧ (c :: rest).countP isClosing = 0 ∧
      (c :: rest).countP isStatement = 0 := by
  obtain ⟨hnotClosing, hnotStatement⟩ := not_of_isOpening hc
  obtain ⟨hopening, hclosing⟩ := countP_of_isQuiet hquiet
  simp only [List.countP_cons, hc, hnotClosing, hnotStatement, hopening, hclosing, hrest]
  exact ⟨rfl, rfl, rfl⟩

end Call

/-- The data source with something open. -/
def Source.opened (s : Source) : Source := { s with held := true, connected := true }

/-- The data source with nothing open. -/
def Source.closed (s : Source) : Source := { s with held := false, connected := false }

namespace Session

open Session.Action Outcome

/-! ### Calls and answers -/

/-- The second session has made these calls after the first one, and used up the driver's answers to
them. -/
structure Continues (s s' : Session) (made : List Call) : Prop where
  calls : s'.calls = s.calls ++ made
  connect : s'.replies.connect = s.replies.connect.drop (made.countP Call.isOpening)
  borrow : s'.replies.borrow = s.replies.borrow.drop (made.countP Call.isBorrowing)
  results : s'.replies.results = s.replies.results.drop (made.countP Call.isStatement)

/-- The second session continues the first one and has the same data source. -/
structure Talks (s s' : Session) (made : List Call) : Prop extends Continues s s' made where
  source : s'.source = s.source

variable {s s' s'' : Session} {made made' : List Call}

theorem Continues.trans (h : s.Continues s' made) (h' : s'.Continues s'' made') :
    s.Continues s'' (made ++ made') := by
  constructor
  · rw [h'.calls, h.calls, List.append_assoc]
  · rw [h'.connect, h.connect, List.drop_drop, List.countP_append]
  · rw [h'.borrow, h.borrow, List.drop_drop, List.countP_append]
  · rw [h'.results, h.results, List.drop_drop, List.countP_append]

theorem Talks.trans (h : s.Talks s' made) (h' : s'.Talks s'' made') :
    s.Talks s'' (made ++ made') :=
  ⟨h.toContinues.trans h'.toContinues, h'.source.trans h.source⟩

theorem Talks.refl (s : Session) : s.Talks s [] :=
  ⟨⟨(List.append_nil _).symm, rfl, rfl, rfl⟩, rfl⟩

theorem Talks.addEvents (s : Session) (es : List Log.Event) : s.Talks (s.addEvents es) [] :=
  ⟨⟨(List.append_nil _).symm, rfl, rfl, rfl⟩, rfl⟩

/-- Events that are reported afterwards do not matter. -/
theorem Continues.report (h : s.Continues s' made) (es : List Log.Event) :
    s.Continues (s'.addEvents es) made := ⟨h.calls, h.connect, h.borrow, h.results⟩

theorem Continues.withSource (h : s.Continues s' made) (source : Source) :
    s.Continues { s' with source } made := ⟨h.calls, h.connect, h.borrow, h.results⟩

theorem Talks.report (h : s.Talks s' made) (es : List Log.Event) : s.Talks (s'.addEvents es) made :=
  ⟨h.toContinues.report es, h.source⟩

/-- Events that were reported before do not matter. -/
theorem Continues.of_addEvents {es : List Log.Event} (h : (s.addEvents es).Continues s' made) :
    s.Continues s' made := ⟨h.calls, h.connect, h.borrow, h.results⟩

/-- The session after a connection has been asked for, whether or not there was one. -/
def afterBorrowing (s : Session) : Session :=
  { s.addCalls [.borrow] with replies := { s.replies with borrow := s.replies.borrow.drop 1 } }

theorem talks_afterBorrowing (s : Session) : s.Talks s.afterBorrowing [.borrow] :=
  ⟨⟨rfl, rfl, rfl, rfl⟩, rfl⟩

/-! ### Closing -/

/-- How closing a data source can go, if it is `idle` when there was nothing to close. -/
inductive Closes (s s' : Session) (idle : Source) : Outcome Unit → Prop
  | nothing : s.source.held = false → s.Continues s' [] → s'.source = idle →
      Closes s s' idle (.ok ⟨⟩)
  | closed (c : Call) : s.source.held = true → s.source.name.hasLongNumeral = false →
      c.isClosing = true → s.Continues s' [c] → s'.source = s.source.closed →
      Closes s s' idle (.ok ⟨⟩)
  /-- What is closed is held all the same, since the report of that comes in between. -/
  | unreported (f : Fault) (c : Call) : s.source.held = true →
      s.source.name.hasLongNumeral = true → c.isClosing = true → s.Talks s' [c] →
      Closes s s' idle (.error f)

/-- What is held is closed, and that can be reported with a name that can be written. -/
theorem Closes.of_held {idle : Source} {outcome : Outcome Unit} (h : Closes s s' idle outcome)
    (hheld : s.source.held = true) (hname : s.source.name.hasLongNumeral = false) :
    outcome = .ok ⟨⟩ ∧ ∃ c : Call, c.isClosing = true ∧ s.Continues s' [c] ∧
      s'.source = s.source.closed := by
  cases h with
  | nothing hnot =>
    rw [hheld] at hnot
    cases hnot
  | closed c _ _ hc hmade hsource => exact ⟨rfl, c, hc, hmade, hsource⟩
  | unreported _ _ _ hlong =>
    rw [hname] at hlong
    cases hlong

/-- The call that closes what a data source holds. -/
def closingCall : Engine → Call
  | .duckdb => .close
  | .postgresql => .closePool

theorem isClosing_closingCall (e : Engine) : (closingCall e).isClosing = true := by
  cases e <;> rfl

theorem talks_closingCall (s : Session) (e : Engine) :
    s.Talks (s.addCalls [closingCall e]) [closingCall e] := by
  cases e <;> exact ⟨⟨rfl, rfl, rfl, rfl⟩, rfl⟩

theorem on_disconnect_of_held (h : s.source.held = true) : on disconnect s = on (do
    reportSource Log.info
      ("Disconnected from " ++ s.source.engine.label ++ ": " ++ (← check s.source.name.shown))
    setState false false) (s.addCalls [closingCall s.source.engine]) := by
  unfold disconnect
  rw [on_bind_ok (on_get s)]
  dsimp only
  rw [h]
  cases s.source.engine <;> rfl

theorem closes_disconnect (s : Session) :
    Closes s (on disconnect s).2 s.source (on disconnect s).1 := by
  rcases hheld : s.source.held with _ | _
  · have hon : on disconnect s = (.ok ⟨⟩, s) := by
      unfold disconnect
      rw [on_bind_ok (on_get s)]
      dsimp only
      rw [hheld]
      rfl
    rw [hon]
    exact .nothing hheld (Talks.refl s).toContinues rfl
  · have hmade := talks_closingCall s s.source.engine
    have hc := isClosing_closingCall s.source.engine
    rw [on_disconnect_of_held hheld]
    cases hname : s.source.name.hasLongNumeral with
    | false =>
      rw [on_bind_shown_of_short hname, on_bind_ok (on_reportSource ..), on_setState]
      exact .closed _ hheld hname hc ((hmade.toContinues.report _).withSource _) rfl
    | true =>
      rw [on_bind_shown_of_long hname]
      exact .unreported _ _ hheld hname hc hmade

theorem closes_leave (s : Session) :
    Closes s (on leave s).2 s.source.closed (on leave s).1 := by
  have hcloses := closes_disconnect s
  rcases hon : on disconnect s with ⟨e | ⟨⟩, s'⟩ <;> rw [hon] at hcloses
  · have hleave : on leave s = (.error e, s') := on_bind_error hon
    rw [hleave]
    cases hcloses with
    | unreported f c hheld hname hc hmade => exact .unreported _ c hheld hname hc hmade
  · have hleave : on leave s =
        (.ok ⟨⟩, { s' with source := { s'.source with connected := false } }) := by
      unfold leave
      rw [on_bind_ok hon]
      rfl
    rw [hleave]
    cases hcloses with
    | nothing hheld hmade hsource =>
      refine .nothing hheld (hmade.withSource _) ?_
      dsimp only at hsource ⊢
      rw [hsource, Source.closed, ← hheld]
    | closed c hheld hname hc hmade hsource =>
      refine .closed c hheld hname hc (hmade.withSource _) ?_
      dsimp only at hsource ⊢
      rw [hsource]
      rfl

end Session

end BoundSql
