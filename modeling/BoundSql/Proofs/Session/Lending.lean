import BoundSql.Proofs.Session.Use

/-! # Borrowed connections are given back

Calls on a pool are a lending (`Call.Lent`) if each connection that is borrowed is given back once,
before the next one is borrowed and before the calls end, if nothing is given back after a refusal,
and if connections are used only in between. This can be read off a list of calls and the driver's
answers to the borrowings, part by part, and lendings one after the other are a lending
(`Call.Lent.append`).

Each use of a database on a server makes calls that are a lending (`Goes.lends`), and so do any number
of uses (`Reached.connections_given_back`). -/

namespace BoundSql

namespace Call

/-- The call needs a connection that has been borrowed. -/
def needsConnection (c : Call) : Bool := c.isStatement || c.isEnding

/-- Connections are borrowed and given back in turn, if these are the driver's answers to the
borrowings; nothing more stands for success. -/
inductive Lent : List (Option DriverFault) → List Call → Prop
  | nil (replies : List (Option DriverFault)) : Lent replies []
  | outside {replies : List (Option DriverFault)} {c : Call} {cs : List Call} :
      (c.isOpening || c.isClosing) = true → Lent replies cs → Lent replies (c :: cs)
  | refused {replies : List (Option DriverFault)} {cs : List Call} :
      replies.head?.getD none ≠ none → Lent (replies.drop 1) cs → Lent replies (borrow :: cs)
  | lent {replies : List (Option DriverFault)} {used cs : List Call} :
      replies.head?.getD none = none → (∀ c ∈ used, c.needsConnection = true) →
      Lent (replies.drop 1) cs → Lent replies (borrow :: used ++ giveBack :: cs)

namespace Lent

variable {replies : List (Option DriverFault)} {c : Call} {cs cs' : List Call}

theorem append (h : Lent replies cs) (h' : Lent (replies.drop (cs.countP isBorrowing)) cs') :
    Lent replies (cs ++ cs') := by
  induction h with
  | nil => exact h'
  | @outside replies c cs hc _ ih =>
    have hborrow : ¬c.isBorrowing = true := by
      intro hborrow
      cases c <;> first | cases hborrow; done | cases hc
    rw [List.countP_cons_of_neg hborrow] at h'
    exact .outside hc (ih h')
  | refused hreply _ ih =>
    rw [List.countP_cons_of_pos rfl, Nat.add_comm, ← List.drop_drop] at h'
    exact .refused hreply (ih h')
  | @lent replies used cs hreply hused _ ih =>
    have hcount : (borrow :: used ++ giveBack :: cs).countP isBorrowing =
        1 + cs.countP isBorrowing := by
      have hnone : used.countP isBorrowing = 0 := by
        refine List.countP_eq_zero.mpr fun c hc hborrow => ?_
        have hc := hused c hc
        cases c <;> first | cases hborrow; done | cases hc
      rw [List.countP_append, List.countP_cons_of_pos rfl, hnone,
        List.countP_cons_of_neg Bool.false_ne_true, Nat.zero_add]
    rw [hcount, ← List.drop_drop] at h'
    rw [List.append_assoc]
    exact .lent hreply hused (ih h')

theorem single (hc : (c.isOpening || c.isClosing) = true) : Lent replies [c] := .outside hc (.nil _)

theorem opening (h : Lent replies cs) (hc : c.isOpening = true) : Lent replies (c :: cs) :=
  .outside (by rw [hc, Bool.true_or]) h

end Lent

end Call

namespace Session

open Session.Action Outcome

/-- The second session has lent and taken back connections since the first one. -/
def Lends (s s' : Session) : Prop :=
  s'.source.engine = s.source.engine ∧
    ∃ made, s.Continues s' made ∧ Call.Lent s.replies.borrow made

variable {s s' t : Session} {opens : Bool}

theorem Lends.trans (h : Lends s t) (h' : Lends t s') : Lends s s' := by
  obtain ⟨hengine, made, hmade, hlent⟩ := h
  obtain ⟨hengine', made', hmade', hlent'⟩ := h'
  rw [hmade.borrow] at hlent'
  exact ⟨hengine'.trans hengine, _, hmade.trans hmade', hlent.append hlent'⟩

theorem Speaks.lends (hengine : s.source.engine = .postgresql) (h : Speaks s s') : Lends s s' := by
  cases h with
  | nothing htalks => exact ⟨congrArg Source.engine htalks.source, [], htalks.toContinues, .nil _⟩
  | @statement sql args made hmade htalks =>
    refine ⟨congrArg Source.engine htalks.source, made, htalks.toContinues, ?_⟩
    cases hmade with
    | idle => exact .nil _
    | file hfile => cases hfile.symm.trans hengine
    | refused _ _ hreply => exact .refused hreply (.nil _)
    | unreported _ _ hreply => exact .lent hreply (List.forall_mem_nil _) (.nil _)
    | pooled ending _ _ hreply hending =>
      have hused : ∀ c ∈ .execute sql args :: ending, c.needsConnection = true := by
        refine List.forall_mem_cons.mpr ⟨rfl, fun c hc => ?_⟩
        rw [Call.needsConnection, hending c hc, Bool.or_true]
      exact .lent hreply hused (.nil _)

theorem Closes.lends {idle : Source} {outcome : Outcome Unit} (hidle : idle.engine = s.source.engine)
    (h : Closes s s' idle outcome) : Lends s s' := by
  have hsingle : ∀ {c : Call}, c.isClosing = true → Call.Lent s.replies.borrow [c] := fun hc =>
    .single (by rw [hc, Bool.or_true])
  cases h with
  | nothing _ hmade hsource => exact ⟨hsource ▸ hidle, [], hmade, .nil _⟩
  | closed c _ _ hc hmade hsource => exact ⟨by rw [hsource]; rfl, [c], hmade, hsingle hc⟩
  | unreported f c _ _ hc htalks =>
    exact ⟨congrArg Source.engine htalks.source, [c], htalks.toContinues, hsingle hc⟩

theorem Opens.lends {outcome : Outcome Unit} (hengine : s.source.engine = .postgresql)
    (h : Opens s s' outcome) : Lends s s' := by
  refine ⟨h.engine, ?_⟩
  cases h with
  | unprepared f _ _ htalks => exact ⟨[], htalks.toContinues, .nil _⟩
  | refused f d c _ _ _ hc htalks => exact ⟨[c], htalks.toContinues, (Call.Lent.nil _).opening hc⟩
  | opened c _ _ _ htrial hc hmade =>
    have hreply : s.nextBorrow = none := not_not.mp fun hne => htrial ⟨hengine, hne⟩
    have hlent : Call.Lent s.replies.borrow (trial s.source.engine) := by
      rw [hengine]
      exact .lent hreply (List.forall_mem_nil _) (.nil _)
    exact ⟨_, hmade, hlent.opening hc⟩
  | exhausted f d c _ _ _ hborrow hc hmade =>
    have hreply : s.nextBorrow ≠ none := hborrow ▸ Option.some_ne_none d
    have hlent : Call.Lent s.replies.borrow [.borrow] := .refused hreply (.nil _)
    exact ⟨_, hmade, hlent.opening hc⟩

theorem Runs.lends (hengine : s.source.engine = .postgresql) (h : Runs s s' opens) : Lends s s' := by
  cases h with
  | speaks h => exact h.lends hengine
  | opens t outcome hopens hspeaks =>
    have hopened := hopens.lends hengine
    exact hopened.trans (hspeaks.lends (hopened.1.trans hengine))

/-- **The calls of one use** of a database on a server are a lending. -/
theorem Goes.lends (hengine : s.source.engine = .postgresql) (h : Goes s s' opens) : Lends s s' := by
  cases h with
  | runs h => exact h.lends hengine
  | closes idle outcome hidle h => exact h.lends (by rcases hidle with rfl | rfl <;> rfl)

theorem Reached.lends {allowed : Use → Session → Prop} {first : Session}
    (hengine : first.source.engine = .postgresql) (h : Reached allowed first s) : Lends first s := by
  induction h with
  | start => exact ⟨rfl, [], (Talks.refl first).toContinues, .nil _⟩
  | use _ u _ ih => exact ih.trans ((goes_after u _).lends (ih.1.trans hengine))

/-- **Borrowed connections are given back.** However a database on a server is used, in any order,
however often it is opened, and whatever the driver answers: each connection that has been borrowed
was given back once, before the next one was borrowed, nothing was given back after a refusal, and
connections were used only in between. This is so at the end of each use. -/
theorem Reached.connections_given_back {source : Source} {replies : Replies}
    {allowed : Use → Session → Prop} (hengine : source.engine = .postgresql)
    (h : Reached allowed (Session.start source replies) s) :
    Call.Lent replies.borrow s.calls ∧
    ∀ u : Use, ∃ made, (u.after s).calls = s.calls ++ made ∧
      Call.Lent (replies.borrow.drop (s.calls.countP Call.isBorrowing)) made := by
  obtain ⟨hsame, cs, hcs, hlent⟩ := h.lends hengine
  have hcalls : s.calls = cs := hcs.calls
  refine ⟨hcalls ▸ hlent, fun u => ?_⟩
  obtain ⟨-, made, hmade, hmore⟩ := (goes_after u s).lends (hsame.trans hengine)
  refine ⟨made, hmade.calls, ?_⟩
  rw [hcalls]
  exact hcs.borrow ▸ hmore

/-- A driver that refuses to lend a connection at first, and then breaks while it runs a statement. -/
def unreliable : Replies where
  connect := []
  borrow := [some (.refused "boom")]
  results := [.error (.broken "gone")]

/-- A pool that was opened twice, and two queries that were run on it, the first one in vain. -/
def overcome : Session :=
  (Use.execute "select 2" []).after ((Use.execute "select 1" []).after
    (Use.connect.after (Use.connect.after (Session.start shop unreliable))))

theorem Reached.connections_given_back_overcome :
    Reached (fun _ _ => True) (Session.start shop unreliable) overcome ∧
    overcome.calls.countP Call.isBorrowing = 4 ∧ overcome.calls.countP Call.isStatement = 2 ∧
    Call.Lent [some (.refused "boom")] overcome.calls := by
  have h : Reached (fun _ _ => True) (Session.start shop unreliable) overcome :=
    (((Reached.start.use .connect trivial).use .connect trivial).use (.execute "select 1" [])
      trivial).use (.execute "select 2" []) trivial
  exact ⟨h, rfl, rfl, (Reached.connections_given_back rfl h).1⟩

end Session

end BoundSql
