import BoundSql.Proofs.Session.Use

/-! # The life cycle of a connection

Calls on a driver are balanced (`Call.Balanced`) if what has been opened has been given up again, one
thing at most excepted, if nothing is opened while something is open, and if no statement is sent
while nothing is. Which calls give something up depends on the data source (`Source.givesUp`): those
that close, if the name is short enough for the report of that; otherwise none, since the data source
goes on holding what it has closed. The calls of a session are balanced as long as it is used in an
orderly way (`Use.IsOrderly`), and the data source counts as connected exactly if it holds what has
been opened last (`Kept`). Each of the ways in which a use can go keeps this (`Kept.after`), so that it
holds after any number of uses (`Reached.life_cycle`). -/

namespace BoundSql

namespace Call

variable {closing : Call → Bool} {replies : List (Option DriverFault)} {cs made : List Call} {c : Call}

theorem opened_append : ∀ (replies : List (Option DriverFault)) (cs made : List Call),
    opened replies (cs ++ made) =
      opened replies cs + opened (replies.drop (cs.countP isOpening)) made
  | replies, [], made => by
    rw [List.nil_append, List.countP_nil, List.drop_zero, opened, Nat.zero_add]
  | replies, c :: cs, made => by
    rw [List.cons_append, opened, opened]
    rcases hc : c.isOpening with _ | _
    · rw [if_neg Bool.false_ne_true, if_neg Bool.false_ne_true, opened_append replies cs made,
        List.countP_cons_of_neg (by rw [hc]; exact Bool.false_ne_true)]
    · rw [if_pos rfl, if_pos rfl, opened_append _ cs made, List.countP_cons_of_pos hc, List.drop_drop,
        Nat.add_assoc, Nat.add_comm 1]

/-- The calls open nothing. -/
theorem opened_eq_zero : ∀ (replies : List (Option DriverFault)) {made : List Call},
    (∀ c ∈ made, c.isOpening = false) → opened replies made = 0
  | _, [], _ => rfl
  | replies, c :: cs, h => by
    obtain ⟨hc, hcs⟩ := List.forall_mem_cons.mp h
    rw [opened, hc, if_neg Bool.false_ne_true]
    exact opened_eq_zero replies hcs

/-- Something is opened only while nothing is open, and a statement is sent only while something is, if
these calls close what is open. -/
def InTurn (closing : Call → Bool) (replies : List (Option DriverFault)) (cs : List Call) : Prop :=
  ∀ before c after, cs = before ++ c :: after →
    (c.isOpening = true → opened replies before = before.countP closing) ∧
    (c.isStatement = true → opened replies before = before.countP closing + 1)

/-- The calls are in turn, and they leave something open or not. -/
structure Balanced (closing : Call → Bool) (replies : List (Option DriverFault)) (cs : List Call)
    (isOpen : Bool) : Prop where
  isClosing : ∀ c, closing c = true → c.isClosing = true
  count : opened replies cs = cs.countP closing + isOpen.toNat
  inTurn : InTurn closing replies cs

theorem InTurn.append (h : InTurn closing replies cs)
    (hmade : ∀ before c after, made = before ++ c :: after →
      (c.isOpening = true → opened replies (cs ++ before) = (cs ++ before).countP closing) ∧
      (c.isStatement = true →
        opened replies (cs ++ before) = (cs ++ before).countP closing + 1)) :
    InTurn closing replies (cs ++ made) := by
  intro before c after heq
  rcases List.append_eq_append_iff.mp heq with ⟨middle, rfl, hmiddle⟩ | ⟨middle, rfl, hmiddle⟩
  · exact hmade middle c after hmiddle
  · rcases middle with _ | ⟨d, middle⟩
    · have hempty := hmade [] c after hmiddle.symm
      rw [List.append_nil, List.append_nil] at hempty
      exact hempty
    · obtain ⟨rfl, rfl⟩ := List.cons.inj hmiddle
      exact h before c middle rfl

theorem InTurn.concat (h : InTurn closing replies cs)
    (hopening : c.isOpening = true → opened replies cs = cs.countP closing)
    (hstatement : c.isStatement = true → opened replies cs = cs.countP closing + 1) :
    InTurn closing replies (cs ++ [c]) := by
  refine h.append fun before d after heq => ?_
  obtain ⟨rfl, hd⟩ : before = [] ∧ d = c := by
    rcases before with _ | ⟨e, before⟩
    · exact ⟨rfl, (List.cons.inj heq).1.symm⟩
    · exact absurd (List.cons.inj heq).2.symm (List.append_ne_nil_of_right_ne_nil _ (by simp))
  rw [List.append_nil, hd]
  exact ⟨hopening, hstatement⟩

namespace Balanced

theorem nil (replies : List (Option DriverFault))
    (h : ∀ c, closing c = true → c.isClosing = true) : Balanced closing replies [] false := by
  refine ⟨h, rfl, fun before c after h => ?_⟩
  exact absurd h.symm (List.append_ne_nil_of_right_ne_nil _ (List.cons_ne_nil c after))

variable {isOpen : Bool}

/-- Calls that open and give up nothing change nothing; among them are statements only if something is
open. -/
theorem append (h : Balanced closing replies cs isOpen) (hopening : ∀ c ∈ made, c.isOpening = false)
    (hclosing : ∀ c ∈ made, closing c = false)
    (hstatement : ∀ c ∈ made, c.isStatement = true → isOpen = true) :
    Balanced closing replies (cs ++ made) isOpen := by
  -- the calls that are followed by one of these count as those before all of them
  have hcount : ∀ made : List Call, (∀ c ∈ made, c.isOpening = false) →
      (∀ c ∈ made, closing c = false) →
      opened replies (cs ++ made) = (cs ++ made).countP closing + isOpen.toNat := by
    intro made hopening hclosing
    have hnone : made.countP closing = 0 := List.countP_eq_zero.mpr fun c hc =>
      Bool.eq_false_iff.mp (hclosing c hc)
    rw [opened_append, opened_eq_zero _ hopening, h.count, List.countP_append, hnone]
    rfl
  refine ⟨h.isClosing, hcount made hopening hclosing, h.inTurn.append fun before c after heq => ?_⟩
  subst heq
  obtain ⟨hbefore, hafter⟩ := List.forall_mem_append.mp hopening
  constructor
  · intro hc
    cases ((List.forall_mem_cons.mp hafter).1).symm.trans hc
  · intro hc
    have hopen := hstatement c (List.mem_append_right _ List.mem_cons_self) hc
    rw [hcount before hbefore (List.forall_mem_append.mp hclosing).1, hopen]
    rfl

theorem quiet (h : Balanced closing replies cs isOpen) (hquiet : ∀ c ∈ made, c.isQuiet = true)
    (hstatement : ∀ c ∈ made, c.isStatement = true → isOpen = true) :
    Balanced closing replies (cs ++ made) isOpen := by
  refine h.append (fun c hc => (isQuiet_iff.mp (hquiet c hc)).1) (fun c hc => ?_) hstatement
  refine Bool.eq_false_iff.mpr fun hclosing => ?_
  cases (isQuiet_iff.mp (hquiet c hc)).2.symm.trans (h.isClosing c hclosing)

theorem opening (h : Balanced closing replies cs false) (hc : c.isOpening = true) :
    Balanced closing replies (cs ++ [c])
      ((replies.drop (cs.countP isOpening)).head?.getD none).isNone := by
  obtain ⟨hnotClosing, hnotStatement⟩ := not_of_isOpening hc
  have hcount : opened replies cs = cs.countP closing := h.count
  have hnone : closing c = false := by
    refine Bool.eq_false_iff.mpr fun hclosing => ?_
    cases hnotClosing.symm.trans (h.isClosing c hclosing)
  refine ⟨h.isClosing, ?_, h.inTurn.concat (fun _ => hcount) fun hstatement => ?_⟩
  · rw [opened_append, hcount, List.countP_append, opened, opened, hc, if_pos rfl,
      List.countP_singleton, hnone]
    cases ((replies.drop (cs.countP isOpening)).head?.getD none).isNone <;> rfl
  · cases hnotStatement.symm.trans hstatement

theorem givingUp (h : Balanced closing replies cs true) (hc : closing c = true) :
    Balanced closing replies (cs ++ [c]) false := by
  obtain ⟨hopening, hnotStatement⟩ := not_of_isClosing (h.isClosing c hc)
  refine ⟨h.isClosing, ?_, h.inTurn.concat (fun h => ?_) fun hstatement => ?_⟩
  · have hzero : opened (replies.drop (cs.countP isOpening)) [c] = 0 :=
      opened_eq_zero _ (List.forall_mem_singleton.mpr hopening)
    rw [opened_append, hzero, h.count, List.countP_append, List.countP_singleton, hc]
    rfl
  · cases hopening.symm.trans h
  · cases hnotStatement.symm.trans hstatement

end Balanced

end Call

/-- The call makes the data source give up what it holds: it closes that, and the name is short enough
for the report that comes before the rest. -/
def Source.givesUp (s : Source) (c : Call) : Bool := c.isClosing && !s.name.hasLongNumeral

theorem Source.isClosing_of_givesUp {s : Source} (c : Call) (h : s.givesUp c = true) :
    c.isClosing = true := (Bool.and_eq_true_iff.mp h).1

theorem Source.closed_eq {s : Source} (hheld : s.held = false) (hconnected : s.connected = false) :
    s.closed = s := by
  cases s
  cases hheld
  cases hconnected
  rfl

namespace Session

open Session.Action Outcome

/-- The calls are balanced, and the data source counts as connected exactly if something is open,
which it then holds. -/
structure Kept (replies : List (Option DriverFault)) (s : Session) : Prop where
  flag : s.source.connected = s.source.held
  pending : s.replies.connect = replies.drop (s.calls.countP Call.isOpening)
  balanced : Call.Balanced s.source.givesUp replies s.calls s.source.connected

/-- The data source is opened only by making sure that it is connected, and if a pool opens, a
connection can be borrowed from it. -/
structure Use.IsOrderly (u : Use) (s : Session) : Prop where
  noConnect : u ≠ .connect
  noFailingTrial : u.opens s = true → s.CanOpen → ¬s.TrialFails

variable {replies : List (Option DriverFault)} {s s' : Session} {made : List Call}

theorem Use.connected_of_opens {u : Use} (hconnect : u ≠ .connect) (h : u.opens s = true) :
    s.source.connected = false := by
  cases u with
  | connect => exact absurd rfl hconnect
  | ensureConnected | runToTable | run => exact (Bool.not_eq_true' _).mp h
  | query config b shape => exact (Bool.not_eq_true' _).mp (Bool.and_eq_true_iff.mp h).2
  | _ => cases h

namespace Kept

theorem start (source : Source) (replies : Replies) :
    Kept replies.connect (Session.start source.closed replies) :=
  ⟨rfl, rfl, .nil _ Source.isClosing_of_givesUp⟩

theorem continues (h : Kept replies s) (hmade : s.Continues s' made) :
    s'.replies.connect = replies.drop (s'.calls.countP Call.isOpening) := by
  rw [hmade.connect, hmade.calls, h.pending, List.drop_drop, List.countP_append]

theorem talks (h : Kept replies s) (htalks : s.Talks s' made)
    (hquiet : ∀ c ∈ made, c.isQuiet = true)
    (hstatement : ∀ c ∈ made, c.isStatement = true → s.source.held = true) : Kept replies s' := by
  refine ⟨?_, h.continues htalks.toContinues, ?_⟩
  · rw [htalks.source]
    exact h.flag
  · rw [htalks.source, htalks.calls]
    exact h.balanced.quiet hquiet fun c hc hs => h.flag.trans (hstatement c hc hs)

theorem speaks (h : Kept replies s) (hspeaks : Speaks s s') : Kept replies s' := by
  cases hspeaks with
  | nothing htalks => exact h.talks htalks (by simp) (by simp)
  | statement hmade htalks => exact h.talks htalks hmade.isQuiet hmade.held

theorem closes {idle : Source} {outcome : Outcome Unit} (h : Kept replies s)
    (hidle : idle = s.source ∨ idle = s.source.closed) (hcloses : Closes s s' idle outcome) :
    Kept replies s' := by
  cases hcloses with
  | nothing hheld hmade hsource =>
    -- with nothing held the data source does not count as connected, so that it stays as it is
    have hclosed : s.source.closed = s.source := Source.closed_eq hheld (h.flag.trans hheld)
    have hsame : s'.source = s.source := hsource.trans (hidle.elim id fun hidle => hidle.trans hclosed)
    exact h.talks ⟨hmade, hsame⟩ (by simp) (by simp)
  | closed c hheld hname hc hmade hsource =>
    have hconnected : s.source.connected = true := h.flag.trans hheld
    have hgivesUp : s.source.givesUp c = true := by
      rw [Source.givesUp, hc, hname]
      rfl
    refine ⟨by rw [hsource]; rfl, h.continues hmade, ?_⟩
    rw [hsource, hmade.calls]
    exact (hconnected ▸ h.balanced).givingUp hgivesUp
  | unreported f c hheld hname hc htalks =>
    have hkeeps : s.source.givesUp c = false := by
      rw [Source.givesUp, hname]
      exact Bool.and_false _
    obtain ⟨hopening, hstatement⟩ := Call.not_of_isClosing hc
    refine ⟨by rw [htalks.source]; exact h.flag, h.continues htalks.toContinues, ?_⟩
    rw [htalks.source, htalks.calls]
    exact h.balanced.append (List.forall_mem_singleton.mpr hopening)
      (List.forall_mem_singleton.mpr hkeeps) fun _ _ _ => h.flag.trans hheld

theorem opens {outcome : Outcome Unit} (h : Kept replies s) (hclosed : s.source.connected = false)
    (htrial : s.CanOpen → ¬s.TrialFails) (hopens : Opens s s' outcome) :
    Kept replies s' := by
  have hreply : ((replies.drop (s.calls.countP Call.isOpening)).head?.getD none) = s.nextConnect := by
    rw [← h.pending]
    rfl
  have hbalanced : ∀ {c : Call} {isOpen : Bool}, c.isOpening = true →
      s.nextConnect.isNone = isOpen →
      Call.Balanced s.source.givesUp replies (s.calls ++ [c]) isOpen := by
    rintro c _ hc rfl
    rw [← hreply]
    exact (hclosed ▸ h.balanced).opening hc
  cases hopens with
  | unprepared f _ _ htalks => exact h.talks htalks (by simp) (by simp)
  | refused f d c _ _ hfault hc htalks =>
    refine ⟨?_, h.continues htalks.toContinues, ?_⟩
    · rw [htalks.source]
      exact h.flag
    · rw [htalks.source, htalks.calls, hclosed]
      exact hbalanced hc (congrArg Option.isNone hfault)
  | opened c _ _ hopen _ hc hmade hsource =>
    refine ⟨by rw [hsource]; rfl, h.continues hmade, ?_⟩
    rw [hsource, hmade.calls, List.append_cons]
    have hopened : Call.Balanced s.source.givesUp replies (s.calls ++ [c]) true :=
      hbalanced hc (congrArg Option.isNone hopen.opens)
    exact hopened.quiet (isQuiet_trial _) fun _ _ _ => rfl
  | exhausted f d c _ hopen hengine hborrow =>
    exact absurd ⟨hengine, hborrow ▸ Option.some_ne_none d⟩ (htrial hopen)

theorem runs {opens : Bool} (h : Kept replies s) (hclosed : opens = true → s.source.connected = false)
    (htrial : opens = true → s.CanOpen → ¬s.TrialFails) (hruns : Runs s s' opens) :
    Kept replies s' := by
  cases hruns with
  | speaks hspeaks => exact h.speaks hspeaks
  | opens t outcome hopens hspeaks =>
    exact (h.opens (hclosed rfl) (htrial rfl) hopens).speaks hspeaks

/-- **What one use keeps**, if it is orderly. -/
theorem after {u : Use} (h : Kept replies s) (hu : u.IsOrderly s) : Kept replies (u.after s) := by
  have hclosed := Use.connected_of_opens (s := s) hu.noConnect
  have htrial := hu.noFailingTrial
  have hgoes := goes_after u s
  generalize u.opens s = opens at hclosed htrial hgoes
  cases hgoes with
  | runs hruns => exact h.runs hclosed htrial hruns
  | closes idle outcome hidle hcloses => exact h.closes hidle hcloses

end Kept

theorem Reached.kept {source : Source} {replies : Replies}
    (h : Reached Use.IsOrderly (Session.start source.closed replies) s) :
    Kept replies.connect s := by
  induction h with
  | start => exact .start source replies
  | use _ u hu ih => exact ih.after hu

/-- A query is not sent to anything if nothing is held. -/
theorem on_execute_of_not_held (h : s.source.held = false) (sql : String) (args : List Value) :
    on (execute sql args) s = (.error (unconnected s.source), s) := by
  rcases hengine : s.source.engine with _ | _
  · rw [on_execute_of_duckdb hengine]
    exact on_executeFile_of_not_held h
  · rw [on_execute_of_postgresql hengine]
    exact on_borrowing_of_not_held h

/-- A driver that refuses to open a pool at first. -/
def refusingOnce : Replies := { Replies.success with connect := [some (.refused "boom")] }

/-- A data source that was opened at the second attempt, and a query that was run on it. -/
def reopened : Session :=
  (Use.execute "select 1" []).after
    (Use.ensureConnected.after (Use.ensureConnected.after (Session.start shop.closed refusingOnce)))

end Session

end BoundSql
