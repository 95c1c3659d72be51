import BoundSql.Proofs.Session.Delivery

/-! # Why a data source cannot be opened

If the driver's answers to opening are refusals at worst, then a data source that cannot be opened
fails for one of three reasons. The driver has refused, which comes out as a failed connection; a
setting is missing that a pool needs; or something is too long to be written that is to be reported,
a setting or the name of the data source (`failsWith_ensureConnected_iff`). The name is reported in
any case, after a refusal as well as after a success. -/

namespace BoundSql.Session

open Session.Action Outcome

variable {s : Session} {p : Fault → Prop}

/-- Opening the data source and borrowing a connection succeeds or is refused. -/
def RefusedAtWorst (replies : Replies) : Prop :=
  ∀ f, some f ∈ replies.connect ∨ some f ∈ replies.borrow → ∃ m, f = .refused m

/-- A fault that the driver answers with next is among its answers. -/
theorem mem_of_next {replies : List (Option DriverFault)} {f : DriverFault}
    (h : replies.head?.getD none = some f) : some f ∈ replies := by
  rcases replies with _ | ⟨reply, rest⟩
  · cases h
  · exact h ▸ List.mem_cons_self

section
variable (hconnection : ∀ engine m, p (.connection engine m)) (hunprepared : ∀ f, IsUnprepared f → ¬p f)
include hunprepared

theorem failsWith_reported_iff (source : Source) :
    FailsWith p (reported source) ↔ source.name.hasLongNumeral = false := by
  cases hname : source.name.hasLongNumeral with
  | false =>
    rw [reported_of_short hname]
    exact iff_of_true (.ok _) rfl
  | true =>
    rw [reported_of_long hname]
    exact iff_of_false (fun hp => hunprepared _ (Or.inr rfl) (hp _ rfl)) Bool.noConfusion

include hconnection

/-- What comes out after a refusal is a failed connection, if the name can be written. -/
theorem failsWith_failed_iff (source : Source) (m : String) :
    FailsWith p (.error (failed source (.refused m)) : Outcome Unit) ↔
      source.name.hasLongNumeral = false := by
  unfold failed
  cases source.name.hasLongNumeral with
  | false => exact iff_of_true (.error (hconnection ..)) rfl
  | true => exact iff_of_false (fun hp => hunprepared _ (Or.inr rfl) (hp _ rfl)) Bool.noConfusion

/-- **Why a data source cannot be opened.** If the driver does no worse than refuse, it is a failed
connection, unless a setting is missing that a pool needs, or what is to be reported is too long to be
written. -/
theorem failsWith_ensureConnected_iff (hclosed : s.source.connected = false)
    (h : RefusedAtWorst s.replies) : FailsWith p (on ensureConnected s).1 ↔
      IsOpenable s.source ∧ s.source.name.hasLongNumeral = false := by
  have hopens := opens_ensureConnected hclosed
  rcases hon : on ensureConnected s with ⟨outcome, s'⟩
  rw [hon] at hopens
  cases hopens with
  | unprepared f hprepared hf =>
    exact iff_of_false (fun hp => hunprepared f hf (hp f rfl)) fun hboth => hprepared hboth.1
  | refused f d c hf hprepared hreply =>
    obtain ⟨m, rfl⟩ := h d (Or.inl (mem_of_next hreply))
    subst hf
    rw [and_iff_right hprepared]
    exact failsWith_failed_iff hconnection hunprepared s.source m
  | opened c _ hreported hopen =>
    subst hreported
    rw [and_iff_right hopen.prepared]
    exact failsWith_reported_iff hunprepared s.source
  | exhausted f d c hf hopen hengine hborrow =>
    obtain ⟨m, rfl⟩ := h d (Or.inr (mem_of_next hborrow))
    subst hf
    rw [and_iff_right hopen.prepared]
    exact failsWith_failed_iff hconnection hunprepared s.source m

end

end BoundSql.Session
