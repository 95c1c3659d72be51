import BoundSql.Program
import BoundSql.Proofs.Builder.Step
import BoundSql.Proofs.Outcome
import BoundSql.Proofs.Placeholder.Cut

/-! # The text does not depend on the bound values

Two runs of one program are compared, in which the values to be bound may differ: at each call they
are related by some `R`. Two builders are alike if they have the same pieces of text, the same
aliases and the same positions, and related values there (`Builder.Alike`).

* A step is alike to another if on alike builders both have the same outcome and leave alike builders
  (`Step.Alike`). Sequences of alike steps are alike (`Step.Alike.bind`), and so is every call, even
  one that fails half way (`Operation.Alike.run`).
* What a step returned is the same in both runs, so that a later step that uses it is the same call
  in both, up to the values (`Program.Alike`).
* Binding looks positions up, so on alike builders it fails with the same fault or lists related
  values (`Builder.Alike.statement`). -/

namespace BoundSql

variable {α β : Type} {R : Value → Value → Prop}

/-- The values found at a key are related, or there are none, if the values at this key are related in
maps with the same keys. -/
theorem Mapping.rel_get? {m m' : Mapping} {k : Value}
    (h : List.Forall₂ (fun p q => p.1 = q.1 ∧ (p.1.eq k = true → R p.2 q.2)) m m') :
    Option.Rel R (m.get? k) (m'.get? k) := by
  induction h with
  | nil => exact .none
  | @cons p q ps qs hpq _ ih =>
    obtain ⟨hkey, hvalue⟩ := hpq
    unfold Mapping.get? at ih ⊢
    rw [List.find?_cons, List.find?_cons, ← hkey]
    rcases heq : p.1.eq k with _ | _
    · exact ih
    · exact .some (hvalue heq)

namespace Placeholder

theorem related_valueAt {m m' : Mapping} (h : List.Forall₂ (fun p q => p.1 = q.1 ∧ R p.2 q.2) m m')
    (n : Nat) : Outcome.Related R (valueAt m n) (valueAt m' n) := by
  have hget : Option.Rel R (m.get? (.int n)) (m'.get? (.int n)) :=
    Mapping.rel_get? (h.imp fun p q hpq => ⟨hpq.1, fun _ => hpq.2⟩)
  unfold valueAt
  generalize m.get? (.int n) = o at hget ⊢
  generalize m'.get? (.int n) = o' at hget ⊢
  rcases hget with hv | _
  · exact .ok hv
  · exact .error _

/-- Binding gives the same SQL, with related values, or fails in the same way. -/
theorem related_bind {m m' : Mapping} (e : Engine) (sql : String)
    (h : List.Forall₂ (fun p q => p.1 = q.1 ∧ R p.2 q.2) m m') :
    Outcome.Related (fun x y => x.1 = y.1 ∧ List.Forall₂ R x.2 y.2) (bind e sql m)
      (bind e sql m') := by
  obtain ⟨c, hc⟩ := Cut.exists_text sql.toList
  rw [bind_of_cut e hc, bind_of_cut e hc]
  have hvalue : ∀ mark : Mark, Outcome.Related R (mark.value m) (mark.value m') := fun mark =>
    (Outcome.Related.refl (fun n : Nat => rfl) (position mark.digits)).bind
      fun n n' hn => hn ▸ related_valueAt h n
  exact (Outcome.Related.mapM hvalue c.marks).map fun vs ws hvs => ⟨rfl, hvs⟩

end Placeholder

namespace Builder

/-- The SQL and the arguments that the driver of a database is given. -/
def statement (b : Builder) (e : Engine) : Outcome (String × List Value) := do
  Placeholder.bind e (← b.sql) b.paramMap

/-- The same text, aliases and positions, and related values at the positions. -/
structure Alike (R : Value → Value → Prop) (b b' : Builder) : Prop where
  parts : b.parts = b'.parts
  aliases : b.aliases = b'.aliases
  position : b.position = b'.position
  params : List.Forall₂ (fun p q => p.1 = q.1 ∧ R p.2 q.2) b.params b'.params

theorem Alike.sql {b b' : Builder} (h : b.Alike R b') : b.sql = b'.sql := by
  unfold Builder.sql
  rw [h.parts]

theorem Alike.keys {b b' : Builder} (h : b.Alike R b') :
    List.Forall₂ (fun p q => p.1 = q.1 ∧ R p.2 q.2) b.paramMap b'.paramMap := by
  unfold paramMap
  rw [List.forall₂_map_left_iff, List.forall₂_map_right_iff]
  exact h.params.imp fun p q hpq => ⟨congrArg (fun n : Nat => Value.int n) hpq.1, hpq.2⟩

/-- **The drivers are given the same SQL**, with related arguments, or binding fails in the same way. -/
theorem Alike.statement {b b' : Builder} (h : b.Alike R b') (e : Engine) :
    Outcome.Related (fun x y => x.1 = y.1 ∧ List.Forall₂ R x.2 y.2) (b.statement e)
      (b'.statement e) := by
  unfold Builder.statement
  rw [h.sql]
  rcases b'.sql with f | sql
  · exact .error f
  · exact Placeholder.related_bind e sql h.keys

/-! ### Steps -/

/-- On alike builders both steps have the same outcome and leave alike builders. -/
def Step.Alike (R : Value → Value → Prop) (x y : Step α) : Prop :=
  ∀ b b', b.Alike R b' → (x.on b).1 = (y.on b').1 ∧ (x.on b).2.Alike R (y.on b').2

namespace Step.Alike

theorem pure (a : α) : Step.Alike R (Pure.pure a : Step α) (Pure.pure a) :=
  fun _ _ h => ⟨rfl, h⟩

theorem check (x : Outcome α) : Step.Alike R (Builder.check x) (Builder.check x) :=
  fun _ _ h => ⟨rfl, h⟩

theorem bind {x y : Step α} {f g : α → Step β} (h : Step.Alike R x y)
    (hf : ∀ a, Step.Alike R (f a) (g a)) : Step.Alike R (x >>= f) (y >>= g) := by
  intro b b' hb
  obtain ⟨hr, hs⟩ := h b b' hb
  rcases hx : x.on b with ⟨e | a, c⟩ <;> rcases hy : y.on b' with ⟨e' | a', c'⟩ <;>
    rw [hx, hy] at hr hs <;> cases hr
  · rw [Step.on_bind_error hx, Step.on_bind_error hy]
    exact ⟨rfl, hs⟩
  · rw [Step.on_bind_ok hx, Step.on_bind_ok hy]
    exact hf _ c c' hs

theorem map {x y : Step α} (h : Step.Alike R x y) (f : α → β) :
    Step.Alike R (x >>= fun a => Pure.pure (f a)) (y >>= fun a => Pure.pure (f a)) :=
  h.bind fun a => pure (f a)

/-- What a step reads of the builder may be read off either of two alike builders. -/
theorem get_bind {f g : Builder → Step β} (h : ∀ b b', b.Alike R b' → Step.Alike R (f b) (g b')) :
    Step.Alike R (get >>= f) (get >>= g) := by
  intro b b' hb
  rw [Step.on_bind_ok (Step.on_get b), Step.on_bind_ok (Step.on_get b')]
  exact h b b' hb b b' hb

theorem append (pieces : List Value) : Step.Alike R (Builder.append pieces) (Builder.append pieces) :=
  fun _ _ h => ⟨rfl, ⟨congrArg (· ++ pieces) h.parts, h.aliases, h.position, h.params⟩⟩

theorem addParam {v w : Value} (hvw : R v w) :
    Step.Alike R (Builder.addParam v) (Builder.addParam w) := by
  intro b b' h
  rw [on_addParam, on_addParam, h.position]
  refine ⟨rfl, h.parts, h.aliases, congrArg (· + 1) h.position, ?_⟩
  exact List.rel_append h.params (.cons ⟨congrArg (· + 1) h.position, hvw⟩ .nil)

theorem column (c : Column) : Step.Alike R (Builder.column c) (Builder.column c) :=
  get_bind fun _ _ h => h.aliases ▸ check _

theorem columnText (c : Column) : Step.Alike R (Builder.columnText c) (Builder.columnText c) :=
  get_bind fun _ _ h => h.aliases ▸ check _

theorem setAlias (t a : Value) : Step.Alike R (Builder.setAlias t a) (Builder.setAlias t a) :=
  (check _).bind fun k _ _ h =>
    ⟨rfl, ⟨h.parts, congrArg (Mapping.set · k a) h.aliases, h.position, h.params⟩⟩

theorem select (p : List Item) (t : Value) (d : List Item) :
    Step.Alike R (Builder.select p t d) (Builder.select p t d) := by
  refine get_bind fun b b' h => ?_
  rw [h.aliases]
  refine (check _).bind fun selection => (append _).bind fun _ => ?_
  refine (check _).bind fun list => (append _).bind fun _ => (append _).bind fun _ => ?_
  exact (check _).bind fun table => append _

theorem where_ (c : Value) : Step.Alike R (Builder.where_ c) (Builder.where_ c) := by
  refine (check _).bind fun blank => ?_
  cases blank
  · exact append _
  · exact pure _

theorem sortBy (o : Value) : Step.Alike R (Builder.sortBy o) (Builder.sortBy o) := by
  refine (check _).bind fun blank => ?_
  cases blank
  · exact append _
  · exact pure _

theorem parentheses (e : Value) : Step.Alike R (Builder.parentheses e) (Builder.parentheses e) := by
  refine (check _).bind fun blank => ?_
  cases blank
  · exact (check _).map _
  · exact pure _

theorem eq (c : Column) {v w : Value} (hvw : R v w) (hnull : v = .null ↔ w = .null) :
    Step.Alike R (Builder.eq c v) (Builder.eq c w) := by
  by_cases hv : v = .null
  · rw [hv, hnull.mp hv]
    exact pure _
  · rw [eq_of_ne_null hv, eq_of_ne_null fun hw => hv (hnull.mpr hw)]
    exact (columnText c).bind fun _ => (addParam hvw).bind fun _ => pure _

theorem between {v w : Value} (hvw : R v w) (hnull : v = .null ↔ w = .null) (first last : Column) :
    Step.Alike R (Builder.between v first last) (Builder.between w first last) := by
  by_cases hv : v = .null
  · rw [hv, hnull.mp hv]
    exact pure _
  · rw [between_of_ne_null hv, between_of_ne_null fun hw => hv (hnull.mpr hw)]
    exact (addParam hvw).bind fun _ => (columnText first).bind fun _ =>
      (columnText last).bind fun _ => pure _

end Step.Alike

end Builder

/-! ### Programs -/

/-- The same call, up to the values to be bound. Those are related, and a value to be compared with
is missing in both calls or in neither. -/
inductive Operation.Alike (R : Value → Value → Prop) : Operation → Operation → Prop
  | setAlias (table shortName : Value) :
      Alike R (.setAlias table shortName) (.setAlias table shortName)
  | select (projection : List Item) (table : Value) (derived : List Item) :
      Alike R (.select projection table derived) (.select projection table derived)
  | where_ (condition : Value) : Alike R (.where_ condition) (.where_ condition)
  | sortBy (order : Value) : Alike R (.sortBy order) (.sortBy order)
  | limit : Alike R .limit .limit
  | addParam {v w : Value} : R v w → Alike R (.addParam v) (.addParam w)
  | parentheses (expression : Value) : Alike R (.parentheses expression) (.parentheses expression)
  | column (c : Column) : Alike R (.column c) (.column c)
  | eq (c : Column) {v w : Value} : R v w → (v = .null ↔ w = .null) → Alike R (.eq c v) (.eq c w)
  | between {v w : Value} (first last : Column) : R v w → (v = .null ↔ w = .null) →
      Alike R (.between v first last) (.between w first last)
  | and_ (expressions : List Value) : Alike R (.and_ expressions) (.and_ expressions)

open Builder in
/-- **A call on alike builders**, whether it succeeds or fails half way. -/
theorem Operation.Alike.run {o o' : Operation} (h : Operation.Alike R o o') :
    Builder.Step.Alike R o.run o'.run := by
  cases h with
  | setAlias t a => exact (Step.Alike.setAlias t a).map _
  | select p t d => exact (Step.Alike.select p t d).map _
  | where_ c => exact (Step.Alike.where_ c).map _
  | sortBy o => exact (Step.Alike.sortBy o).map _
  | limit => exact (Step.Alike.append _).map _
  | addParam hvw => exact (Step.Alike.addParam hvw).map _
  | parentheses e => exact (Step.Alike.parentheses e).map _
  | column c => exact (Step.Alike.column c).map _
  | eq c hvw hnull => exact (Step.Alike.eq c hvw hnull).map _
  | between a b hvw hnull => exact (Step.Alike.between hvw hnull a b).map _
  | and_ vs => exact (Step.Alike.check _).map _

namespace Program

/-- The same steps up to the values to be bound, whatever the earlier steps returned. -/
def Alike (R : Value → Value → Prop) (p p' : Program) : Prop :=
  List.Forall₂ (fun s s' => ∀ returns, Outcome.Related (Operation.Alike R) (s returns) (s' returns))
    p p'

/-- What can be seen after a step: the same result, text and positions, and for each database the
same SQL with related arguments, or the same fault. -/
structure Answer.Alike (R : Value → Value → Prop) (a a' : Answer) : Prop where
  result : a.result = a'.result
  sql : a.builder.sql = a'.builder.sql
  params : List.Forall₂ (fun p q => p.1 = q.1 ∧ R p.2 q.2) a.builder.params a'.builder.params
  statement : ∀ e, Outcome.Related (fun x y => x.1 = y.1 ∧ List.Forall₂ R x.2 y.2)
    (a.builder.statement e) (a'.builder.statement e)

/-- One step: the same result, and alike builders afterwards. -/
theorem alike_step {s s' : List Value → Outcome Operation} {returns : List Value}
    (h : Outcome.Related (Operation.Alike R) (s returns) (s' returns)) {b b' : Builder}
    (hb : b.Alike R b') : (step returns s b).result = (step returns s' b').result ∧
      (step returns s b).builder.Alike R (step returns s' b').builder := by
  unfold step
  generalize s returns = o at h ⊢
  generalize s' returns = o' at h ⊢
  rcases h with h | f
  · exact h.run b b' hb
  · exact ⟨rfl, hb⟩

/-- A run: what the steps returned so far is the same in both, which is all that a later step may
use. -/
theorem alike_runFrom {p p' : Program} (h : p.Alike R p') : ∀ {b b' : Builder} (returns : List Value),
    b.Alike R b' → List.Forall₂ (Answer.Alike R) (runFrom b returns p) (runFrom b' returns p') := by
  induction h with
  | nil => exact fun _ _ => .nil
  | cons hs _ ih =>
    intro b b' returns hb
    obtain ⟨hr, hb'⟩ := alike_step (hs returns) hb
    refine .cons ⟨hr, hb'.sql, hb'.params, hb'.statement⟩ ?_
    rw [hr]
    exact ih _ hb'

/-- **Bound values never influence the SQL text.** In two runs of a program that differ in the bound
values only, every step has the same result and leaves the same text and positions, and the drivers
are given the same SQL with arguments that differ in those values only. -/
theorem text_independent_of_values {p p' : Program} (h : p.Alike R p') :
    List.Forall₂ (Answer.Alike R) p.run p'.run :=
  alike_runFrom h [] ⟨rfl, rfl, rfl, .nil⟩

/-- A program that compares a column with one value, takes up the text of that in a conjunction, and
fails after it has used up a position for another value. -/
def comparing (v w : Value) : Program := [
  fun _ => .ok (.setAlias (.text "orders") (.text "o")),
  fun _ => .ok (.select [.plain ⟨.text "orders", .text "id", false⟩] (.text "orders") []),
  fun _ => .ok (.eq ⟨.text "orders", .text "status", false⟩ v),
  fun _ => .ok (.between w ⟨.list [], .text "since", false⟩ ⟨.text "orders", .text "until", false⟩),
  fun returns => .ok (.and_ [returns.getD 2 .null, returns.getD 3 .null]),
  fun returns => .ok (.where_ (returns.getD 4 .null))]

/-- A falsy value in one run, and text that would change the query in the other. -/
theorem text_independent_of_values_comparing :
    (comparing (.int 0) (.bool false)).Alike (fun v w => v ≠ .null ∧ w ≠ .null)
      (comparing (.text "x' or 'a' = 'a") (.list [])) ∧
    List.Forall₂ (Answer.Alike fun v w => v ≠ .null ∧ w ≠ .null)
      (comparing (.int 0) (.bool false)).run
      (comparing (.text "x' or 'a' = 'a") (.list [])).run := by
  have h : (comparing (.int 0) (.bool false)).Alike (fun v w => v ≠ .null ∧ w ≠ .null)
      (comparing (.text "x' or 'a' = 'a") (.list [])) :=
    .cons (fun _ => .ok (.setAlias _ _)) <| .cons (fun _ => .ok (.select _ _ _)) <|
      .cons (fun _ => .ok (.eq _ (by simp) (by simp))) <|
      .cons (fun _ => .ok (.between _ _ (by simp) (by simp))) <|
      .cons (fun _ => .ok (.and_ _)) <| .cons (fun _ => .ok (.where_ _)) .nil
  exact ⟨h, text_independent_of_values h⟩

end Program

end BoundSql
