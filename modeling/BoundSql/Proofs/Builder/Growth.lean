import BoundSql.Proofs.Builder.Step

/-! # Steps that only append

A step that fails half way has still done what came before. What every step in a sequence keeps to,
the sequence keeps to whether or not it succeeds (`Step.on_bind_snd`): steps that change nothing
(`Step.Reads`), and steps that do nothing but append pieces of text (`Step.Appends`), as the clauses
do. -/

namespace BoundSql

open Builder Builder.Step

variable {α β : Type}

namespace Builder

/-- The second builder is the first one with pieces of text appended. -/
def IsLonger (b b' : Builder) : Prop := ∃ pieces, b' = b.addParts pieces

theorem IsLonger.refl (b : Builder) : b.IsLonger b := ⟨[], (addParts_nil b).symm⟩

theorem IsLonger.trans {a b c : Builder} : a.IsLonger b → b.IsLonger c → a.IsLonger c := by
  rintro ⟨ps, rfl⟩ ⟨qs, rfl⟩
  exact ⟨ps ++ qs, (addParts_append a ps qs).symm⟩

/-- The step does nothing but append pieces of text. -/
def Step.Appends (x : Step α) : Prop := ∀ b : Builder, b.IsLonger (on x b).2

/-- The step changes nothing. -/
def Step.Reads (x : Step α) : Prop := ∀ b : Builder, (on x b).2 = b

theorem Step.Reads.appends {x : Step α} (h : x.Reads) : x.Appends := fun b => by
  rw [h b]
  exact .refl b

/-- Steps in sequence do what the first one does, and then, if that succeeded, what the second one
does. -/
theorem Step.on_bind_snd {r : Builder → Builder → Prop} {x : Step α} {f : α → Step β} {b : Builder}
    (hx : r b (on x b).2) (hf : ∀ a, (on x b).1 = .ok a → r b (on (f a) (on x b).2).2) :
    r b (on (x >>= f) b).2 := by
  rcases h : on x b with ⟨e | a, b'⟩
  · rw [on_bind_error h]
    rw [h] at hx
    exact hx
  · rw [on_bind_ok h]
    rw [h] at hf
    exact hf a rfl

namespace Step.Reads

theorem check (x : Outcome α) : Reads (Builder.check x) := fun _ => rfl

theorem bind {x : Step α} {f : α → Step β} (hx : x.Reads) (hf : ∀ a, (f a).Reads) :
    (x >>= f).Reads := fun b =>
  on_bind_snd (r := fun b b' => b' = b) (hx b) fun a _ => by rw [hf a, hx b]

theorem get_bind {f : Builder → Step β} (hf : ∀ b, (f b).Reads) : (get >>= f).Reads :=
  bind (fun _ => rfl) hf

theorem pure (a : α) : Reads (Pure.pure a : Step α) := fun _ => rfl

theorem column (c : Column) : Reads (Builder.column c) := get_bind fun _ => check _

theorem parentheses (e : Value) : Reads (Builder.parentheses e) := by
  refine bind (check _) fun blank => ?_
  cases blank
  · exact bind (check _) fun _ => pure _
  · exact pure _

end Step.Reads

namespace Step.Appends

theorem check (x : Outcome α) : Appends (Builder.check x) := (Reads.check x).appends

theorem append (pieces : List Value) : Appends (Builder.append pieces) := fun _ => ⟨pieces, rfl⟩

theorem bind {x : Step α} {f : α → Step β} (hx : x.Appends) (hf : ∀ a, (f a).Appends) :
    (x >>= f).Appends := fun b => on_bind_snd (hx b) fun a _ => (hx b).trans (hf a _)

theorem select (p : List Item) (t : Value) (d : List Item) : Appends (Builder.select p t d) := by
  refine bind (fun b => .refl b) fun b => ?_
  refine (check _).bind fun selection => (append _).bind fun _ => ?_
  refine (check _).bind fun list => (append _).bind fun _ => (append _).bind fun _ => ?_
  exact (check _).bind fun table => append _

theorem where_ (c : Value) : Appends (Builder.where_ c) := by
  refine (check _).bind fun blank => ?_
  cases blank
  · exact append _
  · exact (Reads.pure _).appends

theorem sortBy (o : Value) : Appends (Builder.sortBy o) := by
  refine (check _).bind fun blank => ?_
  cases blank
  · exact append _
  · exact (Reads.pure _).appends

end Step.Appends

end Builder

end BoundSql
