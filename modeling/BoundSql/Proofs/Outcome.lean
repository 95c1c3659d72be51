import BoundSql.Fault
import Mathlib.Data.List.Forall2

/-! # Outcomes

What it takes for every member of a list to succeed (`mapM_ok_iff`, `filterM_ok`), which member
makes a traversal fail (`mapM_cases`), and when two
outcomes are alike: both succeed with related results, or both fail with the same fault
(`Related`). Traversing a list in two ways that are alike at every member gives alike outcomes
(`Related.mapM`). Which faults there may be is said by `FailsWith`; a traversal stops at the first
member that fails (`FailsWith.mapM_iff`). -/

namespace BoundSql.Outcome

variable {α β γ δ : Type}

/-- Both succeed, with related results, or both fail with the same fault. -/
inductive Related (r : α → β → Prop) : Outcome α → Outcome β → Prop
  | ok {a : α} {b : β} : r a b → Related r (.ok a) (.ok b)
  | error (f : Fault) : Related r (.error f) (.error f)

theorem Related.refl {r : α → α → Prop} (hr : ∀ a, r a a) : ∀ x : Outcome α, Related r x x
  | .ok a => .ok (hr a)
  | .error f => .error f

theorem Related.imp {r r' : α → β → Prop} {x : Outcome α} {y : Outcome β} (h : Related r x y)
    (hr : ∀ a b, r a b → r' a b) : Related r' x y := by
  rcases h with h | e
  · exact .ok (hr _ _ h)
  · exact .error e

theorem Related.bind {r : α → β → Prop} {s : γ → δ → Prop} {x : Outcome α} {y : Outcome β}
    {f : α → Outcome γ} {g : β → Outcome δ} (h : Related r x y)
    (hf : ∀ a b, r a b → Related s (f a) (g b)) : Related s (x >>= f) (y >>= g) := by
  rcases h with h | e
  · exact hf _ _ h
  · exact .error e

theorem Related.map {r : α → β → Prop} {s : γ → δ → Prop} {x : Outcome α} {y : Outcome β}
    {f : α → γ} {g : β → δ} (h : Related r x y) (hf : ∀ a b, r a b → s (f a) (g b)) :
    Related s (x.map f) (y.map g) := by
  rcases h with h | e
  · exact .ok (hf _ _ h)
  · exact .error e

theorem Related.mapM {r : β → γ → Prop} {f : α → Outcome β} {g : α → Outcome γ}
    (h : ∀ a, Related r (f a) (g a)) :
    ∀ xs : List α, Related (List.Forall₂ r) (xs.mapM f) (xs.mapM g)
  | [] => .ok .nil
  | x :: xs => by
    rw [List.mapM_cons, List.mapM_cons]
    exact (h x).bind fun b c hbc => (Related.mapM h xs).bind fun bs cs hs => .ok (.cons hbc hs)

theorem exists_mem_of_forall₂ {r : α → β → Prop} {xs : List α} {ys : List β}
    (h : List.Forall₂ r xs ys) : ∀ x ∈ xs, ∃ y ∈ ys, r x y := by
  induction h with
  | nil => intro x hx; cases hx
  | @cons x y xs ys hxy _ ih =>
    intro z hz
    rcases List.mem_cons.mp hz with rfl | hz
    · exact ⟨y, by simp, hxy⟩
    · obtain ⟨w, hw, h⟩ := ih z hz
      exact ⟨w, List.mem_cons_of_mem y hw, h⟩

/-- A traversal succeeds exactly if it does at every member. -/
theorem mapM_ok_iff {f : α → Outcome β} : ∀ {xs : List α} {ys : List β},
    xs.mapM f = .ok ys ↔ List.Forall₂ (fun x y => f x = .ok y) xs ys
  | [], ys => by
    rw [List.mapM_nil, List.forall₂_nil_left_iff]
    constructor
    · rintro ⟨⟩; rfl
    · rintro rfl; rfl
  | x :: xs, ys => by
    rw [List.mapM_cons]
    constructor
    · intro h
      rcases hx : f x with e | y
      · rw [hx] at h; cases h
      · rcases hxs : xs.mapM f with e | ys'
        · rw [hx, hxs] at h; cases h
        · rw [hx, hxs] at h
          cases h
          exact .cons hx (mapM_ok_iff.mp hxs)
    · rintro (_ | ⟨hx, hxs⟩)
      rw [hx, mapM_ok_iff.mpr hxs]
      rfl

theorem bind_ok_iff {ε : Type} {x : Except ε α} {f : α → Except ε β} {b : β} :
    x >>= f = .ok b ↔ ∃ a, x = .ok a ∧ f a = .ok b := by
  refine ⟨fun h => ?_, ?_⟩
  · rcases x with e | a
    · cases h
    · exact ⟨a, rfl, h⟩
  · rintro ⟨a, rfl, hb⟩
    exact hb

theorem bind_error_iff {x : Outcome α} {f : α → Outcome β} {e : Fault} :
    x >>= f = .error e ↔ x = .error e ∨ ∃ a, x = .ok a ∧ f a = .error e := by
  constructor
  · intro h
    rcases x with _ | a
    · cases h
      exact .inl rfl
    · exact .inr ⟨a, rfl, h⟩
  · rintro (rfl | ⟨a, rfl, h⟩)
    · rfl
    · exact h

theorem isOk_iff_exists {x : Outcome α} : x.isOk = true ↔ ∃ a, x = .ok a := by
  rcases x with e | a
  · exact iff_of_false nofun nofun
  · exact iff_of_true rfl ⟨a, rfl⟩

theorem isOk_bind_iff {x : Outcome α} {f : α → Outcome β} :
    (x >>= f).isOk = true ↔ ∃ a, x = .ok a ∧ (f a).isOk = true := by
  rcases x with e | a
  · exact iff_of_false nofun nofun
  · exact ⟨fun h => ⟨a, rfl, h⟩, fun ⟨_, ha, h⟩ => by cases ha; exact h⟩

theorem toOption_eq_some_iff {x : Outcome α} {a : α} : x.toOption = some a ↔ x = .ok a := by
  cases x with
  | error f => exact iff_of_false nofun nofun
  | ok b =>
    exact ⟨fun h => congrArg Except.ok (Option.some.inj h), fun h => congrArg some (Except.ok.inj h)⟩

theorem mapError_eq_ok_iff {x : Outcome α} {g : Fault → Fault} {a : α} :
    x.mapError g = .ok a ↔ x = .ok a := by
  rcases x with f | b
  · exact iff_of_false nofun nofun
  · exact Iff.rfl

/-- What does not depend on the result is asked once. -/
theorem forall_ok_iff {x : Outcome α} {q : Prop} : (∀ a, x = .ok a → q) ↔ (x.isOk = true → q) := by
  rcases x with e | a
  · exact iff_of_true (fun a ha => by cases ha) fun h => by cases h
  · exact ⟨fun h _ => h a rfl, fun h _ _ => h rfl⟩

theorem mapM_ok {f : α → Outcome β} {g : α → β} {xs : List α} (h : ∀ x ∈ xs, f x = .ok (g x)) :
    xs.mapM f = .ok (xs.map g) :=
  mapM_ok_iff.mpr (List.forall₂_map_right_iff.mpr (List.forall₂_same.mpr h))

theorem forM_ok {f : α → Outcome Unit} : ∀ {xs : List α}, (∀ x ∈ xs, f x = .ok PUnit.unit) →
    xs.forM f = .ok PUnit.unit
  | [], _ => rfl
  | _ :: _, h =>
    have ⟨hx, hxs⟩ := List.forall_mem_cons.mp h
    bind_ok_iff.mpr ⟨PUnit.unit, hx, forM_ok hxs⟩

theorem mapM_isOk_iff {f : α → Outcome β} : ∀ {xs : List α},
    (xs.mapM f).isOk = true ↔ ∀ x ∈ xs, (f x).isOk = true
  | [] => by
    rw [List.mapM_nil]
    exact iff_of_true rfl nofun
  | x :: xs => by
    rw [List.mapM_cons, List.forall_mem_cons, ← mapM_isOk_iff]
    rcases f x with e | y
    · exact iff_of_false nofun fun h => nomatch h.1
    · rcases xs.mapM f with e | ys
      · exact iff_of_false nofun fun h => nomatch h.2
      · exact iff_of_true rfl ⟨rfl, rfl⟩

/-- A traversal succeeds, or fails as its first failing member does. -/
theorem mapM_cases (f : α → Outcome β) : ∀ xs : List α, (∃ ys, xs.mapM f = .ok ys) ∨
    ∃ before x after e, xs = before ++ x :: after ∧ (∀ y ∈ before, (f y).isOk = true) ∧
      f x = .error e ∧ xs.mapM f = .error e
  | [] => Or.inl ⟨[], rfl⟩
  | x :: xs => by
    rcases hx : f x with e | y
    · right
      refine ⟨[], x, xs, e, rfl, nofun, hx, ?_⟩
      rw [List.mapM_cons, hx]
      rfl
    · rcases mapM_cases f xs with ⟨ys, hys⟩ | ⟨before, z, after, e, rfl, hbefore, hz, he⟩
      · left
        refine ⟨y :: ys, ?_⟩
        rw [List.mapM_cons, hx, hys]
        rfl
      · right
        refine ⟨x :: before, z, after, e, rfl, List.forall_mem_cons.mpr ⟨?_, hbefore⟩, hz, ?_⟩
        · rw [hx]
          rfl
        · rw [List.mapM_cons, hx, he]
          rfl

/-- A traversal of parts is a traversal of the whole. -/
theorem mapM_flatten (f : α → Outcome β) : ∀ xss : List (List α),
    xss.flatten.mapM f = (xss.mapM fun xs : List α => xs.mapM f).map List.flatten
  | [] => rfl
  | xs :: xss => by
    rw [List.flatten_cons, List.mapM_append, List.mapM_cons, mapM_flatten f xss]
    rcases xs.mapM f with e | ys
    · rfl
    · rcases xss.mapM (fun xs : List α => xs.mapM f) with e | yss <;> rfl

theorem mapM_congr {f g : α → Outcome β} {xs : List α} (h : ∀ x ∈ xs, f x = g x) :
    xs.mapM f = xs.mapM g := by
  induction xs with
  | nil => rfl
  | cons x xs ih =>
    rw [List.mapM_cons, List.mapM_cons, h x (by simp), ih fun y hy => h y (by simp [hy])]

theorem mapM_eq_of_forall₂ {f : α → Outcome γ} {g : β → Outcome γ} {xs : List α} {ys : List β}
    (h : List.Forall₂ (fun x y => f x = g y) xs ys) : xs.mapM f = ys.mapM g := by
  induction h with
  | nil => rfl
  | cons hxy _ ih => rw [List.mapM_cons, List.mapM_cons, hxy, ih]

theorem length_of_mapM_ok {f : α → Outcome β} {xs : List α} {ys : List β}
    (h : xs.mapM f = .ok ys) : ys.length = xs.length :=
  (mapM_ok_iff.mp h).length_eq.symm

/-- A filter whose test succeeds at every member. -/
theorem filterM_ok {p : α → Outcome Bool} {q : α → Bool} {xs : List α}
    (h : ∀ x ∈ xs, p x = .ok (q x)) : xs.filterM p = .ok (xs.filter q) := by
  have haux : ∀ (xs acc : List α), (∀ x ∈ xs, p x = .ok (q x)) →
      List.filterAuxM p xs acc = .ok ((xs.filter q).reverse ++ acc) := by
    intro xs
    induction xs with
    | nil => intro acc _; rfl
    | cons x xs ih =>
      intro acc h
      have hxs : ∀ y ∈ xs, p y = .ok (q y) := fun y hy => h y (by simp [hy])
      rw [List.filterAuxM, h x (by simp)]
      change List.filterAuxM p xs _ = _
      rw [ih _ hxs]
      cases hq : q x <;> simp [hq]
  rw [List.filterM, haux xs [] h]
  simp [bind, Except.bind, pure, Except.pure]

/-! ### Faults -/

/-- Whatever fault there is satisfies `p`. -/
def FailsWith (p : Fault → Prop) (x : Outcome α) : Prop := ∀ f, x = .error f → p f

section
variable {p : Fault → Prop}

theorem FailsWith.ok (a : α) : FailsWith p (.ok a) := fun _ h => by cases h

theorem FailsWith.error {f : Fault} (h : p f) : FailsWith p (.error f : Outcome α) := fun _ hf => by
  cases hf
  exact h

theorem FailsWith.imp {q : Fault → Prop} {x : Outcome α} (hx : FailsWith p x) (h : ∀ f, p f → q f) :
    FailsWith q x := fun f hf => h f (hx f hf)

/-- Of the faults that there may be, the two say the same. -/
theorem FailsWith.congr {q r : Fault → Prop} {x : Outcome α} (hx : FailsWith r x)
    (h : ∀ f, r f → (p f ↔ q f)) : FailsWith p x ↔ FailsWith q x :=
  forall₂_congr fun f hf => h f (hx f hf)

theorem FailsWith.bind {x : Outcome α} {f : α → Outcome β} (hx : FailsWith p x)
    (hf : ∀ a, x = .ok a → FailsWith p (f a)) : FailsWith p (x >>= f) := by
  intro e he
  rcases x with _ | a
  · cases he
    exact hx e rfl
  · exact hf a rfl e he

theorem FailsWith.bind_iff {x : Outcome α} {f : α → Outcome β} : FailsWith p (x >>= f) ↔
    FailsWith p x ∧ ∀ a, x = .ok a → FailsWith p (f a) := by
  refine ⟨fun h => ⟨fun e he => ?_, fun a ha => ?_⟩, fun h => h.1.bind h.2⟩
  · rw [he] at h
    exact h e rfl
  · rw [ha] at h
    exact h

theorem FailsWith.map {x : Outcome α} (hx : FailsWith p x) (f : α → β) : FailsWith p (x.map f) := by
  intro e he
  rcases x with _ | a <;> cases he
  exact hx e rfl

theorem FailsWith.mapM {f : α → Outcome β} : ∀ {xs : List α}, (∀ x ∈ xs, FailsWith p (f x)) →
    FailsWith p (xs.mapM f)
  | [], _ => by
    rw [List.mapM_nil]
    exact .ok []
  | x :: xs, h => by
    rw [List.mapM_cons]
    refine (h x (by simp)).bind fun y _ => ?_
    refine (FailsWith.mapM fun y hy => h y (List.mem_cons_of_mem x hy)).bind fun ys _ => ?_
    exact .ok (y :: ys)

/-- A traversal that can fail in one way only, and has a member that fails, fails in that way. -/
theorem mapM_eq_error {f : α → Outcome β} {e : Fault} {xs : List α}
    (hf : ∀ x ∈ xs, FailsWith (· = e) (f x)) {x : α} (hx : x ∈ xs) (hfails : (f x).isOk = false) :
    xs.mapM f = .error e := by
  rcases hxs : xs.mapM f with e' | ys
  · exact congrArg Except.error (FailsWith.mapM hf e' hxs)
  · have hok := mapM_isOk_iff.mp (isOk_iff_exists.mpr ⟨ys, hxs⟩) x hx
    cases hfails.symm.trans hok

theorem FailsWith.mapError_iff {x : Outcome α} {g : Fault → Fault} :
    FailsWith p (x.mapError g) ↔ FailsWith (fun f => p (g f)) x := by
  rcases x with f | a
  · exact ⟨fun h => .error (h _ rfl), fun h => .error (h f rfl)⟩
  · exact iff_of_true (.ok a) (.ok a)

theorem FailsWith.forM {f : α → Outcome Unit} : ∀ {xs : List α}, (∀ x ∈ xs, FailsWith p (f x)) →
    FailsWith p (xs.forM f)
  | [], _ => .ok PUnit.unit
  | x :: xs, h => (h x (by simp)).bind fun _ _ =>
      FailsWith.forM fun y hy => h y (List.mem_cons_of_mem x hy)

theorem FailsWith.mapM_cons_iff {f : α → Outcome β} {x : α} {xs : List α} :
    FailsWith p ((x :: xs).mapM f) ↔
      FailsWith p (f x) ∧ ((f x).isOk = true → FailsWith p (xs.mapM f)) := by
  have hrest : ∀ b, FailsWith p (xs.mapM f >>= fun bs => Except.ok (b :: bs)) ↔
      FailsWith p (xs.mapM f) := fun b =>
    FailsWith.bind_iff.trans (and_iff_left fun bs _ => .ok (b :: bs))
  rw [List.mapM_cons, FailsWith.bind_iff]
  refine and_congr_right fun _ => ⟨fun h hx => ?_, fun h b hb => ?_⟩
  · rcases hb : f x with e | b
    · rw [hb] at hx
      cases hx
    · exact (hrest b).mp (h b hb)
  · exact (hrest b).mpr (h (by rw [hb]; rfl))

/-- A traversal stops at the first member that fails. -/
theorem FailsWith.mapM_iff {f : α → Outcome β} : ∀ {xs : List α}, FailsWith p (xs.mapM f) ↔
    ∀ before x after, xs = before ++ x :: after → (∀ y ∈ before, (f y).isOk = true) →
      FailsWith p (f x)
  | [] => by
    rw [List.mapM_nil]
    refine ⟨fun _ before x after h => ?_, fun _ => .ok []⟩
    cases before <;> cases h
  | x :: xs => by
    rw [FailsWith.mapM_cons_iff, FailsWith.mapM_iff]
    constructor
    · rintro ⟨hx, hxs⟩ (_ | ⟨_, before⟩) z after h hbefore
      · cases h
        exact hx
      · cases h
        exact hxs (hbefore x (by simp)) before z after rfl fun y hy =>
          hbefore y (List.mem_cons_of_mem x hy)
    · refine fun h => ⟨h [] x xs rfl (by simp), fun hx before z after hxs hbefore => ?_⟩
      subst hxs
      exact h (x :: before) z after rfl (List.forall_mem_cons.mpr ⟨hx, hbefore⟩)

theorem FailsWith.foldlM {f : β → α → Outcome β} (h : ∀ b a, FailsWith p (f b a)) :
    ∀ (xs : List α) (b : β), FailsWith p (xs.foldlM f b)
  | [], b => .ok b
  | x :: xs, b => by
    rw [List.foldlM_cons]
    exact (h b x).bind fun b' _ => FailsWith.foldlM h xs b'

end

/-! ### Outcomes with a state -/

section
variable {ε σ : Type} {x : ExceptT ε (StateM σ) α} {f : α → ExceptT ε (StateM σ) β} {s s' : σ}

theorem run_bind_ok {a : α} (h : x.run.run s = (.ok a, s')) :
    (x >>= f).run.run s = (f a).run.run s' := by
  rw [ExceptT.run_bind, StateT.run_bind, h]
  rfl

theorem run_bind_error {e : ε} (h : x.run.run s = (.error e, s')) :
    (x >>= f).run.run s = (.error e, s') := by
  rw [ExceptT.run_bind, StateT.run_bind, h]
  rfl

end

end BoundSql.Outcome
