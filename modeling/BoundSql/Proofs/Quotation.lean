import BoundSql.Proofs.Outcome
import BoundSql.Value.Access

/-! # What a fault quotes

The wording of a fault may quote a value (`Fault.shown?`). A value with an integer that is too long to
be written cannot be quoted, and then another fault comes out (`Fault.worded`). A part of a value
(`Value.HasPart`) has such an integer only if the whole has (`Value.HasPart.hasLongNumeral`); so where
faults quote parts of what is read (`Fault.Quotes`), they come out as they are on every document without
such integers (`Fault.mapError_worded`). -/

namespace BoundSql

open Outcome

namespace Value

/-- The second value is the first, or one of the members of a part of it, or stands at a key there. -/
inductive HasPart (v : Value) : Value → Prop
  | whole : HasPart v v
  | member {w x : Value} {xs : List Value} :
      HasPart v w → w.members = .ok xs → x ∈ xs → HasPart v x
  | entry {m : Mapping} {e : Value × Value} : HasPart v (.map m) → e ∈ m → HasPart v e.2

theorem HasPart.field {v x : Value} {m : Mapping} {k : String} (hm : v.HasPart (.map m))
    (hx : m.field? k = some x) : v.HasPart x := by
  obtain ⟨e, he, rfl⟩ := Option.map_eq_some_iff.mp hx
  exact hm.entry (List.mem_of_find?_eq_some he)

theorem HasPart.key {v : Value} {m : Mapping} {e : Value × Value} (hm : v.HasPart (.map m))
    (he : e ∈ m) : v.HasPart e.1 :=
  hm.member rfl (List.mem_map_of_mem he)

theorem hasLongNumeral_of_mem : ∀ {xs : List Value}, anyLongNumeral xs = false →
    ∀ x ∈ xs, x.hasLongNumeral = false
  | y :: ys, h, x, hx => by
    obtain ⟨hy, hys⟩ := Bool.or_eq_false_iff.mp h
    rcases List.mem_cons.mp hx with rfl | hx
    · exact hy
    · exact hasLongNumeral_of_mem hys x hx

theorem hasLongNumeral_of_mem_entries : ∀ {kvs : Mapping}, anyLongEntry kvs = false →
    ∀ e ∈ kvs, e.1.hasLongNumeral = false ∧ e.2.hasLongNumeral = false
  | e' :: kvs, h, e, he => by
    obtain ⟨he', hkvs⟩ := Bool.or_eq_false_iff.mp h
    rcases List.mem_cons.mp he with rfl | he
    · exact Bool.or_eq_false_iff.mp he'
    · exact hasLongNumeral_of_mem_entries hkvs e he

/-- An integer of 64 bits can be written. -/
theorem short_of_natAbs_lt {n : Int} (h : n.natAbs < UInt64.size) :
    (int n).hasLongNumeral = false := by
  have hlimit : UInt64.size ≤ 10 ^ Text.numeralLimit :=
    calc UInt64.size ≤ 10 ^ 20 := by decide
      _ ≤ 10 ^ Text.numeralLimit := Nat.pow_le_pow_right (by decide) (by decide)
  have hlong : (int n).hasLongNumeral = decide (10 ^ Text.numeralLimit ≤ n.natAbs) := rfl
  rw [hlong, decide_eq_false_iff_not]
  exact Nat.not_le.mpr (Nat.lt_of_lt_of_le h hlimit)

theorem short_byte (b : UInt8) : (int b.toNat).hasLongNumeral = false :=
  short_of_natAbs_lt (Nat.lt_trans b.toNat_lt (by decide))

theorem hasLongNumeral_of_members {v : Value} {xs : List Value} (hv : v.hasLongNumeral = false)
    (h : v.members = .ok xs) : ∀ x ∈ xs, x.hasLongNumeral = false := by
  cases v with
  | list | tuple | set =>
    cases h
    exact hasLongNumeral_of_mem hv
  | text s =>
    cases h
    intro x hx
    obtain ⟨c, -, rfl⟩ := List.mem_map.mp hx
    rfl
  | bytes bs =>
    cases h
    intro x hx
    obtain ⟨b, -, rfl⟩ := List.mem_map.mp hx
    exact short_byte b
  | map kvs =>
    cases h
    intro x hx
    obtain ⟨e, he, rfl⟩ := List.mem_map.mp hx
    exact (hasLongNumeral_of_mem_entries hv e he).1
  | _ => cases h

/-- What can be written can be written part by part. -/
theorem HasPart.hasLongNumeral {v w : Value} (h : v.HasPart w) (hv : v.hasLongNumeral = false) :
    w.hasLongNumeral = false := by
  induction h with
  | whole => exact hv
  | member _ hxs hx ih => exact hasLongNumeral_of_members ih hxs _ hx
  | entry _ he ih => exact (hasLongNumeral_of_mem_entries ih _ he).2

end Value

namespace Fault

/-- What the fault quotes, if anything, is a part of the value. -/
def Quotes (v : Value) (f : Fault) : Prop := ∀ w, f.shown? = some w → v.HasPart w

variable {v : Value} {f : Fault}

theorem quotes_of_shown {w : Value} (hf : f.shown? = some w) (hw : v.HasPart w) : f.Quotes v := by
  intro w' hw'
  cases hf.symm.trans hw'
  exact hw

theorem quotes_of_silent (hf : f.shown? = none) : f.Quotes v := by
  intro w hw
  cases hf.symm.trans hw

theorem worded_of_short (hf : f.shown?.any Value.hasLongNumeral = false) : f.worded = f := by
  rw [worded, hf]
  rfl

theorem worded_of_long (hf : f.shown?.any Value.hasLongNumeral = true) :
    f.worded = .unwritable Text.numeralLimit := by
  rw [worded, hf]
  rfl

/-- What the fault quotes, if anything, can be written. -/
def IsQuotable (f : Fault) : Prop := f.shown?.any Value.hasLongNumeral = false

theorem Quotes.isQuotable (hf : f.Quotes v) (hv : v.hasLongNumeral = false) : f.IsQuotable := by
  unfold IsQuotable
  rcases hw : f.shown? with _ | w
  · rfl
  · exact (hf w hw).hasLongNumeral hv

/-- A fault that quotes a part of a value without long integers comes out as it is. -/
theorem Quotes.worded (hf : f.Quotes v) (hv : v.hasLongNumeral = false) : f.worded = f :=
  worded_of_short (hf.isQuotable hv)

/-- What is read from a document without long integers comes out as it is. -/
theorem mapError_worded {α : Type} {x : Outcome α} (hx : FailsWith (Quotes v) x)
    (hv : v.hasLongNumeral = false) : x.mapError worded = x := by
  rcases hfault : x with f | a
  · exact congrArg Except.error ((hx f hfault).worded hv)
  · rfl

end Fault

end BoundSql
