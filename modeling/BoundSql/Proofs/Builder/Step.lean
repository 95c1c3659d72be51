import BoundSql.Builder
import BoundSql.Proofs.Outcome
import Mathlib.Data.List.Range
import Mathlib.Tactic.Set

/-! # What the steps do to a builder

`Step.on` runs a step on a builder. Steps in sequence are taken apart by `on_bind_ok` and
`on_bind_error`; each operation has one equation that says what it returns and which parts of the
builder it changes. Binding several values one after another (`bindAll`) puts them at the next
positions in order. -/

namespace BoundSql.Builder

variable {α β : Type}

namespace Step

/-- The outcome of a step on a builder, and the builder after it. -/
def on (x : Step α) (b : Builder) : Outcome α × Builder := x.run.run b

@[simp] theorem on_check (x : Outcome α) (b : Builder) : on (check x) b = (x, b) := rfl

@[simp] theorem on_get (b : Builder) : on get b = (.ok b, b) := rfl

theorem on_bind_ok {x : Step α} {f : α → Step β} {b b' : Builder} {a : α}
    (h : on x b = (.ok a, b')) : on (x >>= f) b = on (f a) b' := Outcome.run_bind_ok h

theorem on_bind_error {x : Step α} {f : α → Step β} {b b' : Builder} {e : Fault}
    (h : on x b = (.error e, b')) : on (x >>= f) b = (.error e, b') := Outcome.run_bind_error h

end Step

open Step

/-! ### Clauses -/

/-- The builder with pieces of text appended. -/
def addParts (b : Builder) (pieces : List Value) : Builder :=
  { b with parts := b.parts ++ pieces }

@[simp] theorem addParts_nil (b : Builder) : b.addParts [] = b := by
  simp [addParts]

theorem addParts_append (b : Builder) (ps qs : List Value) :
    b.addParts (ps ++ qs) = (b.addParts ps).addParts qs := by
  simp [addParts]

@[simp] theorem on_append (pieces : List Value) (b : Builder) :
    on (append pieces) b = (.ok ⟨⟩, b.addParts pieces) := rfl

theorem on_setAlias {table key : Value} (h : table.asKey = .ok key) (shortName : Value)
    (b : Builder) :
    on (setAlias table shortName) b = (.ok ⟨⟩, { b with aliases := b.aliases.set key shortName }) := by
  unfold setAlias
  have hkey : on (check table.asKey) b = (.ok key, b) := by rw [on_check, h]
  rw [on_bind_ok hkey]
  rfl

/-- A condition that is not blank is appended, a blank one is skipped. -/
theorem on_where {condition : Value} {blank : Bool} (h : condition.isBlank = .ok blank)
    (b : Builder) : on (where_ condition) b = (.ok ⟨⟩,
      if blank then b else b.addParts [.text " where ", condition]) := by
  unfold where_
  have hblank : on (check condition.isBlank) b = (.ok blank, b) := by rw [on_check, h]
  rw [on_bind_ok hblank]
  cases blank <;> rfl

theorem on_sortBy {order : Value} {blank : Bool} (h : order.isBlank = .ok blank) (b : Builder) :
    on (sortBy order) b = (.ok ⟨⟩,
      if blank then b else b.addParts [.text " order by ", order, .text " DESC "]) := by
  unfold sortBy
  have hblank : on (check order.isBlank) b = (.ok blank, b) := by rw [on_check, h]
  rw [on_bind_ok hblank]
  cases blank <;> rfl

theorem on_limit (b : Builder) :
    on limit b = (.ok ⟨⟩, b.addParts [.text " limit 1"]) := rfl

/-! ### Values -/

/-- The builder with values bound to the next positions, in order. -/
def bindAll (b : Builder) (vs : List Value) : Builder :=
  { b with
    params := b.params ++ (List.range' (b.position + 1) vs.length).zip vs
    position := b.position + vs.length }

@[simp] theorem bindAll_nil (b : Builder) : b.bindAll [] = b := by
  simp [bindAll]

theorem bindAll_append (b : Builder) (vs ws : List Value) :
    b.bindAll (vs ++ ws) = (b.bindAll vs).bindAll ws := by
  have hz : (List.range' (b.position + 1) (vs ++ ws).length).zip (vs ++ ws) =
      (List.range' (b.position + 1) vs.length).zip vs ++
        (List.range' (b.position + vs.length + 1) ws.length).zip ws := by
    rw [List.length_append, ← List.range'_append_1, List.zip_append (by simp)]
    congr 3
    omega
  unfold bindAll
  rw [hz, List.length_append, ← List.append_assoc, ← Nat.add_assoc]

/-- Values that are bound one after another are in the order of their positions. -/
theorem orderedParams_bindAll {b : Builder} (hb : b.params = []) (vs : List Value) :
    (b.bindAll vs).orderedParams = vs := by
  set ns := List.range' (b.position + 1) vs.length
  have hlen : ns.length = vs.length := List.length_range'
  have hsorted : (ns.zip vs).Pairwise fun p q => p.1 ≤ q.1 := by
    rw [← List.pairwise_map (f := Prod.fst) (R := (· ≤ ·)), List.map_fst_zip hlen.le]
    exact List.pairwise_le_range'
  have hsort : (ns.zip vs).mergeSort (fun p q => p.1 ≤ q.1) = ns.zip vs :=
    List.mergeSort_of_pairwise (by simpa using hsorted)
  rw [orderedParams, bindAll, hb, List.nil_append, hsort, List.map_snd_zip hlen.ge]

theorem on_addParam (v : Value) (b : Builder) :
    on (addParam v) b = (.ok (placeholder (b.position + 1)), b.bindAll [v]) := rfl

theorem on_columnText (c : Column) (b : Builder) :
    on (columnText c) b = (Sql.columnText c b.aliases, b) := by
  unfold columnText
  rw [on_bind_ok (on_get b), on_check]

theorem eq_of_ne_null {v : Value} (hv : v ≠ .null) (c : Column) : eq c v = (do
    let name ← columnText c
    let p ← addParam v
    return .text (name ++ " = " ++ p)) := by
  cases v with
  | null => exact absurd rfl hv
  | _ => rfl

theorem between_of_ne_null {v : Value} (hv : v ≠ .null) (first last : Column) :
    between v first last = (do
      let p ← addParam v
      let a ← columnText first
      let b ← columnText last
      return .text (p ++ " between " ++ a ++ " and " ++ b)) := by
  cases v with
  | null => exact absurd rfl hv
  | _ => rfl

end BoundSql.Builder
