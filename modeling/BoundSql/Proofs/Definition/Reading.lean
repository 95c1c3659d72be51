import BoundSql.Definition
import BoundSql.Proofs.Quotation
import BoundSql.Proofs.Sql.Rendering

/-! # Reading a definition from a document

What is malformed in a document is refused: columns, conditions and the entries that stand alone
are read or refused, whatever stands there, and the refusal quotes a part of the document
(`Fault.IsRefusalOf`). The exception are the places of lists. A present value
that has no members (`isUnlisted`) is not refused there, and the operation on it is a misuse; so
reading a document gives a definition or a refusal exactly if no such value is come upon
(`failsWith_ofMapping_iff`). -/

namespace BoundSql

open Outcome

/-- A definition is refused. -/
def Fault.IsRefusal (f : Fault) : Prop := ∃ why, f = .definition why

/-- A definition is refused, and what the refusal quotes is a part of the value. -/
def Fault.IsRefusalOf (w : Value) (f : Fault) : Prop := f.IsRefusal ∧ f.Quotes w

namespace Definition

variable {α : Type} {w v : Value}

theorem failsWith_refuse (why : DefinitionFault) :
    FailsWith Fault.IsRefusal (refuse why : Outcome α) := .error ⟨why, rfl⟩

theorem refusal_of_shown {why : DefinitionFault} {x : Value} (hwhy : why.shown? = some x)
    (hx : w.HasPart x) : FailsWith (Fault.IsRefusalOf w) (refuse why : Outcome α) :=
  .error ⟨⟨why, rfl⟩, Fault.quotes_of_shown hwhy hx⟩

theorem refusal_of_silent {why : DefinitionFault} (hwhy : why.shown? = none) :
    FailsWith (Fault.IsRefusalOf w) (refuse why : Outcome α) :=
  .error ⟨⟨why, rfl⟩, Fault.quotes_of_silent hwhy⟩

theorem failsWith_of_refusal {x : Outcome α} (h : FailsWith (Fault.IsRefusalOf w) x) :
    FailsWith Fault.IsRefusal x :=
  h.imp fun _ => And.left

/-- A refusal comes out as one exactly if what it quotes can be written. -/
theorem failsWith_worded_iff {x : Outcome α} : FailsWith Fault.IsRefusal (x.mapError Fault.worded) ↔
    FailsWith Fault.IsRefusal x ∧ ∀ f, x = .error f → f.IsQuotable := by
  rcases x with f | a
  · rcases hshown : f.shown?.any Value.hasLongNumeral with _ | _
    · have hworded : f.worded = f := Fault.worded_of_short hshown
      change FailsWith Fault.IsRefusal (.error f.worded) ↔ _
      rw [hworded]
      exact (and_iff_left fun f' hf => Except.error.inj hf ▸ hshown).symm
    · have hworded := Fault.worded_of_long hshown
      refine iff_of_false (fun h => ?_) fun h => ?_
      · obtain ⟨why, hwhy⟩ := h f.worded rfl
        cases hworded.symm.trans hwhy
      · exact Bool.false_ne_true ((h.2 f rfl).symm.trans hshown)
  · exact iff_of_true (.ok a) ⟨.ok a, nofun⟩

/-! ### Entries -/

theorem refusal_columnOfValue (hv : w.HasPart v) :
    FailsWith (Fault.IsRefusalOf w) (columnOfValue v) := by
  unfold columnOfValue
  split
  · unfold columnOfText
    dsimp only
    split
    · exact refusal_of_shown rfl hv
    · exact .ok _
  · unfold columnOfMapping
    split
    · exact refusal_of_shown rfl hv
    · exact refusal_of_shown rfl hv
    · exact .ok _
  · exact refusal_of_shown rfl hv

theorem failsWith_columnOfValue (v : Value) : FailsWith Fault.IsRefusal (columnOfValue v) :=
  failsWith_of_refusal (refusal_columnOfValue .whole)

theorem refusal_conditionOfValue (hv : w.HasPart v) :
    FailsWith (Fault.IsRefusalOf w) (conditionOfValue v) := by
  unfold conditionOfValue
  split
  · unfold conditionOfMapping
    split
    · exact refusal_of_shown rfl hv
    · next hc => exact (refusal_columnOfValue (hv.field hc)).bind fun _ _ => .ok _
    · next hab =>
      have hlist := hv.field hab
      refine (refusal_columnOfValue (hlist.member rfl (by simp))).bind fun _ _ => ?_
      exact (refusal_columnOfValue (hlist.member rfl (by simp))).bind fun _ _ => .ok _
    · exact refusal_of_shown rfl hv
    · exact refusal_of_shown rfl hv
  · exact refusal_of_shown rfl hv

theorem failsWith_conditionOfValue (v : Value) : FailsWith Fault.IsRefusal (conditionOfValue v) :=
  failsWith_of_refusal (refusal_conditionOfValue .whole)

section
variable {m : Mapping} (hm : w.HasPart (.map m))
include hm

theorem refusal_requireText (key : String) :
    FailsWith (Fault.IsRefusalOf w) (requireText m key) := by
  unfold requireText
  split
  · exact .ok _
  · exact .ok _
  · exact refusal_of_shown rfl hm

theorem refusal_derivedName : FailsWith (Fault.IsRefusalOf w) (derivedName m) := by
  unfold derivedName
  split
  · exact .ok _
  · exact .ok _
  · exact .ok _
  · exact refusal_of_shown rfl hm

theorem refusal_tableOf : FailsWith (Fault.IsRefusalOf w) (tableOf m) := by
  unfold tableOf
  split
  · exact refusal_of_silent rfl
  · next hv =>
    split
    · exact refusal_of_silent rfl
    · split
      · exact .ok _
      · exact refusal_of_shown rfl (hm.field hv)

theorem refusal_aliasesOf : FailsWith (Fault.IsRefusalOf w) (aliasesOf m) := by
  unfold aliasesOf
  split
  · exact .ok _
  · next hv =>
    split
    · exact .ok _
    · split
      · exact .ok _
      · exact refusal_of_shown rfl (hm.field hv)

theorem refusal_sortByOf : FailsWith (Fault.IsRefusalOf w) (sortByOf m) := by
  unfold sortByOf
  split
  · exact .ok _
  · exact .ok _
  · exact .ok _
  · next hv => exact refusal_of_shown rfl (hm.field hv)

theorem refusal_limitOf : FailsWith (Fault.IsRefusalOf w) (limitOf m) := by
  unfold limitOf
  split
  · exact .ok _
  · exact .ok _
  · next hv => exact refusal_of_shown rfl (hm.field hv)

end

theorem failsWith_requireText (m : Mapping) (key : String) :
    FailsWith Fault.IsRefusal (requireText m key) :=
  failsWith_of_refusal (refusal_requireText .whole key)

theorem failsWith_derivedName (m : Mapping) : FailsWith Fault.IsRefusal (derivedName m) :=
  failsWith_of_refusal (refusal_derivedName .whole)

theorem isOptionalText_of_derivedName {m : Mapping} {name : Value} (h : derivedName m = .ok name) :
    name = .null ∨ name.isText = true := by
  unfold derivedName at h
  split at h <;> cases h
  · exact Or.inl rfl
  · exact Or.inl rfl
  · exact Or.inr rfl

theorem failsWith_tableOf (m : Mapping) : FailsWith Fault.IsRefusal (tableOf m) :=
  failsWith_of_refusal (refusal_tableOf .whole)

theorem failsWith_aliasesOf (m : Mapping) : FailsWith Fault.IsRefusal (aliasesOf m) :=
  failsWith_of_refusal (refusal_aliasesOf .whole)

theorem failsWith_sortByOf (m : Mapping) : FailsWith Fault.IsRefusal (sortByOf m) :=
  failsWith_of_refusal (refusal_sortByOf .whole)

theorem failsWith_limitOf (m : Mapping) : FailsWith Fault.IsRefusal (limitOf m) :=
  failsWith_of_refusal (refusal_limitOf .whole)

/-! ### Lists -/

/-- Something is there, but it has no members. -/
def isUnlisted : Option Value → Bool
  | none | some .null | some (.text _) | some (.bytes _) | some (.list _) | some (.tuple _)
  | some (.set _) | some (.map _) => false
  | some v => v.truthy

theorem failsWith_membersOr_iff (o : Option Value) :
    FailsWith Fault.IsRefusal (Value.membersOr o) ↔ isUnlisted o = false := by
  have hmisuse : ∀ u, ¬FailsWith Fault.IsRefusal (.error (.misuse u) : Outcome (List Value)) := by
    intro u h
    obtain ⟨why, hwhy⟩ := h _ rfl
    cases hwhy
  rcases o with _ | v
  · exact iff_of_true (.ok []) rfl
  · rcases ht : v.truthy with _ | _
    · have hmembers : Value.membersOr (some v) = .ok [] := by rw [Value.membersOr, ht]; rfl
      rw [hmembers]
      refine iff_of_true (.ok []) ?_
      cases v <;> first | rfl | exact ht
    · have hmembers : Value.membersOr (some v) = v.members := by rw [Value.membersOr, ht]; rfl
      rw [hmembers]
      cases v with
      | null => cases ht
      | text | bytes | list | tuple | set | map => exact iff_of_true (.ok _) rfl
      | _ => exact iff_of_false (hmisuse _) (ne_of_eq_of_ne ht (by decide))

/-- The entries of a list, read one after another. -/
def readAll (f : Value → Outcome α) (o : Option Value) : Outcome (List α) :=
  Value.membersOr o >>= fun es => es.mapM f

theorem failsWith_readAll_iff {f : Value → Outcome α} (hf : ∀ v, FailsWith Fault.IsRefusal (f v))
    (o : Option Value) : FailsWith Fault.IsRefusal (readAll f o) ↔ isUnlisted o = false := by
  rw [← failsWith_membersOr_iff, readAll, FailsWith.bind_iff]
  exact and_iff_left fun es _ => .mapM fun e _ => hf e

theorem derivedOfMapping_eq (m : Mapping) : derivedOfMapping m = (do
    let columns ← readAll columnOfValue (m.field? "columns")
    requireText m "expression"
    requireText m "subquery"
    let name ← derivedName m
    match m.field? "expression", m.field? "subquery" with
    | some e, _ => return .expression e columns name
    | none, some q =>
      if ← name.isBlank then refuse .unnamedSubquery else return .subquery q columns name
    | none, none => refuse (.derivedKind (.map m))) := by
  rw [readAll, bind_assoc]
  rfl

/-- A computed column is read or refused unless what should be the list of its columns is none. -/
theorem failsWith_derivedOfMapping_iff (m : Mapping) :
    FailsWith Fault.IsRefusal (derivedOfMapping m) ↔ isUnlisted (m.field? "columns") = false := by
  rw [derivedOfMapping_eq, FailsWith.bind_iff, failsWith_readAll_iff failsWith_columnOfValue]
  refine and_iff_left fun columns _ => ?_
  refine (failsWith_requireText m _).bind fun _ _ => (failsWith_requireText m _).bind fun _ _ => ?_
  refine (failsWith_derivedName m).bind fun name hname => ?_
  split
  · exact .ok _
  · -- the name is text or missing, so that it can be examined
    obtain ⟨blank, hblank⟩ : ∃ blank, name.isBlank = .ok blank := by
      rcases isOptionalText_of_derivedName hname with rfl | htext
      · exact ⟨true, rfl⟩
      · rw [Value.eq_text_plain htext]
        exact ⟨_, rfl⟩
    rw [hblank]
    cases blank
    · exact .ok _
    · exact failsWith_refuse _
  · exact failsWith_refuse _

theorem failsWith_derivedOfValue_iff (v : Value) : FailsWith Fault.IsRefusal (derivedOfValue v) ↔
    ∀ m : Mapping, v = .map m → isUnlisted (m.field? "columns") = false := by
  unfold derivedOfValue
  split
  · next m =>
    rw [failsWith_derivedOfMapping_iff]
    exact ⟨fun h m' hm => Value.map.inj hm ▸ h, fun h => h m rfl⟩
  · next hmap => exact iff_of_true (failsWith_refuse _) fun m hm => absurd hm (hmap m)

/-! ### The document -/

/-- What is read before the lists is acceptable. -/
structure HasHead (m : Mapping) : Prop where
  table : (tableOf m).isOk = true
  aliases : (aliasesOf m).isOk = true
  sortBy : (sortByOf m).isOk = true
  limit : (limitOf m).isOk = true

/-- Reading the lists of a document comes upon no value that should be a list and is none: not for
the select list, not for the computed columns or the columns of one of them, and not for the
conditions. Each is come upon only if everything before it can be read. -/
structure IsListed (m : Mapping) : Prop where
  projection : isUnlisted (m.field? "projection") = false
  derived : (readAll columnOfValue (m.field? "projection")).isOk = true →
    isUnlisted (m.field? "derived") = false
  columns : (readAll columnOfValue (m.field? "projection")).isOk = true →
    ∀ (before : List Value) (e : Mapping) (after : List Value),
      Value.membersOr (m.field? "derived") = .ok (before ++ .map e :: after) →
      (∀ v ∈ before, (derivedOfValue v).isOk = true) → isUnlisted (e.field? "columns") = false
  conditions : (readAll columnOfValue (m.field? "projection")).isOk = true →
    (readAll derivedOfValue (m.field? "derived")).isOk = true → isUnlisted (m.field? "where") = false

theorem failsWith_readAll_derivedOfValue_iff (o : Option Value) :
    FailsWith Fault.IsRefusal (readAll derivedOfValue o) ↔ isUnlisted o = false ∧
      ∀ (before : List Value) (e : Mapping) (after : List Value),
        Value.membersOr o = .ok (before ++ .map e :: after) →
        (∀ v ∈ before, (derivedOfValue v).isOk = true) → isUnlisted (e.field? "columns") = false := by
  rw [readAll, FailsWith.bind_iff, failsWith_membersOr_iff]
  refine and_congr_right fun _ => ⟨fun h before e after hes hbefore => ?_, fun h es hes => ?_⟩
  · have he := FailsWith.mapM_iff.mp (h _ hes) before (.map e) after rfl hbefore
    exact (failsWith_derivedOfValue_iff _).mp he e rfl
  · refine FailsWith.mapM_iff.mpr fun before v after hsplit hbefore => ?_
    refine (failsWith_derivedOfValue_iff v).mpr ?_
    rintro e rfl
    exact h before e after (hes.trans (congrArg Except.ok hsplit)) hbefore

/-- The three lists of a document, whatever is made of them. -/
theorem failsWith_lists_iff (m : Mapping)
    (make : List Column → List Item → List Predicate → Definition) :
    FailsWith Fault.IsRefusal (do
      let projection ← readAll columnOfValue (m.field? "projection")
      let derived ← readAll derivedOfValue (m.field? "derived")
      let conditions ← readAll conditionOfValue (m.field? "where")
      return make projection derived conditions) ↔ IsListed m := by
  have hconditions : ∀ ps ds, FailsWith Fault.IsRefusal (do
      let conditions ← readAll conditionOfValue (m.field? "where")
      return make ps ds conditions) ↔ isUnlisted (m.field? "where") = false := by
    intro ps ds
    rw [FailsWith.bind_iff, failsWith_readAll_iff failsWith_conditionOfValue]
    exact and_iff_left fun cs _ => .ok _
  simp only [FailsWith.bind_iff (x := readAll columnOfValue _),
    FailsWith.bind_iff (x := readAll derivedOfValue _), hconditions, forall_ok_iff,
    failsWith_readAll_iff failsWith_columnOfValue, failsWith_readAll_derivedOfValue_iff]
  constructor
  · rintro ⟨hp, hrest⟩
    exact ⟨hp, fun h => (hrest h).1.1, fun h => (hrest h).1.2, fun h => (hrest h).2⟩
  · rintro ⟨hp, hd, hcolumns, hc⟩
    exact ⟨hp, fun h => ⟨⟨hd h, hcolumns h⟩, hc h⟩⟩

theorem ofMapping_eq (m : Mapping) : ofMapping m = (do
    let table ← tableOf m
    let aliases ← aliasesOf m
    let sortBy ← sortByOf m
    let limit ← limitOf m
    let projection ← readAll columnOfValue (m.field? "projection")
    let derived ← readAll derivedOfValue (m.field? "derived")
    let conditions ← readAll conditionOfValue (m.field? "where")
    return { table, projection, aliases, derived, conditions, sortBy, limit }) := by
  simp only [ofMapping, readAll, bind_assoc]

/-- **Reading a document.** If nothing before the lists is refused, the document gives a definition or
a refusal exactly if every list that is come upon is one. -/
theorem failsWith_ofMapping_iff (m : Mapping) : FailsWith Fault.IsRefusal (ofMapping m) ↔
    (HasHead m → IsListed m) := by
  rw [ofMapping_eq]
  simp only [FailsWith.bind_iff (x := tableOf m), FailsWith.bind_iff (x := aliasesOf m),
    FailsWith.bind_iff (x := sortByOf m), FailsWith.bind_iff (x := limitOf m), failsWith_lists_iff,
    failsWith_tableOf, failsWith_aliasesOf, failsWith_sortByOf, failsWith_limitOf, forall_ok_iff,
    true_and]
  exact ⟨fun h hm => h hm.table hm.aliases hm.sortBy hm.limit,
    fun h ht ha hs hl => h ⟨ht, ha, hs, hl⟩⟩

end Definition

end BoundSql
