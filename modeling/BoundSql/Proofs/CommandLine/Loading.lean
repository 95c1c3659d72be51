import BoundSql.CommandLine.Run
import BoundSql.Proofs.Config.Reading
import BoundSql.Proofs.Definition.Acceptance

/-! # What can be wrong with a file

A file is read as a value, and the value as a query definition or as a configuration. A document that
is malformed is refused, and so is a value; what is wrong with either is reported. But a value without
members where a list is read, or without entries where the data sources are, is a misuse, which is
not. Nor is it reported if a definition is refused with a value that cannot be written, or if a
definition that has been read cannot be applied.

So what is wrong with a file is reported exactly if there is no such value in the place and, for a
query, every refusal can be worded and every definition that is read can be applied
(`failsWith_buildQuery_iff`, `failsWith_load_iff`). -/

namespace BoundSql

open Outcome

/-! ### Reading a definition -/

namespace Definition

variable {α : Type}

/-- The faults of reading a definition: it is refused, or something cannot be read or written. -/
def IsReadingFault (f : Fault) : Prop := f.IsRefusal ∨ f.IsUnrenderable

theorem IsReadingFault.worded {f : Fault} (h : IsReadingFault f) : IsReadingFault f.worded := by
  cases hlong : f.shown?.any Value.hasLongNumeral with
  | false => exact (Fault.worded_of_short hlong).symm ▸ h
  | true => exact (Fault.worded_of_long hlong).symm ▸ .inr .unwritable

theorem failsWith_members (v : Value) : FailsWith Fault.IsUnrenderable v.members := by
  cases v with
  | text | bytes | list | tuple | set | map => exact .ok _
  | _ => exact .error (.misuse _)

theorem failsWith_membersOr (o : Option Value) :
    FailsWith Fault.IsUnrenderable (Value.membersOr o) := by
  unfold Value.membersOr
  split
  · split
    · exact failsWith_members _
    · exact .ok _
  · exact .ok _

theorem failsWith_readAll {f : Value → Outcome α} (hf : ∀ v, FailsWith IsReadingFault (f v))
    (o : Option Value) : FailsWith IsReadingFault (readAll f o) :=
  ((failsWith_membersOr o).imp fun _ => .inr).bind fun _ _ => .mapM fun v _ => hf v

theorem failsWith_derivedOfMapping (m : Mapping) : FailsWith IsReadingFault (derivedOfMapping m) := by
  have hrefusal : ∀ {β : Type} {x : Outcome β}, FailsWith Fault.IsRefusal x →
      FailsWith IsReadingFault x := fun hx => hx.imp fun _ => .inl
  rw [derivedOfMapping_eq]
  refine (failsWith_readAll (fun v => hrefusal (failsWith_columnOfValue v)) _).bind fun columns _ => ?_
  refine (hrefusal (failsWith_requireText m _)).bind fun _ _ => ?_
  refine (hrefusal (failsWith_requireText m _)).bind fun _ _ => ?_
  refine (hrefusal (failsWith_derivedName m)).bind fun name _ => ?_
  split
  · exact .ok _
  · refine (name.failsWith_isBlank.imp fun _ => .inr).bind fun blank _ => ?_
    cases blank
    · exact .ok _
    · exact hrefusal (failsWith_refuse _)
  · exact hrefusal (failsWith_refuse _)

theorem failsWith_ofValue (v : Value) : FailsWith IsReadingFault (ofValue v) := by
  have hrefusal : ∀ {β : Type} {x : Outcome β}, FailsWith Fault.IsRefusal x →
      FailsWith IsReadingFault x := fun hx => hx.imp fun _ => .inl
  have hderived : ∀ v, FailsWith IsReadingFault (derivedOfValue v) := by
    intro v
    unfold derivedOfValue
    split
    · exact failsWith_derivedOfMapping _
    · exact hrefusal (failsWith_refuse _)
  unfold ofValue
  split
  · next m =>
    rw [ofMapping_eq]
    refine (hrefusal (failsWith_tableOf m)).bind fun _ _ => ?_
    refine (hrefusal (failsWith_aliasesOf m)).bind fun _ _ => ?_
    refine (hrefusal (failsWith_sortByOf m)).bind fun _ _ => ?_
    refine (hrefusal (failsWith_limitOf m)).bind fun _ _ => ?_
    refine (failsWith_readAll (fun v => hrefusal (failsWith_columnOfValue v)) _).bind fun _ _ => ?_
    refine (failsWith_readAll hderived _).bind fun _ _ => ?_
    refine (failsWith_readAll (fun v => hrefusal (failsWith_conditionOfValue v)) _).bind fun _ _ => ?_
    exact .ok _
  · exact hrefusal (failsWith_refuse _)

theorem failsWith_read (v : Value) : FailsWith IsReadingFault (read v) :=
  FailsWith.mapError_iff.mpr ((failsWith_ofValue v).imp fun _ => IsReadingFault.worded)

end Definition

/-! ### Loading -/

namespace CommandLine

/-- Whatever is wrong with the text of a query definition is reported. -/
structure IsReportedQuery (text : String) : Prop where
  document : FailsWith (fun f => ofDefinition f = true) (Yaml.load text)
  lists : ∀ m : Mapping, Yaml.load text = .ok (.map m) → Definition.HasHead m → Definition.IsListed m
  quotable : ∀ v f, Yaml.load text = .ok v → Definition.ofValue v = .error f → f.IsQuotable
  applicable : ∀ v d, Yaml.load text = .ok v → Definition.ofValue v = .ok d → d.isApplicable [] = true

/-- Whatever is wrong with the text of a configuration is reported. -/
structure IsReportedConfig (text : String) : Prop where
  document : FailsWith (fun f => ofConfig f = true) (Yaml.load text)
  sources : ∀ m : Mapping, Yaml.load text = .ok (.map m) →
    Config.isUnmapped (m.field? "datasources") = false

variable {files : Files} {path text : String}

/-- Of the faults of a definition the refusals are reported, and no others. -/
theorem ofDefinition_iff {f : Fault} (hf : Definition.IsReadingFault f) :
    ofDefinition f = true ↔ f.IsRefusal := by
  rcases hf with ⟨why, rfl⟩ | (m | _)
  · exact iff_of_true rfl ⟨why, rfl⟩
  · refine iff_of_false ?_ fun ⟨why, hwhy⟩ => nomatch hwhy
    cases m <;> exact Bool.false_ne_true
  · exact iff_of_false Bool.false_ne_true fun ⟨why, hwhy⟩ => nomatch hwhy

theorem failsWith_buildQuery_iff (htext : files.text? path = some text) :
    FailsWith (fun f => ofDefinition f = true) (buildQuery files path) ↔ IsReportedQuery text := by
  have hload : ∀ v, FailsWith (fun f => ofDefinition f = true)
      (Definition.read v >>= Definition.build) ↔
      (∀ m : Mapping, v = .map m → Definition.HasHead m → Definition.IsListed m) ∧
        (∀ f, Definition.ofValue v = .error f → f.IsQuotable) ∧
        ∀ d, Definition.ofValue v = .ok d → d.isApplicable [] = true := by
    intro v
    have hfaults : FailsWith Definition.IsReadingFault (Definition.read v >>= Definition.build) :=
      (Definition.failsWith_read v).bind fun d _ => d.failsWith_build.imp fun _ => .inr
    rw [hfaults.congr fun _ => ofDefinition_iff, FailsWith.bind_iff, Definition.failsWith_read_iff,
      and_assoc]
    refine and_congr_right fun _ => and_congr_right fun _ => forall_congr' fun d => ?_
    rw [Definition.read, mapError_eq_ok_iff, d.failsWith_build_iff]
  have hbuild : buildQuery files path =
      Yaml.load text >>= fun v => Definition.read v >>= Definition.build := by
    unfold buildQuery Definition.load
    rw [htext, bind_assoc]
    exact bind_assoc (Yaml.load text) Definition.read Definition.build
  rw [hbuild, FailsWith.bind_iff]
  constructor
  · rintro ⟨hdocument, hrest⟩
    refine ⟨hdocument, fun m hm => ((hload _).mp (hrest _ hm)).1 m rfl, fun v f hv hf => ?_,
      fun v d hv hd => ?_⟩
    · exact ((hload v).mp (hrest v hv)).2.1 f hf
    · exact ((hload v).mp (hrest v hv)).2.2 d hd
  · intro h
    refine ⟨h.document, fun v hv => (hload v).mpr ⟨?_, fun f => h.quotable v f hv,
      fun d => h.applicable v d hv⟩⟩
    rintro m rfl
    exact h.lists m hv

theorem failsWith_load_iff (htext : files.text? path = some text) :
    FailsWith (fun f => ofConfig f = true) (Config.load path (files.text? path)) ↔
      IsReportedConfig text := by
  -- a refusal is reported, whether or not it can be worded
  have hrefusal : ∀ why, ofConfig (Fault.config why).worded = true := by
    intro why
    cases hlong : (Fault.config why).shown?.any Value.hasLongNumeral with
    | false =>
      rw [Fault.worded_of_short hlong]
      rfl
    | true =>
      rw [Fault.worded_of_long hlong]
      rfl
  have hmisuse : ∀ kind, ¬ofConfig (Fault.misuse (.member kind "items")).worded = true :=
    fun _ => Bool.false_ne_true
  have hvalue : ∀ v : Value,
      FailsWith (fun f => ofConfig f = true) (Config.read (if v.truthy then v else .map [])) ↔
        ∀ m : Mapping, v = .map m → Config.isUnmapped (m.field? "datasources") = false := by
    intro v
    rw [Config.read, FailsWith.mapError_iff, Config.failsWith_ofValue_iff hrefusal hmisuse]
    rcases htruthy : v.truthy with _ | _
    · refine iff_of_true ?_ ?_
      · rintro m ⟨⟩
        rfl
      · rintro m rfl
        cases m with
        | nil => rfl
        | cons => cases htruthy
    · exact Iff.rfl
  have hload : Config.load path (files.text? path) =
      Yaml.load text >>= fun v => Config.read (if v.truthy then v else .map []) := by
    rw [htext]
    rfl
  rw [hload, FailsWith.bind_iff]
  constructor
  · exact fun ⟨hdocument, hrest⟩ => ⟨hdocument, fun m hm => (hvalue _).mp (hrest _ hm) m rfl⟩
  · rintro ⟨hdocument, hsources⟩
    refine ⟨hdocument, fun v hv => (hvalue v).mpr ?_⟩
    rintro m rfl
    exact hsources m hv

end CommandLine

end BoundSql
