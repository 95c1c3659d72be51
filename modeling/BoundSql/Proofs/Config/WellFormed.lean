import BoundSql.Proofs.Config.Reading
import BoundSql.Proofs.Definition.Reference
import BoundSql.Proofs.Quotation

/-! # Well-formed configurations

Which documents are configurations, said without reading them (`IsWellFormed`): every data source has a
type, and a section has no other fields than its own. What is read from a document is what it says
(`Describes`): the data sources in their order, each with its other settings, and for every field of a
section the value given or the default.

A document is read exactly if it is well-formed, and refused otherwise (`read_wellFormed`). There are
two exceptions: something that has no entries stands where the data sources are, or the name of a data
source cannot be quoted. -/

namespace BoundSql

open Outcome

/-- A configuration is refused. -/
def Fault.IsConfigRefusal (f : Fault) : Prop := ∃ why, f = .config why

/-- The entries of a map, none if nothing of the kind is there. -/
def Config.entriesAt : Option Value → Mapping
  | some (.map m) => m
  | _ => []

open Config (entriesAt isUnmapped)

/-- The ways in which a place for a map can be filled. -/
inductive Config.Place : Option Value → Prop
  | absent : Place none
  | void {v : Value} : v.truthy = false → entriesAt (some v) = [] → isUnmapped (some v) = false →
      Place (some v)
  | map {m : Mapping} : (Value.map m).truthy = true → Place (some (.map m))
  | other {v : Value} : v.truthy = true → (∀ m, v ≠ .map m) → isUnmapped (some v) = true →
      Place (some v)

theorem Config.place : ∀ o : Option Value, Place o
  | none => .absent
  | some v => by
    rcases htruthy : v.truthy with _ | _
    · cases v with
      | map m =>
        cases m with
        | nil => exact .void rfl rfl rfl
        | cons => cases htruthy
      | null => exact .void rfl rfl rfl
      | _ => exact .void htruthy rfl htruthy
    · cases v with
      | map m => exact .map htruthy
      | null => cases htruthy
      | _ => exact .other htruthy nofun htruthy

/-! ### Sections -/

namespace Section

variable {s : Section} {m : Mapping}

/-- The names of the fields. -/
def fields (s : Section) : List String := s.defaults.map (·.1)

/-- The key is the name of a field. -/
def IsField (s : Section) (e : Value × Value) : Prop := ∃ k ∈ s.fields, e.1 = .text k

/-- The value of a field: the one given or the default. -/
def valueOf (m : Mapping) (field : String × Value) : Value := (m.field? field.1).getD field.2

theorem unexpected?_eq_none_iff : ∀ {m : Mapping}, m.any isForeign = false →
    (s.unexpected? m = none ↔ ∀ e ∈ m, s.IsField e)
  | [], _ => iff_of_true rfl nofun
  | (key, value) :: r, h => by
    obtain ⟨hkey, hr⟩ := Bool.or_eq_false_iff.mp (List.any_cons ▸ h)
    cases key with
    | text k =>
      rw [List.forall_mem_cons, ← unexpected?_eq_none_iff hr, unexpected?]
      have hfield : s.IsField (.text k, value) ↔ (s.defaults.map (·.1)).contains k = true := by
        rw [List.contains_iff_mem]
        exact ⟨fun ⟨k', hk', he⟩ => Value.text.inj he ▸ hk', fun hk => ⟨k, hk, rfl⟩⟩
      rw [hfield]
      split
      · next hk => exact (and_iff_right hk).symm
      · next hk =>
        refine iff_of_false ?_ fun hall => hk hall.1
        split <;> exact nofun
    | _ => cases hkey

theorem fill_eq_ok_iff {vs : List Value} :
    s.fill m = .ok vs ↔ (∀ e ∈ m, s.IsField e) ∧ vs = s.defaults.map (valueOf m) := by
  unfold fill
  rcases hforeign : m.any isForeign with _ | _
  · rw [if_neg Bool.false_ne_true, ← unexpected?_eq_none_iff hforeign]
    rcases s.unexpected? m with _ | why
    · exact ⟨fun h => ⟨rfl, (Except.ok.inj h).symm⟩, fun h => congrArg Except.ok h.2.symm⟩
    · exact iff_of_false nofun nofun
  · -- a key is no text, and so no name
    rw [if_pos rfl]
    obtain ⟨e, he, hkey⟩ := List.any_eq_true.mp hforeign
    refine iff_of_false nofun fun h => ?_
    obtain ⟨k, -, hk⟩ := h.1 e he
    rcases e with ⟨key, value⟩
    cases hk
    cases hkey

/-- The section has a place for a map in the document, and no other fields than its own. -/
def Accepts (s : Section) (document : Mapping) : Prop :=
  isUnmapped (document.field? s.key) = false ∧
    ∀ e ∈ entriesAt (document.field? s.key), s.IsField e

theorem read_of_mapped {document : Mapping} (h : isUnmapped (document.field? s.key) = false) :
    s.read document = (s.fill (entriesAt (document.field? s.key))).mapError
      fun why => .config (.sectionField s.key why) := by
  unfold read
  generalize document.field? s.key = o at h ⊢
  rcases Config.place o with _ | ⟨htruthy, hentries, -⟩ | htruthy | ⟨-, -, hplace⟩
  · rfl
  · dsimp only
    rw [htruthy, hentries]
    rfl
  · dsimp only
    rw [htruthy]
    rfl
  · cases hplace.symm.trans h

theorem read_of_unmapped {document : Mapping} (h : isUnmapped (document.field? s.key) = true) :
    s.read document = .error (.config (.notSection s.key)) := by
  unfold read
  generalize document.field? s.key = o at h ⊢
  rcases Config.place o with _ | ⟨-, -, hplace⟩ | _ | ⟨htruthy, hmap, -⟩
  · cases h
  · cases hplace.symm.trans h
  · cases h
  · dsimp only
    rw [htruthy]
    split
    · next hnot => cases hnot
    · split
      · next m => exact absurd rfl (hmap m)
      · rfl

/-- A section is read exactly if it is accepted, and every field has its value. -/
theorem read_eq_ok_iff {document : Mapping} {vs : List Value} : s.read document = .ok vs ↔
    s.Accepts document ∧ vs = s.defaults.map (valueOf (entriesAt (document.field? s.key))) := by
  rcases hplace : isUnmapped (document.field? s.key) with _ | _
  · rw [read_of_mapped hplace]
    rcases hfill : s.fill (entriesAt (document.field? s.key)) with why | values
    · refine iff_of_false nofun fun h => ?_
      cases hfill.symm.trans (fill_eq_ok_iff.mpr ⟨h.1.2, rfl⟩)
    · obtain ⟨haccepts, rfl⟩ := fill_eq_ok_iff.mp hfill
      exact ⟨fun h => ⟨⟨hplace, haccepts⟩, (Except.ok.inj h).symm⟩,
        fun h => congrArg Except.ok h.2.symm⟩
  · rw [read_of_unmapped hplace]
    refine iff_of_false nofun fun h => ?_
    cases hplace.symm.trans h.1.1

end Section

/-! ### Data sources -/

namespace SourceConfig

variable {e : Value × Value} {s : SourceConfig}

/-- The entry is that of a data source. -/
def IsEntry (e : Value × Value) : Prop := ∃ m : Mapping, e.2 = .map m ∧ (m.field? "type").isSome = true

/-- The entry gives the data source its name, its type, and its other settings in their order. -/
structure IsFrom (s : SourceConfig) (e : Value × Value) : Prop where
  name : s.name = e.1
  settings : ∃ m : Mapping, e.2 = .map m ∧ m.field? "type" = some s.type ∧ s.options.Sublist m ∧
    ∀ setting, setting ∈ s.options ↔ setting ∈ m ∧ setting.1 ≠ .text "type"

theorem entries_of_mapped {o : Option Value} (h : isUnmapped o = false) :
    entries o = .ok (entriesAt o) := by
  unfold entries
  rcases Config.place o with _ | ⟨htruthy, hentries, -⟩ | htruthy | ⟨-, -, hplace⟩
  · rfl
  · dsimp only
    rw [htruthy, hentries]
    rfl
  · dsimp only
    rw [htruthy]
    rfl
  · cases hplace.symm.trans h

theorem entries_of_unmapped {o : Option Value} (h : isUnmapped o = true) :
    ∃ kind, entries o = .error (.misuse (.member kind "items")) := by
  unfold entries
  rcases Config.place o with _ | ⟨-, -, hplace⟩ | _ | ⟨htruthy, hmap, -⟩
  · cases h
  · cases hplace.symm.trans h
  · cases h
  · dsimp only
    rw [htruthy]
    split
    · next hnot => cases hnot
    · split
      · next m => exact absurd rfl (hmap m)
      · exact ⟨_, rfl⟩

theorem isOk_ofEntry_iff (e : Value × Value) : (ofEntry e).isOk = true ↔ IsEntry e := by
  unfold ofEntry
  split
  · next name m =>
    split
    · next type htype => exact iff_of_true rfl ⟨m, rfl, by rw [htype]; rfl⟩
    · next htype =>
      refine iff_of_false nofun ?_
      rintro ⟨m', hm, h⟩
      cases hm
      rw [htype] at h
      cases h
  · next name v hmap => exact iff_of_false nofun fun ⟨m, hm, _⟩ => hmap m hm

theorem isFrom_of_ofEntry (h : ofEntry e = .ok s) : s.IsFrom e := by
  unfold ofEntry at h
  split at h
  · next name m =>
    split at h
    · next type htype =>
      cases h
      refine ⟨rfl, m, rfl, htype, List.filter_sublist, fun setting => ?_⟩
      rw [Mapping.erase, List.mem_filter, Bool.not_eq_true', Bool.eq_false_iff, Ne,
        Value.eq_text_iff]
    · cases h
  · cases h

end SourceConfig

/-! ### Documents -/

namespace Config

variable {m : Mapping} {c : Config} {v : Value}

/-- The document is a configuration. -/
structure IsWellFormed (m : Mapping) : Prop where
  place : isUnmapped (m.field? "datasources") = false
  sources : ∀ e ∈ entriesAt (m.field? "datasources"), SourceConfig.IsEntry e
  executor : Section.executor.Accepts m
  logging : Section.logging.Accepts m

/-- The value that a document gives for a field of a section, or the default. -/
def given (m : Mapping) (key field : String) (default : Value) : Value :=
  (Mapping.field? (entriesAt (m.field? key)) field).getD default

/-- The configuration has what the document says. -/
structure Describes (m : Mapping) (c : Config) : Prop where
  sources : List.Forall₂ (fun e s => SourceConfig.IsFrom s e) (entriesAt (m.field? "datasources"))
    c.sources
  batchSize : c.executor.batchSize = given m "executor" "batch_size" (.int 10000)
  logParameters : c.executor.logParameters = given m "executor" "log_parameters" (.bool true)
  level : c.logging.level = given m "logging" "level" (.text "INFO")
  structured : c.logging.structured = given m "logging" "structured" (.bool false)
  logFile : c.logging.logFile = given m "logging" "log_file" .null

theorem isOk_ofMapping_iff (m : Mapping) : (ofMapping m).isOk = true ↔ IsWellFormed m := by
  have hsection : ∀ s : Section, (s.read m).isOk = true ↔ s.Accepts m := fun s =>
    isOk_iff_exists.trans ⟨fun ⟨_, h⟩ => (Section.read_eq_ok_iff.mp h).1,
      fun h => ⟨_, Section.read_eq_ok_iff.mpr ⟨h, rfl⟩⟩⟩
  have hsources : (List.mapM SourceConfig.ofEntry (entriesAt (m.field? "datasources"))).isOk = true ↔
      ∀ e ∈ entriesAt (m.field? "datasources"), SourceConfig.IsEntry e :=
    mapM_isOk_iff.trans (forall₂_congr fun e _ => SourceConfig.isOk_ofEntry_iff e)
  unfold ofMapping
  rcases hplace : isUnmapped (m.field? "datasources") with _ | _
  · rw [SourceConfig.entries_of_mapped hplace]
    simp only [isOk_bind_iff]
    constructor
    · rintro ⟨_, ⟨⟩, _, hs, _, he, _, hl, -⟩
      exact ⟨hplace, hsources.mp (isOk_iff_exists.mpr ⟨_, hs⟩),
        (hsection _).mp (isOk_iff_exists.mpr ⟨_, he⟩), (hsection _).mp (isOk_iff_exists.mpr ⟨_, hl⟩)⟩
    · intro h
      obtain ⟨_, hs⟩ := isOk_iff_exists.mp (hsources.mpr h.sources)
      obtain ⟨_, he⟩ := isOk_iff_exists.mp ((hsection _).mpr h.executor)
      obtain ⟨_, hl⟩ := isOk_iff_exists.mp ((hsection _).mpr h.logging)
      exact ⟨_, rfl, _, hs, _, he, _, hl, rfl⟩
  · obtain ⟨kind, hentries⟩ := SourceConfig.entries_of_unmapped hplace
    rw [hentries]
    refine iff_of_false nofun fun h => ?_
    cases hplace.symm.trans h.place

theorem describes_of_ofMapping (h : ofMapping m = .ok c) : Describes m c := by
  have hplace := ((isOk_ofMapping_iff m).mp (isOk_iff_exists.mpr ⟨c, h⟩)).place
  unfold ofMapping at h
  rw [SourceConfig.entries_of_mapped hplace] at h
  obtain ⟨_, ⟨⟩, h⟩ := bind_ok_iff.mp h
  obtain ⟨sources, hsources, h⟩ := bind_ok_iff.mp h
  obtain ⟨executor, hexecutor, h⟩ := bind_ok_iff.mp h
  obtain ⟨logging, hlogging, h⟩ := bind_ok_iff.mp h
  obtain ⟨-, rfl⟩ := Section.read_eq_ok_iff.mp hexecutor
  obtain ⟨-, rfl⟩ := Section.read_eq_ok_iff.mp hlogging
  cases h
  exact ⟨(mapM_ok_iff.mp hsources).imp fun e s hs => SourceConfig.isFrom_of_ofEntry hs,
    rfl, rfl, rfl, rfl, rfl⟩

/-! ### Refusals -/

theorem hasPart_key_of_mem {key : String} {e : Value × Value} (he : e ∈ entriesAt (m.field? key)) :
    (Value.map m).HasPart e.1 := by
  rcases hfield : m.field? key with _ | v
  · rw [hfield] at he
    cases he
  · have hv := Value.HasPart.whole.field hfield
    rw [hfield] at he
    cases v with
    | map entries => exact hv.key he
    | _ => cases he

theorem quotes_ofEntry {w : Value} {e : Value × Value} (he : w.HasPart e.1) :
    FailsWith (Fault.Quotes w) (SourceConfig.ofEntry e) := by
  unfold SourceConfig.ofEntry
  split
  · split
    · exact .ok _
    · exact .error (Fault.quotes_of_shown rfl he)
  · exact .error (Fault.quotes_of_shown rfl he)

theorem quotes_section (w : Value) (s : Section) (m : Mapping) :
    FailsWith (Fault.Quotes w) (s.read m) := by
  rcases hplace : isUnmapped (m.field? s.key) with _ | _
  · rw [Section.read_of_mapped hplace]
    rcases s.fill (entriesAt (m.field? s.key)) with why | values
    · exact .error (Fault.quotes_of_silent rfl)
    · exact .ok values
  · rw [Section.read_of_unmapped hplace]
    exact .error (Fault.quotes_of_silent rfl)

/-- A refusal quotes the name of a data source, if anything. -/
theorem quotes_ofValue (v : Value) : FailsWith (Fault.Quotes v) (ofValue v) := by
  unfold ofValue
  split
  · next m =>
    unfold ofMapping
    rcases hplace : isUnmapped (Mapping.field? m "datasources") with _ | _
    · rw [SourceConfig.entries_of_mapped hplace]
      refine FailsWith.bind (.ok _) fun entries hentries => ?_
      cases hentries
      refine FailsWith.bind (.mapM fun e he => quotes_ofEntry (hasPart_key_of_mem he)) fun _ _ => ?_
      refine (quotes_section _ _ _).bind fun _ _ => (quotes_section _ _ _).bind fun _ _ => .ok _
    · obtain ⟨kind, hentries⟩ := SourceConfig.entries_of_unmapped hplace
      rw [hentries]
      exact .error (Fault.quotes_of_silent rfl)
  · exact .error (Fault.quotes_of_silent rfl)

theorem isOk_ofValue_iff (v : Value) :
    (ofValue v).isOk = true ↔ ∃ m, v = .map m ∧ IsWellFormed m := by
  unfold ofValue
  split
  · next m =>
    rw [isOk_ofMapping_iff]
    exact ⟨fun h => ⟨m, rfl, h⟩, fun ⟨_, he, h⟩ => Value.map.inj he ▸ h⟩
  · next hmap => exact iff_of_false nofun fun ⟨m, hm, _⟩ => hmap m hm

/-- What stands where the data sources are has entries, if anything is there. -/
def HasSources (v : Value) : Prop :=
  ∀ m : Mapping, v = .map m → isUnmapped (m.field? "datasources") = false

theorem failsWith_ofValue (hv : HasSources v) : FailsWith Fault.IsConfigRefusal (ofValue v) := by
  refine (failsWith_ofValue_iff (fun why => ⟨why, rfl⟩) (fun m h => ?_) v).mpr hv
  obtain ⟨why, hwhy⟩ := h
  cases hwhy

/-- **Reading accepts what is well-formed and nothing else**, and what is read is what the document says.
Every other document is refused if its data sources have entries, and the refusal comes out unless it
quotes a name with an integer that is too long to be written. -/
theorem read_wellFormed (v : Value) :
    ((∃ c, read v = .ok c) ↔ ∃ m, v = .map m ∧ IsWellFormed m) ∧
    (∀ m c, v = .map m → read v = .ok c → Describes m c) ∧
    (HasSources v → (¬∃ m, v = .map m ∧ IsWellFormed m) → ∃ why, ofValue v = .error (.config why) ∧
      read v = .error (if why.shown?.any Value.hasLongNumeral then .unwritable Text.numeralLimit
        else .config why)) ∧
    (HasSources v → v.hasLongNumeral = false → FailsWith Fault.IsConfigRefusal (read v)) := by
  rw [← isOk_ofValue_iff]
  refine ⟨?_, ?_, fun hv hnot => ?_, fun hv hshort f hf => ?_⟩
  · rw [isOk_iff_exists]
    exact exists_congr fun c => mapError_eq_ok_iff
  · rintro m c rfl hread
    exact describes_of_ofMapping (mapError_eq_ok_iff.mp hread)
  · rcases hfault : ofValue v with f | c
    · obtain ⟨why, rfl⟩ := failsWith_ofValue hv f hfault
      refine ⟨why, rfl, ?_⟩
      rw [read, hfault]
      rfl
    · rw [hfault] at hnot
      exact absurd rfl hnot
  · rw [read, Fault.mapError_worded (quotes_ofValue v) hshort] at hf
    exact failsWith_ofValue hv f hf

/-- A configuration with a list for its data sources. -/
def listed : Value := .map [(.text "datasources", .list [.int 1])]

/-- The list is no map, but it is not refused: that it has no entries is a misuse. -/
theorem not_refused_listed : (¬∃ m, listed = .map m ∧ IsWellFormed m) ∧
    ¬FailsWith Fault.IsConfigRefusal (read listed) := by
  constructor
  · rintro ⟨m, ⟨⟩, h⟩
    cases h.place
  · intro h
    obtain ⟨why, hwhy⟩ := h (.misuse (.member "list" "items")) rfl
    cases hwhy

end Config

end BoundSql
