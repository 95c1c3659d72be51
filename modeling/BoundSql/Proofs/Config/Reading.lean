import BoundSql.Config
import BoundSql.Proofs.Outcome

/-! # Reading a configuration from a document

What is malformed in a configuration is refused. The exception is the place of the data sources: a
present value without entries (`isUnmapped`) is not refused there, and the operation on it is a misuse
(`failsWith_ofValue_iff`). -/

namespace BoundSql.Config

open Outcome

variable {p : Fault → Prop}

/-- Something is there, but it has no entries. -/
def isUnmapped : Option Value → Bool
  | none | some (.map _) => false
  | some v => v.truthy

section
variable (hrefusal : ∀ why, p (.config why)) (hmisuse : ∀ kind, ¬p (.misuse (.member kind "items")))
include hrefusal hmisuse

omit hrefusal in
theorem failsWith_entries_iff (o : Option Value) :
    FailsWith p (SourceConfig.entries o) ↔ isUnmapped o = false := by
  rcases o with _ | v
  · exact iff_of_true (.ok []) rfl
  unfold SourceConfig.entries
  dsimp only
  rcases htruthy : v.truthy with _ | _
  · refine iff_of_true (.ok []) ?_
    cases v <;> first | rfl | exact htruthy
  · cases v with
    | map m => exact iff_of_true (.ok m) rfl
    | _ => exact iff_of_false (fun h => hmisuse _ (h _ rfl)) (ne_of_eq_of_ne htruthy (by decide))

omit hmisuse in
theorem failsWith_ofEntry (e : Value × Value) : FailsWith p (SourceConfig.ofEntry e) := by
  unfold SourceConfig.ofEntry
  split
  · split
    · exact .ok _
    · exact .error (hrefusal _)
  · exact .error (hrefusal _)

omit hmisuse in
theorem failsWith_read (s : Section) (document : Mapping) : FailsWith p (s.read document) := by
  have hfill : ∀ m, FailsWith p ((s.fill m).mapError fun why => .config (.sectionField s.key why)) := by
    intro m
    rcases s.fill m with why | values
    · exact .error (hrefusal _)
    · exact .ok values
  unfold Section.read
  dsimp only
  split
  · exact hfill []
  · split
    · exact hfill []
    · split
      · exact hfill _
      · exact .error (hrefusal _)

/-- Whether reading gives one of some faults, if these include the refusals and not the misuse. -/
theorem failsWith_ofValue_iff (v : Value) : FailsWith p (ofValue v) ↔
    ∀ m : Mapping, v = .map m → isUnmapped (m.field? "datasources") = false := by
  unfold ofValue
  split
  · next m =>
    have hsections : ∀ sources, FailsWith p (do
        let executor ← Section.executor.read m
        let logging ← Section.logging.read m
        return ⟨sources, ExecutorConfig.ofFields executor, LoggingConfig.ofFields logging⟩ :
          Outcome Config) := fun sources =>
      (failsWith_read hrefusal _ m).bind fun _ _ =>
        (failsWith_read hrefusal _ m).bind fun _ _ => .ok _
    have hread : FailsWith p (ofMapping m) ↔
        FailsWith p (SourceConfig.entries (Mapping.field? m "datasources")) := by
      unfold ofMapping
      rw [FailsWith.bind_iff]
      exact and_iff_left fun entries _ =>
        (FailsWith.mapM fun e _ => failsWith_ofEntry hrefusal e).bind fun sources _ => hsections sources
    rw [hread, failsWith_entries_iff hmisuse]
    exact ⟨fun h m' hm => Value.map.inj hm ▸ h, fun h => h m rfl⟩
  · next hmap => exact iff_of_true (.error (hrefusal _)) fun m hm => absurd hm (hmap m)

end

end BoundSql.Config
