import CatalogEntities.Generation.Run
import CatalogEntities.Proofs.Catalog.Reading
import CatalogEntities.Proofs.Generation.Writing

/-!
A run has two phases. Nothing is written before the whole catalog is read and all modules are
rendered; then they are written in order.
-/

namespace CatalogEntities.Generation

open Catalog Files

/-- What a run is going to write: the modules of all tables that the catalog gives. -/
def planned (source : Source) (request : Request) (p : FilePath) :
    Except Failure (List GeneratedModule) := do
  let records ← (source.read request.included request.excluded).outcome
  let tables ← tablesOf records
  (render tables p request.style).outcome

/-- Nothing is written before everything is rendered. -/
theorem emit_writes {t : Tree} {p : FilePath} (h : Usable t p) (style : Style)
    (records : List TableRecord) :
    match tablesOf records >>= fun tables => (render tables p style).outcome with
    | .error failure =>
      (emit t p style records).1 = t ∧ (emit t p style records).2.2 = .error failure
    | .ok modules =>
      WritesPrefix t (emit t p style records).1 modules (emit t p style records).2.2 modules := by
  unfold emit
  cases htables : tablesOf records with
  | error failure => exact ⟨rfl, rfl⟩
  | ok tables =>
    simp only [bind, Except.bind]
    cases hrender : (render tables p style).outcome with
    | error failure => exact ⟨rfl, rfl⟩
    | ok modules =>
      have hwriting := (writeAll_writes h (render_path hrender)).map fun _ => modules
      cases houtcome : (writeAll t modules).outcome <;>
        simpa only [houtcome, Except.map] using hwriting

/-- What a run leaves behind. If the check of the directory fails, the catalog is not asked. If an
answer of the catalog or the rendering fails, the tree stays as the check left it. Otherwise modules
are written in order: all of them, which are the result then, or those before the first that cannot
be opened, which the failure names. -/
theorem run_writes_in_order (source : Source) (request : Request) (t : Tree) :
    let prepared := prepareDirectory t request.directory
    let result := run source request t
    match prepared.outcome with
    | .error failure =>
      result.tree = prepared.tree ∧ result.asked = [] ∧ result.outcome = .error failure
    | .ok p =>
      (∀ q ∈ result.asked, ∀ failure, source.failure? q = some failure →
        result.tree = prepared.tree ∧ result.outcome = .error failure) ∧
      match planned source request p with
      | .error failure => result.tree = prepared.tree ∧ result.outcome = .error failure
      | .ok modules => WritesPrefix prepared.tree result.tree modules result.outcome modules := by
  intro prepared result
  cases hprepared : prepared.outcome with
  | error failure => simp only [result, run, prepared, hprepared, and_self]
  | ok p =>
    have hasked : result.asked = (source.read request.included request.excluded).asked := by
      simp only [result, run, prepared, hprepared]
      split <;> rfl
    have hfailed (failure : Failure)
        (h : (source.read request.included request.excluded).outcome = .error failure) :
        result.tree = prepared.tree ∧ result.outcome = .error failure := by
      simp only [result, run, prepared, hprepared, h, and_self]
    refine ⟨fun q hq failure hfailure => hfailed failure ?_, ?_⟩
    · exact (source.read_error_iff _ _ failure).mpr ⟨q, hasked ▸ hq, hfailure⟩
    · rw [planned]
      cases hreading : (source.read request.included request.excluded).outcome with
      | error failure => exact hfailed failure hreading
      | ok records =>
        have hemit := emit_writes (prepareDirectory_usable hprepared) request.style records
        simp only [result, run, prepared, hprepared, hreading]
        exact hemit

end CatalogEntities.Generation
