import CatalogEntities.Generation.Rendering
import CatalogEntities.Proofs.Entity.Build

/-!
The collision warnings of a run. Inference, types and missing keys never give one; planning gives
one for each claim that was refused, in the order of the tables and of their claims.
-/

namespace CatalogEntities

open Catalog Naming

/-- The warnings about names in use, among everything a run has to say. -/
def Notice.collisions (notices : List Notice) : List SchemaWarning :=
  (warnings notices).filter (·.code == WarningCode.nameCollision.text)

namespace Notice

@[simp] theorem collisions_append (a b : List Notice) :
    collisions (a ++ b) = collisions a ++ collisions b := by
  simp only [collisions, warnings, List.filterMap_append, List.filter_append]

theorem collisions_eq_nil {notices : List Notice}
    (h : ∀ w, Notice.warning w ∈ notices → w.code ≠ WarningCode.nameCollision.text) :
    collisions notices = [] := by
  simp only [collisions, List.filter_eq_nil_iff, warnings, List.mem_filterMap]
  rintro w ⟨notice, hmem, hw⟩
  cases notice with
  | detail message => simp [warning?] at hw
  | warning w' =>
    obtain rfl := Option.some.inj hw
    simpa using h w' hmem

end Notice

theorem RelationGraph.collisions_notices (tables : List Table) :
    Notice.collisions (notices tables) = [] := by
  refine Notice.collisions_eq_nil fun w hw => ?_
  simp only [notices, warnings, List.mem_append, List.mem_map, List.mem_singleton] at hw
  rcases hw with (⟨w', hw', he⟩ | ⟨d, -, he⟩) | he
  · obtain rfl := Notice.warning.inj he
    obtain ⟨t, -, hkey⟩ := List.mem_flatMap.mp hw'
    obtain ⟨key, -, rfl⟩ := List.mem_map.mp hkey
    simp only [SchemaWarning.of]
    decide
  · cases he
  · cases he

namespace Plan

/-- The warning about a relation that found all its names in use. -/
def refusal (table label : String) (candidates : List String) : SchemaWarning :=
  let wanted := ", ".intercalate candidates
  .of table s!"Skipped {label}: name already used ({wanted})" .nameCollision

/-- A claim gives a collision warning exactly if it was refused. -/
theorem collisions_claimNotice? (table : String) (c : NameClaim) :
    Notice.collisions (claimNotice? table c).toList =
      if c.name.isNone then [refusal table c.label c.candidates] else [] := by
  cases hname : c.name with
  | none =>
    simp only [claimNotice?, hname, Option.toList_some, Option.isNone_none, ↓reduceIte]
    rfl
  | some name =>
    refine Notice.collisions_eq_nil fun w hw => ?_
    simp only [claimNotice?, hname] at hw
    split at hw <;> simp at hw

theorem collisions_notices (p : Plan) : Notice.collisions p.notices =
    (p.claims.filter (·.name.isNone)).map fun c => refusal p.table c.label c.candidates := by
  unfold notices
  induction p.claims with
  | nil => rfl
  | cons c rest ih =>
    have hhead := collisions_claimNotice? p.table c
    have hsplit : (c :: rest).filterMap (claimNotice? p.table) =
        (claimNotice? p.table c).toList ++ rest.filterMap (claimNotice? p.table) := by
      rw [List.filterMap_cons]
      cases claimNotice? p.table c <;> rfl
    rw [hsplit, Notice.collisions_append, hhead, ih, List.filter_cons]
    cases c.name <;> simp

/-- Nothing is said about types that is not a detail. -/
theorem collisions_typeNotices (seen : List String) (columns : List Column) :
    Notice.collisions (typeNotices seen columns).1 = [] := by
  refine Notice.collisions_eq_nil fun w hw => ?_
  induction columns generalizing seen with
  | nil => simp [typeNotices] at hw
  | cons c rest ih =>
    simp only [typeNotices] at hw
    split at hw
    · simp at hw
    · split at hw
      · exact ih _ hw
      · rcases List.mem_append.mp hw with hw | hw
        · obtain ⟨message, -, he⟩ := List.mem_map.mp hw
          cases he
        · exact ih _ hw

theorem collisions_planningNotices {classes : List String} {graph : RelationGraph}
    {ordered : List Table} {plans : List Plan}
    (h : List.Forall₂ (fun t plan => ofTable classes graph t = .ok plan) ordered plans)
    (seen : List String) : Notice.collisions (planningNotices classes graph seen ordered) =
      plans.flatMap fun plan => Notice.collisions plan.notices := by
  induction h generalizing seen with
  | nil => rfl
  | cons hplan _ ih =>
    simp only [planningNotices, hplan, Notice.collisions_append, collisions_typeNotices,
      List.nil_append, ih, List.flatMap_cons]

end Plan

namespace Entity

theorem collisions_tableNotices (t : Table) (columns : List Column) :
    Notice.collisions (tableNotices t columns) = [] := by
  refine Notice.collisions_eq_nil fun w hw => ?_
  rcases List.mem_append.mp hw with hw | hw
  · split at hw
    · simp at hw
    · obtain rfl := Notice.warning.inj (List.mem_singleton.mp hw)
      simp only [SchemaWarning.of]
      decide
  · obtain ⟨c, -, hc⟩ := List.mem_filterMap.mp hw
    split at hc
    · split at hc
      · obtain rfl := Notice.warning.inj (Option.some.inj hc)
        simp only [SchemaWarning.of]
        decide
      · cases hc
    · cases hc

theorem collisions_buildingNotices (plans : Plans) (ordered : List Table) :
    Notice.collisions (buildingNotices plans ordered) = [] := by
  induction ordered with
  | nil => rfl
  | cons t rest ih =>
    simp only [buildingNotices]
    split
    · rw [Notice.collisions_append, collisions_tableNotices, ih, List.append_nil]
    · exact collisions_tableNotices _ _

/-- The collision warnings of a run that builds its entities. -/
theorem collisions_run {tables : List Table} {plans : List Plan}
    (hplans : Plan.ofTables (RelationGraph.ofTables tables) (sortTables tables) = .ok plans) :
    Notice.collisions (Generation.notices tables) =
      plans.flatMap fun plan => Notice.collisions plan.notices := by
  have hall := Outcome.mapM_ok_iff.mp hplans
  simp only [Generation.notices, Notice.collisions_append, RelationGraph.collisions_notices,
    Entity.notices, hplans, collisions_buildingNotices, List.nil_append, List.append_nil]
  exact Plan.collisions_planningNotices hall []

end Entity

end CatalogEntities
