import CatalogEntities.Proofs.Entity.ClassBody
import CatalogEntities.Proofs.Graph.Declared
import CatalogEntities.Proofs.Naming.Spelling

/-!
Which members of an entity have names that a class body may bind: identifiers that are neither
keywords nor names of the declarative base. Keywords never occur. A column falls short if its own
name holds what identifiers refuse, or if the underscore behind a name in use completes a name of
the base; a relation, if a name that it is made from does.

Main result: `Entity.members_spelled`.
-/

namespace CatalogEntities

open Catalog Naming Number Text

/-! ### Names that relations ask for -/

/-- Whether the texts that a name of an end is made from make an identifier. Of a column only
letters and numerals that identifiers refuse are a matter, of a junction every character: nothing
cleans its name. -/
def RelationEnd.Spelled (table name : String) : RelationEnd → Prop
  | .forward r => NoStray r.referencedTable.toList ∧
      (name = forwardName r.referencedTable none ∨ NoStray (relationStem r.column).toList)
  | .inverse r => Spells r.referencingTable.toList ∧
      (name = inverseName r.referencingTable ∨ NoStray (relationStem r.column).toList)
  | .manyToMany r => Spells (r.other table).toList ∧
      (name = manyToManyName (r.other table) ∨ r.junction.toList.all continuesIdentifier)

/-- What holds of every name that an end asks for. -/
def RelationEnd.Asks (table name : String) (x : RelationEnd) : Prop :=
  name ∉ keywords ++ declarativeNames ∧ (isIdentifier name.toList ↔ x.Spelled table name)

/-- A name that is the first choice, or else the alternate, which adds further text. -/
theorem Naming.asked_of_forms {name first alternate : String} {plain further : Prop}
    (hforms : name = first ∨ name = alternate)
    (hfirst : first ∉ keywords ++ declarativeNames ∧ (isIdentifier first.toList ↔ plain))
    (halternate : alternate ∉ keywords ++ declarativeNames ∧
      (isIdentifier alternate.toList ↔ plain ∧ further)) :
    name ∉ keywords ++ declarativeNames ∧
    (isIdentifier name.toList ↔ plain ∧ (name = first ∨ further)) := by
  by_cases hplain : name = first
  · rw [hplain, and_iff_left (Or.inl rfl)]
    exact hfirst
  · rw [or_iff_right hplain, hforms.resolve_left hplain]
    exact halternate

theorem ForwardRelation.asks {r : ForwardRelation} {targets : List String}
    (hr : RelationGraph.NamedAfter targets r) {table name : String}
    (hname : name ∈ Plan.forwardCandidates r) :
    (RelationEnd.forward r).Asks table name := by
  have hforms : name = forwardName r.referencedTable none ∨
      name = forwardName r.referencedTable (some r.column) := by
    rw [Plan.forwardCandidates, List.mem_cons, Option.mem_toList] at hname
    by_cases htarget : r.referencedTable ∈ targets
    · obtain ⟨hfirst, hnone⟩ := hr.later htarget
      rw [hfirst, hnone] at hname
      exact Or.inr (hname.resolve_right (Option.not_mem_none _))
    · obtain ⟨hfirst, halternate⟩ := hr.first htarget
      rw [hfirst, halternate, Option.some_inj] at hname
      exact hname.imp_right Eq.symm
  have hempty : NoStray (relationStem "").toList := List.forall_mem_nil _
  refine asked_of_forms hforms ⟨forwardName_not_mem _ _, ?_⟩ ⟨forwardName_not_mem _ _, ?_⟩
  · rw [isIdentifier_forwardName_iff, Option.getD_none]
    exact and_iff_left hempty
  · rw [isIdentifier_forwardName_iff, Option.getD_some]

theorem InverseRelation.asks {r : InverseRelation} (hname : r.name = inverseName r.referencingTable)
    (halternate : r.alternate = inverseAlternate r.name r.column) {table name : String}
    (hmem : name ∈ Plan.inverseCandidates r) : (RelationEnd.inverse r).Asks table name := by
  have hforms : name = inverseName r.referencingTable ∨
      name = inverseAlternate (inverseName r.referencingTable) r.column := by
    rw [Plan.inverseCandidates, halternate, hname] at hmem
    simpa using hmem
  exact asked_of_forms hforms ⟨inverseName_not_mem _, isIdentifier_inverseName_iff _⟩
    ⟨inverseAlternate_not_mem _ _, isIdentifier_inverseAlternate_iff _ _⟩

theorem ManyToManyRelation.asks {r : ManyToManyRelation}
    (hleft : r.leftName = manyToManyName r.right)
    (hright : r.rightName = manyToManyName r.left) {table name : String}
    (hmem : name ∈ Plan.manyToManyCandidates table r) :
    (RelationEnd.manyToMany r).Asks table name := by
  have hname : r.nameFor table = manyToManyName (r.other table) := by
    unfold nameFor other
    split
    · exact hleft
    · exact hright
  have hforms : name = inverseName (r.other table) ∨
      name = inverseName (r.other table) ++ "_via_" ++ r.junction := by
    rw [Plan.manyToManyCandidates, alternateFor, hname, manyToManyName_eq] at hmem
    simpa using hmem
  have hne : (inverseName (r.other table)).toList ≠ [] := attributeName_ne_nil _
  have hvia : "_via_".toList.all continuesIdentifier := by decide
  refine asked_of_forms hforms ⟨inverseName_not_mem _, isIdentifier_inverseName_iff _⟩
    ⟨not_mem_of_via (by simp) (by simp), ?_⟩
  rw [String.toList_append, String.toList_append, List.append_assoc, isIdentifier_append hne,
    isIdentifier_inverseName_iff, List.all_append, Bool.and_eq_true, and_iff_right hvia]

namespace RelationGraph

theorem mem_forwardFor_named {tables : List Table} {table : String} {r : ForwardRelation}
    (hr : r ∈ (ofTables tables).forwardFor table) : ∃ targets, NamedAfter targets r := by
  change r ∈ ((forwardOf (sortTables tables)).get? table).getD [] at hr
  cases hget : (forwardOf (sortTables tables)).get? table with
  | none =>
    rw [hget] at hr
    exact absurd hr List.not_mem_nil
  | some relations =>
    rw [hget, Option.getD_some] at hr
    have hmem := (List.mem_filter.mp (Assoc.mem_of_get?_ofPairs hget)).1
    obtain ⟨t, -, hpair⟩ := List.mem_map.mp hmem
    obtain ⟨-, rfl⟩ := Prod.mk.inj hpair
    obtain ⟨before, after, hsplit⟩ := List.append_of_mem hr
    exact ⟨_, forwardFrom_named hsplit⟩

theorem mem_manyToMany_named {tables : List Table} {r : ManyToManyRelation}
    (hr : r ∈ (ofTables tables).manyToMany) :
    r.leftName = manyToManyName r.right ∧ r.rightName = manyToManyName r.left := by
  have hfound :=
    (mem_distinctPairs ((manyToMany_perm tables).mem_iff.mp hr)).resolve_left List.not_mem_nil
  obtain ⟨name, -, hthrough⟩ := List.mem_filterMap.mp hfound
  obtain ⟨t, -, ht⟩ := Option.bind_eq_some_iff.mp hthrough
  exact throughJunction?_names ht

/-- Every name that an end asks for, whatever the names of tables and columns are. -/
theorem candidates_asked {tables : List Table} {table : String} {x : RelationEnd}
    (hx : x ∈ (ofTables tables).endsOf table) {name : String} (hname : name ∈ x.candidates table) :
    x.Asks table name := by
  simp only [endsOf, List.mem_append, List.mem_map] at hx
  rcases hx with (⟨r, hr, rfl⟩ | ⟨r, hr, rfl⟩) | ⟨r, hr, rfl⟩
  · obtain ⟨targets, hnamed⟩ := mem_forwardFor_named hr
    exact ForwardRelation.asks hnamed hname
  · rw [inverseFor_eq_inverseTo] at hr
    obtain ⟨source, relations, f, -, -, hmade⟩ := mem_inverseTo.mp hr
    exact InverseRelation.asks (by simp only [hmade]) (by simp only [hmade, mirror]) hname
  · obtain ⟨hleft, hright⟩ := mem_manyToMany_named (mem_manyToManyFor.mp hr).1
    exact ManyToManyRelation.asks hleft hright hname

end RelationGraph

namespace Plan

/-- A name that was given is one that was asked for. -/
theorem claimAll_given {α : Type} (label : α → String) (candidates : α → List String)
    {used : MemberNames} {relations : List α} {r : α} {c : NameClaim}
    (hmem : (r, c) ∈ (claimAll label candidates used relations).1)
    {name : String} (hname : c.name = some name) : name ∈ candidates r := by
  induction relations generalizing used with
  | nil => exact absurd hmem List.not_mem_nil
  | cons first rest ih =>
    rcases List.mem_cons.mp hmem with heq | hmem
    · obtain ⟨rfl, rfl⟩ := Prod.mk.inj heq
      have hfound : ((candidates r).filter (!·.isEmpty)).find?
          (fun c => !c.isEmpty && !used.has c) = some name := by
        dsimp only [MemberNames.claim] at hname
        split at hname
        · rename_i given hfind
          rw [hfind, ← hname]
        · contradiction
      exact (List.mem_filter.mp (List.mem_of_find?_eq_some hfound)).1
    · exact ih hmem

variable {classes : List String} {graph : RelationGraph} {t : Table}
    {types : List (Column × ColumnType)}

theorem claimed_given {x : RelationEnd} {c : NameClaim}
    (hmem : (x, c) ∈ claimed classes graph t types) {name : String} (hname : c.name = some name) :
    x ∈ graph.endsOf t.name ∧ name ∈ x.candidates t.name := by
  have hend : x ∈ graph.endsOf t.name := by
    rw [← claimed_ends classes graph t types]
    exact List.mem_map_of_mem (f := Prod.fst) hmem
  refine ⟨hend, ?_⟩
  simp only [claimed, List.mem_append, List.mem_map] at hmem
  rcases hmem with (⟨⟨r, d⟩, hr, heq⟩ | ⟨⟨r, d⟩, hr, heq⟩) | ⟨⟨r, d⟩, hr, heq⟩ <;>
    obtain ⟨rfl, rfl⟩ := Prod.mk.inj heq
  · exact claimAll_given forwardLabel forwardCandidates hr hname
  · exact claimAll_given inverseLabel inverseCandidates hr hname
  · exact claimAll_given manyToManyLabel (manyToManyCandidates t.name) hr hname

/-! ### Attributes -/

/-- An attribute is the cleaned name, or that with an underscore, or that with a number behind. -/
theorem attributeFor_forms (used : MemberNames) (column : String) :
    attributeFor used column = attributeName column ∨
      attributeFor used column = attributeName column ++ "_" ∨
      ∃ k, attributeFor used column = attributeName column ++ "_" ++ natText k := by
  simp only [attributeFor]
  by_cases hown : used.has (attributeName column)
  · rw [if_pos hown]
    right
    split
    · exact Or.inr ⟨_, rfl⟩
    · exact Or.inl rfl
  · rw [if_neg hown, if_neg hown]
    exact Or.inl rfl

theorem attributeFor_wordChars (used : MemberNames) (column : String) :
    ∀ c ∈ (attributeFor used column).toList, isWordChar c := by
  intro c hc
  have hname := attributeName_wordChars column
  have hmark (hc : c ∈ "_".toList) : isWordChar c := by
    obtain rfl := List.mem_singleton.mp hc
    rfl
  rcases attributeFor_forms used column with hform | hform | ⟨k, hform⟩ <;> rw [hform] at hc
  · exact hname c hc
  · rw [String.toList_append, List.mem_append] at hc
    exact hc.elim (hname c) hmark
  · rw [String.toList_append, String.toList_append, List.mem_append, List.mem_append] at hc
    rcases hc with (hc | hc) | hc
    · exact hname c hc
    · exact hmark hc
    · have hdigit := isAsciiDigit_of_mem_natText hc
      simp [isWordChar, isLetterOrNumeral, isNumeral, isAscii_of_isAsciiDigit hdigit, hdigit]

theorem attributeFor_spelled (used : MemberNames) (column : String) :
    attributeFor used column ∉ keywords ∧
      (isIdentifier (attributeFor used column).toList ↔ Spells column.toList) ∧
      (attributeFor used column ∈ declarativeNames →
        attributeFor used column = attributeName column ++ "_") := by
  have hmember := attributeName_not_mem column
  rw [List.mem_append, not_or] at hmember
  rcases attributeFor_forms used column with hform | hform | ⟨k, hform⟩ <;> rw [hform]
  · exact ⟨hmember.1, isIdentifier_attributeName_iff column, fun hmem => absurd hmem hmember.2⟩
  · refine ⟨not_mem_keywords_of_underscore (by simp), ?_, fun _ => rfl⟩
    rw [String.toList_append]
    exact isIdentifier_marked_iff column (List.forall_mem_nil _)
  · have hdigits := fun c => isAsciiDigit_of_mem_natText (n := k) (c := c)
    obtain ⟨c, rest, hk⟩ := List.exists_cons_of_ne_nil (natText_ne_nil k)
    have hc : c ∈ (natText k).toList := hk ▸ List.mem_cons_self
    have hfree : attributeName column ++ "_" ++ natText k ∉ keywords ++ declarativeNames :=
      not_mem_of_digit (c := c) (by simp [hc]) (hdigits c hc)
    rw [List.mem_append, not_or] at hfree
    refine ⟨hfree.1, ?_, fun hmem => absurd hmem hfree.2⟩
    rw [String.toList_append, String.toList_append, List.append_assoc]
    exact isIdentifier_marked_iff column hdigits

theorem mem_attributesFrom_made {used : MemberNames} {columns : List Column} {column attr : String}
    (h : (column, attr) ∈ (attributesFrom used columns).1) :
    ∃ used', attr = attributeFor used' column := by
  induction columns generalizing used with
  | nil => exact absurd h List.not_mem_nil
  | cons c rest ih =>
    rcases List.mem_cons.mp h with heq | hrest
    · obtain ⟨rfl, rfl⟩ := Prod.mk.inj heq
      exact ⟨used, rfl⟩
    · exact ih hrest

end Plan

/-! ### Members -/

namespace Entity

namespace PlannedAs

variable {tables : List Table} {graph : RelationGraph} {plans : Plans} {t u : Table}
  {types planned : List (Column × ColumnType)} {e : Entity}
  (h : PlannedAs tables graph plans t u types planned e)
include h

theorem attribute_made {c : EntityColumn} (hc : c ∈ e.columns) :
    ∃ used, c.attr = Plan.attributeFor used c.column.name := by
  obtain ⟨-, -, -, hcolumns, -⟩ := ofPlan_fields h.entity_ok
  exact Plan.mem_attributesFrom_made (Assoc.mem_of_get?_ofPairs ((columnsOf_ok hcolumns).2 c hc))

/-- A relation has one of the names that an end of the table asks for. -/
theorem relation_asked {r : EntityRelation} (hr : r ∈ e.relations) :
    ∃ x ∈ graph.endsOf e.table.name, r.name ∈ x.candidates e.table.name := by
  obtain ⟨htable, -, -, -, -, hrelations, -⟩ := ofPlan_fields h.entity_ok
  rw [hrelations] at hr
  obtain ⟨x, -, hx⟩ := List.mem_filterMap.mp hr
  obtain ⟨name, hname, rfl⟩ := Option.map_eq_some_iff.mp hx
  obtain ⟨y, c, hmem, -, hc⟩ := Plan.mem_claimed_of_nameOf? hname
  have hgiven := Plan.claimed_given hmem hc
  rw [h.name_eq] at hgiven
  rw [htable, shown_name]
  exact ⟨y, hgiven⟩

end PlannedAs

/-- No member of an entity is named by a keyword. An attribute is an identifier exactly if the name
of its column makes one, and it is no name of the declarative base unless it got its underscore
because the name without it was in use. The name of a relation is no name of the base, and it is an
identifier exactly if the texts that it is made from make one. -/
theorem members_spelled {tables : List Table} {entities : List Entity}
    (hb : ofTables tables (RelationGraph.ofTables tables) = .ok entities) {e : Entity}
    (he : e ∈ entities) :
    (∀ n ∈ e.memberNames, n ∉ keywords) ∧
    (∀ c ∈ e.columns, (isIdentifier c.attr.toList ↔ Spells c.column.name.toList) ∧
      (c.attr ∈ declarativeNames → c.attr = attributeName c.column.name ++ "_")) ∧
    ∀ r ∈ e.relations, r.name ∉ declarativeNames ∧
      ∃ x ∈ (RelationGraph.ofTables tables).endsOf e.table.name,
      r.name ∈ x.candidates e.table.name ∧
        (isIdentifier r.name.toList ↔ x.Spelled e.table.name r.name) := by
  obtain ⟨plans, hall⟩ := ofTables_planned hb
  obtain ⟨t, -, u, types, planned, h⟩ := Outcome.mem_right hall he
  have hcolumns : ∀ c ∈ e.columns, c.attr ∉ keywords ∧
      (isIdentifier c.attr.toList ↔ Spells c.column.name.toList) ∧
      (c.attr ∈ declarativeNames → c.attr = attributeName c.column.name ++ "_") := by
    intro c hc
    obtain ⟨used, hattr⟩ := h.attribute_made hc
    rw [hattr]
    exact Plan.attributeFor_spelled used c.column.name
  have hrelations : ∀ r ∈ e.relations, r.name ∉ keywords ++ declarativeNames ∧
      ∃ x ∈ (RelationGraph.ofTables tables).endsOf e.table.name,
      r.name ∈ x.candidates e.table.name ∧
        (isIdentifier r.name.toList ↔ x.Spelled e.table.name r.name) := by
    intro r hr
    obtain ⟨x, hx, hname⟩ := h.relation_asked hr
    obtain ⟨hfree, hspelled⟩ := RelationGraph.candidates_asked hx hname
    exact ⟨hfree, x, hx, hname, hspelled⟩
  refine ⟨?_, fun c hc => (hcolumns c hc).2, fun r hr => ?_⟩
  · intro n hn
    rcases List.mem_append.mp hn with hn | hn
    · obtain ⟨c, hc, rfl⟩ := List.mem_map.mp hn
      exact (hcolumns c hc).1
    · obtain ⟨r, hr, rfl⟩ := List.mem_map.mp hn
      exact fun hmem => (hrelations r hr).1 (List.mem_append_left _ hmem)
  · obtain ⟨hfree, hspelled⟩ := hrelations r hr
    exact ⟨fun hmem => hfree (List.mem_append_right _ hmem), hspelled⟩

/-- Columns that are cleaned into no identifier, and into a name of the declarative base. -/
def raisedArea : List Table :=
  let column (name : String) : Column := ⟨name, "int", true, none, false, false, none, ""⟩
  [⟨"plot", [column "m²", column "__tablename_", column "__tablename-"],
    [⟨"plot", "m²", "plot", "m²", none⟩]⟩]

theorem raisedArea_members : (ofTables raisedArea (RelationGraph.ofTables raisedArea)).toOption.map
    (·.map memberNames) = some [["m²", "__tablename_", "__tablename__", "fk_plot", "plots"]] ∧
    ¬ isIdentifier "m²".toList := by decide +kernel

theorem raisedArea_spelled :
    ∃ entities, ofTables raisedArea (RelationGraph.ofTables raisedArea) = .ok entities ∧
    entities.map memberNames = [["m²", "__tablename_", "__tablename__", "fk_plot", "plots"]] ∧
    ∀ e ∈ entities,
      (∀ n ∈ e.memberNames, n ∉ keywords) ∧
      (∀ c ∈ e.columns, (isIdentifier c.attr.toList ↔ Spells c.column.name.toList) ∧
        (c.attr ∈ declarativeNames → c.attr = attributeName c.column.name ++ "_")) ∧
      ∀ r ∈ e.relations, r.name ∉ declarativeNames ∧
        ∃ x ∈ (RelationGraph.ofTables raisedArea).endsOf e.table.name,
        r.name ∈ x.candidates e.table.name ∧
          (isIdentifier r.name.toList ↔ x.Spelled e.table.name r.name) := by
  obtain ⟨entities, hb, hmap⟩ := Option.map_eq_some_iff.mp raisedArea_members.1
  rw [Outcome.toOption_eq_some_iff] at hb
  exact ⟨entities, hb, hmap, fun e he => members_spelled hb he⟩

/-- Two members of one class that it may not bind: the first is no identifier, the second is the
attribute that tells the declarative base the name of the table. -/
theorem raisedArea_unbindable : DistinctNames raisedArea ∧ DistinctColumns raisedArea ∧
    ∃ entities, ofTables raisedArea (RelationGraph.ofTables raisedArea) = .ok entities ∧
      ∃ e ∈ entities, (∃ n ∈ e.memberNames, ¬ isIdentifier n.toList) ∧
        ∃ n ∈ e.memberNames, n ∈ declarativeNames := by
  obtain ⟨entities, hb, hmap⟩ := Option.map_eq_some_iff.mp raisedArea_members.1
  obtain ⟨e, rfl, he⟩ := List.map_eq_singleton_iff.mp hmap
  refine ⟨by decide, by decide, [e], Outcome.toOption_eq_some_iff.mp hb, e, List.mem_cons_self, ?_⟩
  rw [he]
  exact ⟨⟨"m²", by decide, raisedArea_members.2⟩, ⟨"__tablename__", by decide, by decide⟩⟩

end Entity

end CatalogEntities
