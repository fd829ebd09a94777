import CatalogEntities.Entity.Plan
import CatalogEntities.Proofs.Graph.Names
import CatalogEntities.Proofs.Naming.Granted

/-!
The plan of one entity. Its relations are seen as ends, in the order in which they ask for a name,
and their names are granted against what columns and enumerations took before.
-/

namespace CatalogEntities

open Catalog Naming

/-- A relation of the graph as one of its tables sees it. -/
inductive RelationEnd
  | forward (r : ForwardRelation)
  | inverse (r : InverseRelation)
  | manyToMany (r : ManyToManyRelation)
  deriving DecidableEq

namespace RelationEnd

def kind : RelationEnd → RelationKind
  | .forward _ => .forward
  | .inverse _ => .inverse
  | .manyToMany _ => .manyToMany

/-- The table at the other end, seen from `table`. -/
def target (table : String) : RelationEnd → String
  | .forward r => r.referencedTable
  | .inverse r => r.referencingTable
  | .manyToMany r => r.other table

def candidates (table : String) : RelationEnd → List String
  | .forward r => Plan.forwardCandidates r
  | .inverse r => Plan.inverseCandidates r
  | .manyToMany r => Plan.manyToManyCandidates table r

def label : RelationEnd → String
  | .forward r => Plan.forwardLabel r
  | .inverse r => Plan.inverseLabel r
  | .manyToMany r => Plan.manyToManyLabel r

/-- Ends whose names are kept under one key: forward ones on one column, inverse ones from one
table, many-to-many ones of one pair. -/
def SameKey : RelationEnd → RelationEnd → Prop
  | .forward a, .forward b => a.column = b.column
  | .inverse a, .inverse b => a.referencingTable = b.referencingTable
  | .manyToMany a, .manyToMany b => a.pair = b.pair
  | _, _ => False

theorem SameKey.symm {x y : RelationEnd} (h : SameKey x y) : SameKey y x := by
  cases x <;> cases y <;> simp_all [SameKey]

theorem SameKey.trans {x y z : RelationEnd} (h : SameKey x y) (h' : SameKey y z) : SameKey x z := by
  cases x <;> cases y <;> cases z <;> simp_all [SameKey]

end RelationEnd

/-- The ends of a table: forward, inverse and many-to-many ones, in the order of the graph. -/
def RelationGraph.endsOf (g : RelationGraph) (table : String) : List RelationEnd :=
  (g.forwardFor table).map RelationEnd.forward ++ (g.inverseFor table).map RelationEnd.inverse ++
    (g.manyToManyFor table).map RelationEnd.manyToMany

namespace Plan

/-- The name that an end was given. -/
def nameOf? (p : Plan) : RelationEnd → Option String
  | .forward r => (p.forward.get? r.column).join
  | .inverse r => (p.inverse.get? r.referencingTable).join
  | .manyToMany r => (p.manyToMany.get? r.pair).join

theorem nameOf?_congr (p : Plan) {x y : RelationEnd} (h : x.SameKey y) :
    p.nameOf? x = p.nameOf? y := by
  cases x <;> cases y <;> simp_all [RelationEnd.SameKey, nameOf?]

section

variable {α : Type} (label : α → String) (candidates : α → List String)

theorem claimAll_relations (used : MemberNames) (relations : List α) :
    (claimAll label candidates used relations).1.map (·.1) = relations := by
  induction relations generalizing used with
  | nil => rfl
  | cons r rest ih => simp only [claimAll, List.map_cons, ih]

/-- What is kept of a request beside the answer. -/
theorem claimAll_requests (used : MemberNames) (relations : List α) :
    (claimAll label candidates used relations).1.map (fun (_, c) => (c.label, c.candidates)) =
      relations.map fun r => (label r, (candidates r).filter (!·.isEmpty)) := by
  induction relations generalizing used with
  | nil => rfl
  | cons r rest ih => simp only [claimAll, List.map_cons, ih]

theorem mem_claimAll {used : MemberNames} {relations : List α} {name : String} :
    name ∈ (claimAll label candidates used relations).2.names ↔
      name ∈ ((claimAll label candidates used relations).1.map (·.2.name)).reduceOption ++
        used.names := by
  induction relations generalizing used with
  | nil => rfl
  | cons r rest ih =>
    simp only [claimAll, List.map_cons]
    rw [ih, List.mem_append, MemberNames.mem_claim]
    cases (used.claim ((candidates r).filter (!·.isEmpty))).1 with
    | none => simp [List.reduceOption_cons_of_none]
    | some given =>
      simp only [List.reduceOption_cons_of_some, List.mem_append, List.mem_cons, Option.toList_some,
        List.not_mem_nil, or_false]
      tauto

theorem claimAll_granted (used : MemberNames) (relations : List α) :
    Granted used.names ((claimAll label candidates used relations).1.map (·.2.candidates))
      ((claimAll label candidates used relations).1.map (·.2.name)) := by
  induction relations generalizing used with
  | nil => exact .nil
  | cons r rest ih =>
    refine .cons (used.claim_firstFree ?_) ((ih _).congr fun c => MemberNames.mem_claim)
    intro c hc
    simpa using (List.mem_filter.mp hc).2

end

theorem mem_attributesFrom (used : MemberNames) (columns : List Column) {name : String} :
    name ∈ (attributesFrom used columns).2.names ↔
      name ∈ (attributesFrom used columns).1.map (·.2) ∨ name ∈ used.names := by
  induction columns generalizing used with
  | nil => simp [attributesFrom]
  | cons c rest ih =>
    simp only [attributesFrom, List.map_cons, List.mem_cons]
    rw [ih, MemberNames.mem_insert]
    tauto

theorem attributesFrom_columns (used : MemberNames) (columns : List Column) :
    (attributesFrom used columns).1.map (·.1) = columns.map (·.name) := by
  induction columns generalizing used with
  | nil => rfl
  | cons c rest ih => simp only [attributesFrom, List.map_cons, ih]

section

variable (classes : List String) (graph : RelationGraph) (t : Table)
  (types : List (Column × ColumnType))

/-- The names in use before any column asks for one. -/
def usedByEnumerations : MemberNames :=
  (Assoc.ofPairs
    (enumerationsFrom (Naming.className t.name) (moduleNames ++ classes) types)).values.foldl
    (fun used e => used.insert e.name) (MemberNames.ofList moduleNames)

/-- Every column, in order, with its attribute. -/
def attributePairs : List (String × String) :=
  (attributesFrom (usedByEnumerations classes t types) t.columns).1

/-- The names in use before any relation asks for one. -/
def usedByMembers : MemberNames :=
  (attributesFrom (usedByEnumerations classes t types) t.columns).2

def forwardClaims : List (ForwardRelation × NameClaim) × MemberNames :=
  claimAll forwardLabel forwardCandidates (usedByMembers classes t types) (graph.forwardFor t.name)

def inverseClaims : List (InverseRelation × NameClaim) × MemberNames :=
  claimAll inverseLabel inverseCandidates (forwardClaims classes graph t types).2
    (graph.inverseFor t.name)

def manyToManyClaims : List (ManyToManyRelation × NameClaim) × MemberNames :=
  claimAll manyToManyLabel (manyToManyCandidates t.name) (inverseClaims classes graph t types).2
    (graph.manyToManyFor t.name)

theorem ofTypes_table : (ofTypes classes graph t types).table = t.name := by
  simp only [ofTypes]

theorem ofTypes_className :
    (ofTypes classes graph t types).className = Naming.className t.name := by
  simp only [ofTypes]

theorem ofTypes_moduleName :
    (ofTypes classes graph t types).moduleName = Naming.moduleName t.name := by
  simp only [ofTypes]

theorem ofTypes_attributes :
    (ofTypes classes graph t types).attributes = .ofPairs (attributePairs classes t types) := rfl

theorem ofTypes_enumerations : (ofTypes classes graph t types).enumerations =
    .ofPairs (enumerationsFrom (Naming.className t.name) (moduleNames ++ classes) types) := rfl

theorem ofTypes_forward : (ofTypes classes graph t types).forward =
    .ofPairs ((forwardClaims classes graph t types).1.map fun (r, c) => (r.column, c.name)) := rfl

theorem ofTypes_inverse : (ofTypes classes graph t types).inverse =
    .ofPairs
      ((inverseClaims classes graph t types).1.map fun (r, c) => (r.referencingTable, c.name)) :=
  rfl

theorem ofTypes_manyToMany : (ofTypes classes graph t types).manyToMany =
    .ofPairs ((manyToManyClaims classes graph t types).1.map fun (r, c) => (r.pair, c.name)) := rfl

/-- Names of the module, of enumerations and of attributes are in use before any relation's. -/
theorem mem_usedByMembers {name : String} : name ∈ (usedByMembers classes t types).names ↔
    name ∈ moduleNames ++ (ofTypes classes graph t types).enumerations.values.map (·.name) ++
      (attributePairs classes t types).map (·.2) := by
  rw [usedByMembers, mem_attributesFrom, usedByEnumerations, MemberNames.mem_foldl_insert,
    MemberNames.mem_ofList, ofTypes_enumerations]
  simp only [attributePairs, usedByEnumerations, List.mem_append]
  tauto

/-- Every end of the table with its claim. -/
def claimed : List (RelationEnd × NameClaim) :=
  (forwardClaims classes graph t types).1.map (fun (r, c) => (RelationEnd.forward r, c)) ++
    (inverseClaims classes graph t types).1.map (fun (r, c) => (RelationEnd.inverse r, c)) ++
    (manyToManyClaims classes graph t types).1.map (fun (r, c) => (RelationEnd.manyToMany r, c))

theorem claimed_ends : (claimed classes graph t types).map (·.1) = graph.endsOf t.name := by
  have hf := claimAll_relations forwardLabel forwardCandidates (usedByMembers classes t types)
    (graph.forwardFor t.name)
  have hi :=
    claimAll_relations inverseLabel inverseCandidates (forwardClaims classes graph t types).2
    (graph.inverseFor t.name)
  have hm := claimAll_relations manyToManyLabel (manyToManyCandidates t.name)
    (inverseClaims classes graph t types).2 (graph.manyToManyFor t.name)
  conv_rhs => rw [RelationGraph.endsOf, ← hf, ← hi, ← hm]
  simp only [claimed, forwardClaims, inverseClaims, manyToManyClaims, List.map_append, List.map_map,
    Function.comp_def]

theorem claimed_claims :
    (claimed classes graph t types).map (·.2) = (ofTypes classes graph t types).claims := by
  simp only [claimed, List.map_append, List.map_map, Function.comp_def]
  rfl

theorem claims_requests :
    (ofTypes classes graph t types).claims.map (fun c => (c.label, c.candidates)) =
      (graph.endsOf t.name).map fun x => (x.label, (x.candidates t.name).filter (!·.isEmpty)) := by
  have hf := claimAll_requests forwardLabel forwardCandidates (usedByMembers classes t types)
    (graph.forwardFor t.name)
  have hi :=
    claimAll_requests inverseLabel inverseCandidates (forwardClaims classes graph t types).2
    (graph.inverseFor t.name)
  have hm := claimAll_requests manyToManyLabel (manyToManyCandidates t.name)
    (inverseClaims classes graph t types).2 (graph.manyToManyFor t.name)
  simp only [← claimed_claims, claimed, forwardClaims, inverseClaims, manyToManyClaims,
    List.map_append, List.map_map, Function.comp_def, RelationGraph.endsOf] at hf hi hm ⊢
  rw [hf, hi, hm]
  rfl

/-- The relations of a table are given names one after the other, none of them in use before. -/
theorem claims_granted : Granted (usedByMembers classes t types).names
    ((ofTypes classes graph t types).claims.map (·.candidates))
    ((ofTypes classes graph t types).claims.map (·.name)) := by
  have hf := claimAll_granted forwardLabel forwardCandidates (usedByMembers classes t types)
    (graph.forwardFor t.name)
  have hi := claimAll_granted inverseLabel inverseCandidates (forwardClaims classes graph t types).2
    (graph.inverseFor t.name)
  have hm := claimAll_granted manyToManyLabel (manyToManyCandidates t.name)
    (inverseClaims classes graph t types).2 (graph.manyToManyFor t.name)
  have hfi := hf.append (hi.congr fun c => mem_claimAll _ _)
  have hall := hfi.append (hm.congr fun c => by
    rw [inverseClaims, mem_claimAll, List.mem_append, forwardClaims, mem_claimAll,
      List.reduceOption_append, List.append_assoc]
    simp only [List.mem_append]
    tauto)
  simpa only [← claimed_claims, claimed, forwardClaims, inverseClaims, manyToManyClaims,
    List.map_append, List.map_map, Function.comp_def] using hall

variable {classes graph t types}

theorem mem_claimed_of_nameOf? {x : RelationEnd} {name : String}
    (hx : (ofTypes classes graph t types).nameOf? x = some name) :
    ∃ y c, (y, c) ∈ claimed classes graph t types ∧ x.SameKey y ∧ c.name = some name := by
  cases x with
  | forward a =>
    simp only [nameOf?, ofTypes_forward, Option.join_eq_some_iff] at hx
    obtain ⟨⟨r, c⟩, hmem, heq⟩ := List.mem_map.mp (Assoc.mem_of_get?_ofPairs hx)
    obtain ⟨hkey, hname⟩ := Prod.mk.inj heq
    exact ⟨.forward r, c, by simp [claimed, hmem], hkey.symm, hname⟩
  | inverse a =>
    simp only [nameOf?, ofTypes_inverse, Option.join_eq_some_iff] at hx
    obtain ⟨⟨r, c⟩, hmem, heq⟩ := List.mem_map.mp (Assoc.mem_of_get?_ofPairs hx)
    obtain ⟨hkey, hname⟩ := Prod.mk.inj heq
    exact ⟨.inverse r, c, by simp [claimed, hmem], hkey.symm, hname⟩
  | manyToMany a =>
    simp only [nameOf?, ofTypes_manyToMany, Option.join_eq_some_iff] at hx
    obtain ⟨⟨r, c⟩, hmem, heq⟩ := List.mem_map.mp (Assoc.mem_of_get?_ofPairs hx)
    obtain ⟨hkey, hname⟩ := Prod.mk.inj heq
    exact ⟨.manyToMany r, c, by simp [claimed, hmem], hkey.symm, hname⟩

private theorem fst_eq_of_nodup {α : Type} {pairs : List (α × NameClaim)} {name : String}
    (hnodup : (pairs.map (·.2.name)).reduceOption.Nodup) {a b : α} {c d : NameClaim}
    (ha : (a, c) ∈ pairs) (hc : c.name = some name) (hb : (b, d) ∈ pairs)
    (hd : d.name = some name) :
    a = b := by
  induction pairs with
  | nil => simp at ha
  | cons head rest ih =>
    have hrest : (rest.map (·.2.name)).reduceOption.Nodup := by
      rw [List.map_cons] at hnodup
      cases hhead : head.2.name with
      | none => rwa [hhead, List.reduceOption_cons_of_none] at hnodup
      | some n =>
        rw [hhead, List.reduceOption_cons_of_some] at hnodup
        exact (List.nodup_cons.mp hnodup).2
    have hout :
        ∀ {e : α × NameClaim}, e ∈ rest → e.2.name = some name → head.2.name ≠ some name := by
      intro e he hname hhead
      rw [List.map_cons, hhead, List.reduceOption_cons_of_some] at hnodup
      refine (List.nodup_cons.mp hnodup).1 (List.reduceOption_mem_iff.mpr ?_)
      exact List.mem_map.mpr ⟨e, he, hname⟩
    -- the head cannot share the name with a pair behind it
    rcases List.mem_cons.mp ha with rfl | ha' <;> rcases List.mem_cons.mp hb with hb' | hb'
    · rw [Prod.ext_iff] at hb'
      exact hb'.1.symm
    · exact absurd hc (hout hb' hd)
    · rw [← hb'] at hout
      exact absurd hd (hout ha' hc)
    · exact ih hrest ha' hb'

/-- Two ends have one name only if their names are kept under one key. -/
theorem sameKey_of_nameOf? {x y : RelationEnd} {name : String}
    (hx : (ofTypes classes graph t types).nameOf? x = some name)
    (hy : (ofTypes classes graph t types).nameOf? y = some name) : x.SameKey y := by
  obtain ⟨x', c, hxmem, hxkey, hc⟩ := mem_claimed_of_nameOf? hx
  obtain ⟨y', d, hymem, hykey, hd⟩ := mem_claimed_of_nameOf? hy
  have hnodup := (claims_granted classes graph t types).nodup
  rw [← claimed_claims, List.map_map] at hnodup
  obtain rfl := fst_eq_of_nodup hnodup hxmem hc hymem hd
  exact hxkey.trans hykey.symm

theorem nameOf?_not_used {x : RelationEnd} {name : String}
    (hx : (ofTypes classes graph t types).nameOf? x = some name) :
    name ∉ (usedByMembers classes t types).names := by
  obtain ⟨y, c, hmem, -, hc⟩ := mem_claimed_of_nameOf? hx
  refine (claims_granted classes graph t types).not_mem_taken (List.reduceOption_mem_iff.mpr ?_)
  rw [← claimed_claims, List.map_map]
  exact List.mem_map.mpr ⟨(y, c), hmem, hc⟩

private theorem get?_claim {α κ : Type} [BEq κ] [LawfulBEq κ] (key : α → κ)
    {pairs : List (α × NameClaim)} (h : pairs.Pairwise fun a b => ¬ key a.1 = key b.1)
    {r : α} {c : NameClaim} (hmem : (r, c) ∈ pairs) :
    ((Assoc.ofPairs (pairs.map fun (r, c) => (key r, c.name))).get? (key r)).join = c.name := by
  have hnodup : ((pairs.map fun (r, c) => (key r, c.name)).map (·.1)).Nodup := by
    rw [List.map_map, List.nodup_iff_pairwise_ne, List.pairwise_map]
    exact h
  have hin : (key r, c.name) ∈ pairs.map fun (r, c) => (key r, c.name) :=
    List.mem_map.mpr ⟨(r, c), hmem, rfl⟩
  rw [(Assoc.get?_ofPairs_eq_some_iff hnodup).mpr hin]
  rfl

/-- Where no two ends share a key, every end has the name that was claimed for it. -/
theorem claims_names (hkeys : (graph.endsOf t.name).Pairwise fun x y => ¬ x.SameKey y) :
    (ofTypes classes graph t types).claims.map (·.name) =
      (graph.endsOf t.name).map (ofTypes classes graph t types).nameOf? := by
  rw [← claimed_claims, ← claimed_ends classes graph t types, List.map_map, List.map_map]
  simp only [← claimed_ends classes graph t types, claimed, List.map_append, List.map_map,
    List.pairwise_append, List.pairwise_map, Function.comp_def, RelationEnd.SameKey] at hkeys
  obtain ⟨⟨hforward, hinverse, -⟩, hmany, -⟩ := hkeys
  refine List.map_congr_left fun p hp => ?_
  simp only [claimed, List.mem_append, List.mem_map] at hp
  rcases hp with (⟨⟨r, c⟩, hmem, rfl⟩ | ⟨⟨r, c⟩, hmem, rfl⟩) | ⟨⟨r, c⟩, hmem, rfl⟩
  · exact (get?_claim ForwardRelation.column hforward hmem).symm
  · exact (get?_claim InverseRelation.referencingTable hinverse hmem).symm
  · exact (get?_claim ManyToManyRelation.pair hmany hmem).symm

end

end Plan

end CatalogEntities
