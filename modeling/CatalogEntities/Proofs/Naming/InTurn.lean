import CatalogEntities.Naming.EnumName
import CatalogEntities.Proofs.Naming.Numbered

/-!
Names that are found by trying. A candidate that is taken gives way to its stem with the next
number; every such search ends, at a name that is free. Names that are found one after the other,
each taken for those after it, are all different.
-/

namespace CatalogEntities.Naming

open Number

/-- The search from a candidate, with the number that is tried after it. -/
inductive Tries (taken : List String) (stem : String) : Nat → String → String → Prop
  | free {k : Nat} {candidate : String} : candidate ∉ taken → Tries taken stem k candidate candidate
  | next {k : Nat} {candidate found : String} : candidate ∈ taken →
      Tries taken stem (k + 1) (stem ++ natText k) found → Tries taken stem k candidate found

/-- A stem that is free, or else with the first number from 2 on that makes it free. -/
def firstTried (taken : List String) (stem : String) : String :=
  if taken.contains stem then stem ++ natText (firstFree taken (fun k => stem ++ natText k) 2)
  else stem

theorem appended_injective (stem : String) : Function.Injective fun k => stem ++ natText k :=
  fun _ _ he => natText_injective ((String.append_right_inj stem).mp he)

namespace Tries

variable {taken : List String} {stem candidate found : String} {k : Nat}

theorem not_mem (h : Tries taken stem k candidate found) : found ∉ taken := by
  induction h with
  | free hfree => exact hfree
  | next _ _ ih => exact ih

/-- Only membership among the taken names counts. -/
theorem congr {taken' : List String} (heq : ∀ c, c ∈ taken ↔ c ∈ taken')
    (h : Tries taken stem k candidate found) : Tries taken' stem k candidate found := by
  induction h with
  | free hfree => exact .free fun hm => hfree ((heq _).mpr hm)
  | next htaken _ ih => exact .next ((heq _).mp htaken) ih

/-- The search passes over numbers that make taken names. -/
theorem counts_to {n : Nat} (hcandidate : candidate ∈ taken)
    (hbefore : ∀ i < n, stem ++ natText (k + i) ∈ taken) (hfree : stem ++ natText (k + n) ∉ taken) :
    Tries taken stem k candidate (stem ++ natText (k + n)) := by
  induction n generalizing k candidate with
  | zero => exact .next hcandidate (.free hfree)
  | succ n ih =>
    have hshift (i : Nat) : k + (i + 1) = k + 1 + i := by omega
    have hlater : ∀ i < n, stem ++ natText (k + 1 + i) ∈ taken := by
      intro i hi
      rw [← hshift]
      exact hbefore (i + 1) (by omega)
    rw [hshift] at hfree ⊢
    exact .next hcandidate (ih (hbefore 0 (by omega)) hlater hfree)

end Tries

/-- A search for a free name ends. -/
theorem tries_firstTried (taken : List String) (stem : String) :
    Tries taken stem 2 stem (firstTried taken stem) := by
  unfold firstTried
  by_cases hstem : stem ∈ taken
  · obtain ⟨n, hn, hfree, hbefore⟩ := firstFree_spec (appended_injective stem) taken 2
    rw [if_pos (List.contains_iff_mem.mpr hstem), hn]
    exact .counts_to hstem hbefore hfree
  · rw [if_neg (by simpa using hstem)]
    exact .free hstem

/-- Each key is given the name that is found from its stem, and then that name is taken, too. -/
def InTurn (stem : List String → String → String) : List String → List (String × String) → Prop
  | _, [] => True
  | taken, (key, name) :: rest =>
    Tries taken (stem taken key) 2 (stem taken key) name ∧ InTurn stem (name :: taken) rest

namespace InTurn

variable {stem : List String → String → String} {taken : List String}
    {pairs : List (String × String)}

theorem congr (hstem : ∀ {a b : List String}, (∀ c, c ∈ a ↔ c ∈ b) → stem a = stem b)
    {taken' : List String} (heq : ∀ c, c ∈ taken ↔ c ∈ taken') (h : InTurn stem taken pairs) :
    InTurn stem taken' pairs := by
  induction pairs generalizing taken taken' with
  | nil => trivial
  | cons pair rest ih =>
    refine ⟨?_, ih (fun c => ?_) h.2⟩
    · rw [← hstem heq]
      exact h.1.congr heq
    · simp only [List.mem_cons, heq]

theorem not_mem (h : InTurn stem taken pairs) {name : String} (hname : name ∈ pairs.map (·.2)) :
    name ∉ taken := by
  induction pairs generalizing taken with
  | nil => exact absurd hname List.not_mem_nil
  | cons pair rest ih =>
    rcases List.mem_cons.mp hname with rfl | hlater
    · exact h.1.not_mem
    · exact fun hm => ih h.2 hlater (List.mem_cons_of_mem _ hm)

theorem nodup (h : InTurn stem taken pairs) : (pairs.map (·.2)).Nodup := by
  induction pairs generalizing taken with
  | nil => exact List.nodup_nil
  | cons pair rest ih =>
    exact List.nodup_cons.mpr ⟨fun hlater => h.2.not_mem hlater List.mem_cons_self, ih h.2⟩

end InTurn

/-- The class of an enumeration is searched from the column's name, or from that with the entity's
class in front of it. -/
def enumStem (entityClass : String) (taken : List String) (column : String) : String :=
  let own := withStem "Enum" (pascalCase column)
  if taken.contains own then entityClass ++ own else own

/-- An attribute is searched from the column's name made safe, or from that with an underscore. -/
def attributeStem (used : List String) (column : String) : String :=
  let own := attributeName column
  if used.contains own then own ++ "_" else own

theorem attributeStem_congr {a b : List String} (heq : ∀ c, c ∈ a ↔ c ∈ b) :
    attributeStem a = attributeStem b := by
  funext column
  have hcontains : a.contains (attributeName column) = b.contains (attributeName column) := by
    rw [Bool.eq_iff_iff, List.contains_iff_mem, List.contains_iff_mem, heq]
  simp only [attributeStem, hcontains]

theorem enumClassName_eq (column entityClass : String) (taken : List String) :
    enumClassName column entityClass taken = firstTried taken (enumStem entityClass taken column) :=
  rfl

end CatalogEntities.Naming
