import CatalogEntities.Naming.MemberNames
import Mathlib.Data.List.Nodup
import Mathlib.Data.List.ReduceOption

/-!
Requests for names that are answered one after the other. `Granted` says what a fair answer is
without saying how it is found: every request gets the first of its candidates that is neither
taken from the start nor given to a request before it.
-/

namespace CatalogEntities.Naming

/-- The answer to one request: its first free candidate, or nothing if there is none. -/
def FirstFree (taken candidates : List String) : Option String → Prop
  | some name => ∃ before after, candidates = before ++ name :: after ∧
      (∀ c ∈ before, c ∈ taken) ∧ name ∉ taken
  | none => ∀ c ∈ candidates, c ∈ taken

inductive Granted : List String → List (List String) → List (Option String) → Prop
  | nil {taken : List String} : Granted taken [] []
  | cons {taken candidates : List String} {name : Option String} {requests : List (List String)}
      {names : List (Option String)} :
      FirstFree taken candidates name → Granted (name.toList ++ taken) requests names →
      Granted taken (candidates :: requests) (name :: names)

theorem FirstFree.congr {taken taken' candidates : List String} {name : Option String}
    (heq : ∀ c, c ∈ taken ↔ c ∈ taken') (h : FirstFree taken candidates name) :
    FirstFree taken' candidates name := by
  cases name with
  | none => exact fun c hc => (heq c).mp (h c hc)
  | some name =>
    obtain ⟨before, after, hsplit, hbefore, hfree⟩ := h
    exact ⟨before, after, hsplit, fun c hc => (heq c).mp (hbefore c hc),
      fun hc => hfree ((heq name).mpr hc)⟩

namespace Granted

variable {taken : List String} {requests : List (List String)} {names : List (Option String)}

/-- Only membership among the taken names counts. -/
theorem congr {taken' : List String} (heq : ∀ c, c ∈ taken ↔ c ∈ taken')
    (h : Granted taken requests names) : Granted taken' requests names := by
  induction h generalizing taken' with
  | nil => exact nil
  | cons hfirst _ ih =>
    refine cons (hfirst.congr heq) (ih fun c => ?_)
    simp only [List.mem_append, heq]

theorem not_mem_taken (h : Granted taken requests names) {name : String}
    (hname : name ∈ names.reduceOption) : name ∉ taken := by
  induction h with
  | nil => simp at hname
  | @cons taken candidates given requests names hfirst _ ih =>
    cases given with
    | none =>
      rw [List.reduceOption_cons_of_none] at hname
      simpa using ih hname
    | some given =>
      rw [List.reduceOption_cons_of_some, List.mem_cons] at hname
      rcases hname with rfl | hname
      · obtain ⟨-, -, -, -, hfree⟩ := hfirst
        exact hfree
      · exact fun hm => ih hname (by simp [hm])

/-- No name is given twice. -/
theorem nodup (h : Granted taken requests names) : names.reduceOption.Nodup := by
  induction h with
  | nil => exact List.nodup_nil
  | @cons taken candidates given requests names _ hrest ih =>
    cases given with
    | none => rwa [List.reduceOption_cons_of_none]
    | some given =>
      rw [List.reduceOption_cons_of_some, List.nodup_cons]
      exact ⟨fun hm => hrest.not_mem_taken hm (by simp), ih⟩

/-- Later requests are answered against what earlier ones were given. -/
theorem append {requests' : List (List String)} {names' : List (Option String)}
    (h : Granted taken requests names)
    (h' : Granted (names.reduceOption ++ taken) requests' names') :
    Granted taken (requests ++ requests') (names ++ names') := by
  induction h with
  | nil => exact h'
  | @cons taken candidates given requests names hfirst _ ih =>
    refine cons hfirst (ih (h'.congr fun c => ?_))
    cases given with
    | none => simp [List.reduceOption_cons_of_none]
    | some given =>
      simp only [List.reduceOption_cons_of_some, List.mem_append, List.mem_cons, Option.toList_some,
        List.not_mem_nil, or_false]
      tauto

end Granted

namespace MemberNames

@[simp] theorem has_iff {m : MemberNames} {name : String} : m.has name ↔ name ∈ m.names := by
  simp [has]

@[simp] theorem mem_insert {m : MemberNames} {name other : String} :
    other ∈ (m.insert name).names ↔ other = name ∨ other ∈ m.names := by
  by_cases hm : name ∈ m.names
  · have hin : m.insert name = m := by simp [insert, hm]
    rw [hin]
    exact ⟨Or.inr, fun ho => ho.elim (fun he => he ▸ hm) id⟩
  · have hnew : m.insert name = ⟨name :: m.names⟩ := by simp [insert, hm]
    rw [hnew, List.mem_cons]

theorem mem_foldl_insert {α : Type} (name : α → String) (m : MemberNames) (xs : List α)
    {other : String} : other ∈ (xs.foldl (fun m x => m.insert (name x)) m).names ↔
      other ∈ xs.map name ∨ other ∈ m.names := by
  induction xs generalizing m with
  | nil => simp
  | cons x rest ih =>
    rw [List.foldl_cons, ih, mem_insert, List.map_cons, List.mem_cons]
    tauto

theorem mem_ofList {names : List String} {name : String} :
    name ∈ (ofList names).names ↔ name ∈ names := by
  have h : name ∈ (names.foldl (fun (m : MemberNames) x => m.insert (id x)) ⟨[]⟩).names ↔
      name ∈ names.map id ∨ name ∈ [] := mem_foldl_insert id ⟨[]⟩ names
  simpa [ofList] using h

theorem claim_firstFree (m : MemberNames) {candidates : List String}
    (hne : ∀ c ∈ candidates, c ≠ "") : FirstFree m.names candidates (m.claim candidates).1 := by
  unfold claim
  split
  · rename_i c hfind
    obtain ⟨hfree, before, after, hsplit, hbefore⟩ := List.find?_eq_some_iff_append.mp hfind
    refine ⟨before, after, hsplit, ?_, ?_⟩
    · intro b hb
      have hbne := hne b (by simp [hsplit, hb])
      simpa [hbne] using hbefore b hb
    · intro hm
      have hhas := has_iff.mpr hm
      simp [hhas] at hfree
  · rename_i hfind
    intro c hc
    have hcne := hne c hc
    simpa [hcne] using List.find?_eq_none.mp hfind c hc

theorem mem_claim {m : MemberNames} {candidates : List String} {name : String} :
    name ∈ (m.claim candidates).2.names ↔
      name ∈ (m.claim candidates).1.toList ++ m.names := by
  unfold claim
  split <;> simp

end MemberNames

end CatalogEntities.Naming
