import CatalogEntities.Naming.Identifier

/-!
Attribute and module names are made of word characters only.
-/

namespace CatalogEntities.Naming

open Text

theorem isWordChar_of_mem_wordChars {cs : List Char} {c : Char} (h : c ∈ wordChars cs) :
    isWordChar c := by
  obtain ⟨d, -, rfl⟩ := List.mem_map.mp h
  split
  · assumption
  · rfl

theorem isWordChar_of_mem_guardStart {cs : List Char} (h : ∀ c ∈ cs, isWordChar c) {c : Char}
    (hc : c ∈ guardStart cs) : isWordChar c := by
  unfold guardStart at hc
  split at hc
  · exact absurd hc List.not_mem_nil
  · split at hc
    · exact h c hc
    · rcases List.mem_cons.mp hc with rfl | hc
      · rfl
      · exact h c hc

theorem attributeName_wordChars (s : String) : ∀ c ∈ (attributeName s).toList, isWordChar c := by
  intro c hc
  have hname : ∀ c ∈ guardStart (wordChars s.toList), isWordChar c := fun c hc =>
    isWordChar_of_mem_guardStart (fun _ => isWordChar_of_mem_wordChars) hc
  unfold attributeName at hc
  extract_lets name at hc
  split at hc
  · have hfield : "_field".toList.all isWordChar := by decide
    exact List.all_eq_true.mp hfield c hc
  · split at hc
    · rw [String.toList_append, List.mem_append, String.toList_ofList] at hc
      rcases hc with hc | hc
      · exact hname c hc
      · obtain rfl := List.mem_singleton.mp hc
        rfl
    · rw [String.toList_ofList] at hc
      exact hname c hc

theorem moduleName_wordChars (table : String) : ∀ c ∈ (moduleName table).toList, isWordChar c := by
  intro c hc
  have hname := attributeName_wordChars table
  unfold moduleName at hc
  extract_lets name at hc
  split at hc
  · rename_i rest hsplit
    dsimp only at hc
    split at hc
    · have htable : "_table".toList.all isWordChar := by decide
      exact List.all_eq_true.mp htable c hc
    · rw [String.toList_ofList] at hc
      refine hname c ?_
      rw [hsplit]
      exact List.mem_cons_of_mem _ (List.mem_cons_of_mem _ ((List.dropWhile_sublist _).mem hc))
  · exact hname c hc

end CatalogEntities.Naming
