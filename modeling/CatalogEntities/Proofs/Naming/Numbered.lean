import CatalogEntities.Naming.Identifier
import CatalogEntities.Number.Integer
import Mathlib.Data.List.Perm.Subperm
import Mathlib.Data.List.Nodup

/-!
Numbered names. Different numbers are written differently, so of as many names of a family as are
taken and one more, one is free; the first of them is what a search for a free name finds.
-/

namespace CatalogEntities

open Naming

theorem Number.natText_injective : Function.Injective natText := by
  intro m n h
  have hdigits : Nat.toDigits 10 m = Nat.toDigits 10 n := String.ofList_injective h
  have hread : m = Nat.ofDigitChars 10 (Nat.toDigits 10 m) 0 := Nat.ofDigitChars_ten_toDigits.symm
  rw [hread, hdigits, Nat.ofDigitChars_ten_toDigits]

/-- The name that is found is free, and those of the family before it are taken. -/
theorem Naming.firstFree_spec {family : Nat → String} (hfamily : Function.Injective family)
    (taken : List String) (first : Nat) : ∃ n, firstFree taken family first = first + n ∧
      family (first + n) ∉ taken ∧ ∀ i < n, family (first + i) ∈ taken := by
  unfold firstFree
  rw [List.find?_map]
  cases hfind : (List.range (taken.length + 1)).find?
    ((fun k => !taken.contains (family k)) ∘ (first + ·)) with
  | some n =>
    obtain ⟨hfree, -, hbefore⟩ := List.find?_range_eq_some.mp hfind
    exact ⟨n, rfl, by simpa using hfree, fun i hi => by simpa using hbefore i hi⟩
  | none =>
    -- All of the names would be taken, and there are more of them than of taken ones.
    have hall : ((List.range (taken.length + 1)).map (first + ·)).map family ⊆ taken := by
      intro name hname
      rw [List.map_map] at hname
      obtain ⟨n, hn, rfl⟩ := List.mem_map.mp hname
      simpa using List.find?_eq_none.mp hfind n hn
    have hnodup : (((List.range (taken.length + 1)).map (first + ·)).map family).Nodup :=
      (List.nodup_range.map fun _ _ => Nat.add_left_cancel).map hfamily
    have hlength := (hnodup.subperm hall).length_le
    rw [List.length_map, List.length_map, List.length_range] at hlength
    omega

end CatalogEntities
