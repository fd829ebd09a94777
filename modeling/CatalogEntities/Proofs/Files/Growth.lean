import CatalogEntities.Files.Change
import CatalogEntities.Proofs.Files.Tree

/-!
Trees that grow by directories only. To create a directory and those above it adds directories on
its path; to create a file and to remove it again leaves a tree as it was, but takes a file that was
there before.

Main results: `grown_makeDirectories`, `entry?_touch_remove`.
-/

namespace CatalogEntities.Files

theorem FilePath.resolve_mem_locations (base : List String) (p : FilePath) :
    p.resolve base ∈ p.locations base := by
  refine List.mem_map.mpr ⟨p.parts.length, List.mem_range.mpr (Nat.lt_succ_self _), ?_⟩
  rw [List.take_length]

/-- A path passes what the path above it passes. -/
theorem FilePath.locations_subset_child (base : List String) (p : FilePath) (name : String) :
    p.locations base ⊆ (p.child name).locations base := by
  intro location hlocation
  obtain ⟨n, hn, rfl⟩ := List.mem_map.mp hlocation
  have hle : n ≤ p.parts.length := Nat.le_of_lt_succ (List.mem_range.mp hn)
  refine List.mem_map.mpr ⟨n, List.mem_range.mpr ?_, ?_⟩
  · rw [child, List.length_append]
    omega
  · rw [child, List.take_append_of_le_length hle]

namespace Tree

variable {t t' t'' : Tree} {ways : List (List String)}

/-- A location is as it was, or it is on the way, was free, and is a directory now. -/
def KeptOrMade (t t' : Tree) (ways : List (List String)) (location : List String) : Prop :=
  t'.entry? location = t.entry? location ∨
    t.entry? location = none ∧ t'.entry? location = some .directory ∧ location ∈ ways

/-- Nothing is different but that directories are new which were missing on the way. -/
structure Grown (t t' : Tree) (ways : List (List String)) : Prop where
  home : t'.home = t.home
  entry : ∀ location, t.KeptOrMade t' ways location

theorem Grown.refl (t : Tree) (ways : List (List String)) : Grown t t ways :=
  ⟨rfl, fun _ => .inl rfl⟩

theorem Grown.trans (h : Grown t t' ways) (h' : Grown t' t'' ways) : Grown t t'' ways where
  home := h'.home.trans h.home
  entry location := by
    rcases h'.entry location with heq | ⟨hnone, hnew, hway⟩
    · rw [KeptOrMade, heq]
      exact h.entry location
    · rcases h.entry location with heq | ⟨-, hdirectory, -⟩
      · exact .inr ⟨heq ▸ hnone, hnew, hway⟩
      · rw [hdirectory] at hnone
        cases hnone

theorem Grown.mono {more : List (List String)} (h : Grown t t' ways) (hsub : ways ⊆ more) :
    Grown t t' more where
  home := h.home
  entry location := (h.entry location).imp_right fun ⟨hnone, hnew, hway⟩ => ⟨hnone, hnew, hsub hway⟩

/-- What is no directory afterwards was there before. -/
theorem Grown.entry_of_ne (h : Grown t t' ways) {location : List String}
    (hne : t'.entry? location ≠ some .directory) : t'.entry? location = t.entry? location :=
  (h.entry location).resolve_right fun hnew => hne hnew.2.1

theorem grown_put {location : List String} (hnone : t.entry? location = none)
    (hway : location ∈ ways) :
    Grown t (t.put location .directory) ways where
  home := t.put_home location .directory
  entry other := by
    have hfree : t.entry? location ≠ some .directory := by simp [hnone]
    rw [KeptOrMade, entry?_put t (ne_nil_of_not_directory hfree)]
    by_cases hother : other = location
    · subst hother
      exact .inr ⟨hnone, if_pos rfl, hway⟩
    · exact .inl (if_neg hother)

theorem makeDirectory_ok {p : FilePath} (h : t.makeDirectory p = .ok t') :
    t.entry? (p.resolve t.home) = none ∧ t.put (p.resolve t.home) .directory = t' := by
  unfold makeDirectory at h
  split at h
  · cases h
  · split at h
    · cases h
    · split at h
      · cases h
      · split at h
        · cases h
        · rename_i location hlocate
          split at h
          · cases h
          · rename_i hfree
            rw [Bool.or_eq_true, not_or, Option.not_isSome_iff_eq_none] at hfree
            rw [← locate_eq hlocate]
            exact ⟨hfree.2, Except.ok.inj h⟩

theorem grown_ensureDirectory {p : FilePath} (h : t.ensureDirectory p = .ok t') :
    Grown t t' (p.locations t.home) := by
  unfold ensureDirectory at h
  split at h
  · rename_i made hmade
    obtain rfl := Except.ok.inj h
    obtain ⟨hnone, rfl⟩ := makeDirectory_ok hmade
    exact grown_put hnone (p.resolve_mem_locations t.home)
  · cases h
  · split at h
    · obtain rfl := Except.ok.inj h
      exact .refl t _
    · cases h

/-- Induction on the parts of the path, the last one first. -/
theorem grown_makeDirectoriesIn (t : Tree) (anchor : String) (reversed : List String) :
    Grown t (t.makeDirectoriesIn anchor reversed).1
      (FilePath.locations t.home ⟨anchor, reversed.reverse⟩) := by
  induction reversed with
  | nil =>
    unfold makeDirectoriesIn
    split
    · rename_i made hmade
      exact grown_ensureDirectory hmade
    · exact .refl t _
  | cons name above ih =>
    have habove : FilePath.locations t.home ⟨anchor, above.reverse⟩ ⊆
        FilePath.locations t.home ⟨anchor, (name :: above).reverse⟩ := by
      rw [List.reverse_cons]
      exact FilePath.locations_subset_child t.home ⟨anchor, above.reverse⟩ name
    have hparents := ih.mono habove
    unfold makeDirectoriesIn
    dsimp only
    split
    · rename_i made hmade
      obtain ⟨hnone, rfl⟩ := makeDirectory_ok hmade
      exact grown_put hnone (FilePath.resolve_mem_locations t.home _)
    · split
      · rename_i made fault hmade
        rwa [hmade] at hparents
      · rename_i made hmade
        rw [hmade] at hparents
        split
        · rename_i all hall
          have hlast := grown_ensureDirectory hall
          rw [hparents.home] at hlast
          exact hparents.trans hlast
        · exact hparents
    · exact .refl t _
    · split <;> exact .refl t _

/-- To create a directory makes those directories that are missing on the path, whether it succeeds
or not. -/
theorem grown_makeDirectories (t : Tree) (p : FilePath) :
    Grown t (t.makeDirectories p).1 (p.locations t.home) := by
  have hgrown := t.grown_makeDirectoriesIn p.anchor p.parts.reverse
  rwa [List.reverse_reverse] at hgrown

theorem touch_ok {p : FilePath} (h : t.touch p = .ok t') :
    t' = t ∨ t.locate p = .ok (p.resolve t.home) ∧ t.entry? (p.resolve t.home) = none ∧
    hasNul p = false ∧
      t.put (p.resolve t.home) (.file []) = t' := by
  unfold touch at h
  split at h
  · cases h
  · exact .inl (Except.ok.inj h).symm
  · rename_i fault _ hstatus
    obtain ⟨-, hnul, location, hlocate, -, hput⟩ := write_ok_iff.mp h
    obtain rfl := locate_eq hlocate
    have hnone : t.entry? (p.resolve t.home) = none := by
      cases hentry : t.entry? (p.resolve t.home) with
      | none => rfl
      | some entry => simp [status, hnul, hlocate, hentry] at hstatus
    exact .inr ⟨hlocate, hnone, hnul, hput⟩

/-- What is touched and cannot be removed was there before. -/
theorem touch_remove_error {p : FilePath} {touched : Tree} {fault : Fault}
    (htouch : t.touch p = .ok touched)
    (hremove : touched.remove p = .error fault) : touched = t := by
  obtain rfl | ⟨hlocate, hnone, hnul, rfl⟩ := touch_ok htouch
  · rfl
  · have hfree : t.entry? (p.resolve t.home) ≠ some .directory := by simp [hnone]
    have hentry := entry?_put t (ne_nil_of_not_directory hfree) (.file []) (p.resolve t.home)
    rw [if_pos rfl] at hentry
    rw [remove, if_neg (by simp [hnul]), (keeps_put hfree (.file [])).locate hlocate] at hremove
    simp only [hentry] at hremove
    cases hremove

/-- A file that is touched and removed is gone, be it new or not; all else is as it was. -/
theorem entry?_touch_remove {p : FilePath} {touched : Tree} (htouch : t.touch p = .ok touched)
    (hremove : touched.remove p = .ok t') :
    t'.home = t.home ∧ t.entry? (p.resolve t.home) ≠ some .directory ∧
      ∀ location,
      t'.entry? location = if location = p.resolve t.home then none else t.entry? location := by
  obtain ⟨-, location, content, hlocate, hfile, rfl⟩ := remove_ok_iff.mp hremove
  obtain rfl := locate_eq hlocate
  obtain rfl | ⟨-, hnone, -, rfl⟩ := touch_ok htouch
  · have hfree : touched.entry? (p.resolve touched.home) ≠ some .directory := by simp [hfile]
    exact ⟨rfl, hfree, entry?_erase touched (ne_nil_of_not_directory hfree)⟩
  · have hfree : t.entry? (p.resolve t.home) ≠ some .directory := by simp [hnone]
    have hne := ne_nil_of_not_directory hfree
    refine ⟨t.put_home _ _, hfree, fun other => ?_⟩
    rw [put_home, entry?_erase _ hne, entry?_put t hne]
    split <;> rfl

end Tree

end CatalogEntities.Files
