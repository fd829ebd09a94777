import CatalogEntities.Files.Tree
import CatalogEntities.Proofs.Files.Path

/-!
What operations on files leave alone. A file that is written or removed never stands where a
directory is, so every path that led to a directory still does.
-/

namespace CatalogEntities.Files.Tree

variable {t t' : Tree}

theorem lookup_replace (entries : List (List String × Entry)) (location other : List String)
    (entry : Entry) :
    (entries.map fun pair => if pair.1 == location then (location, entry) else pair).lookup other =
      if other = location then (entries.lookup location).map fun _ => entry
      else entries.lookup other := by
  induction entries with
  | nil => split <;> rfl
  | cons pair rest ih =>
    obtain ⟨key, value⟩ := pair
    rw [List.map_cons]
    by_cases hkey : key = location
    · subst hkey
      by_cases hother : other = key
      · simp [hother]
      · have hne : (other == key) = false := beq_false_of_ne hother
        simpa [List.lookup_cons, hne, hother] using ih
    · have hneKey : (key == location) = false := beq_false_of_ne hkey
      have hneLocation : (location == key) = false := beq_false_of_ne (Ne.symm hkey)
      simp only [hneKey, Bool.false_eq_true, ↓reduceIte, List.lookup_cons, hneLocation]
      by_cases hother : other = key
      · simp [hother, hkey]
      · have hne : (other == key) = false := beq_false_of_ne hother
        simpa only [hne] using ih

theorem lookup_put (t : Tree) (location other : List String) (entry : Entry) :
    (t.put location entry).entries.lookup other =
      if other = location then some entry else t.entries.lookup other := by
  unfold put
  split
  · rename_i hsome
    obtain ⟨old, hold⟩ := Option.isSome_iff_exists.mp hsome
    rw [lookup_replace, hold, Option.map_some]
  · rename_i hnone
    rw [Option.not_isSome_iff_eq_none] at hnone
    rw [List.lookup_append, List.lookup_cons, List.lookup_nil]
    by_cases hother : other = location
    · simp [hother, hnone]
    · simp [hother, beq_false_of_ne hother]

theorem lookup_erase (t : Tree) (location other : List String) :
    (t.erase location).entries.lookup other =
      if other = location then none else t.entries.lookup other := by
  unfold erase
  induction t.entries with
  | nil => split <;> rfl
  | cons pair rest ih =>
    obtain ⟨key, value⟩ := pair
    by_cases hkey : key = location
    · subst hkey
      rw [List.filter_cons_of_neg (by simp), ih, List.lookup_cons]
      by_cases hother : other = key
      · simp [hother]
      · simp [hother, beq_false_of_ne hother]
    · rw [List.filter_cons_of_pos (by simpa using hkey), List.lookup_cons, List.lookup_cons, ih]
      by_cases hother : other = key
      · simp [hother, hkey]
      · simp [beq_false_of_ne hother]

/-- An entry below the root is found where it was put, and all others stay. -/
theorem entry?_put (t : Tree) {location : List String} (h : location ≠ []) (entry : Entry)
    (other : List String) :
    entry? (t.put location entry) other =
      if other = location then some entry else t.entry? other := by
  unfold entry?
  rw [lookup_put]
  by_cases hother : other = []
  · simp [hother, Ne.symm h]
  · simp [hother]

theorem entry?_erase (t : Tree) {location : List String} (h : location ≠ []) (other : List String) :
    entry? (t.erase location) other = if other = location then none else t.entry? other := by
  unfold entry?
  rw [lookup_erase]
  by_cases hother : other = []
  · simp [hother, Ne.symm h]
  · simp [hother]

theorem ne_nil_of_not_directory {location : List String} (h : t.entry? location ≠ some .directory) :
    location ≠ [] := by
  rintro rfl
  exact h rfl

@[simp]
theorem put_home (t : Tree) (location : List String) (entry : Entry) :
    (t.put location entry).home = t.home := by
  unfold put
  split <;> rfl

@[simp]
theorem hasNul_child (p : FilePath) (name : String) :
    hasNul (p.child name) = (hasNul p || name.contains '\x00') := by
  simp only [hasNul, FilePath.child, List.any_append, List.any_cons, List.any_nil, Bool.or_false]

/-- Directories of the one tree are directories of the other, and both are worked in from the same
place. -/
structure Keeps (t t' : Tree) : Prop where
  home : t'.home = t.home
  directory : ∀ location, t.entry? location = some .directory → t'.entry? location = some .directory

theorem keeps_put {location : List String} (h : t.entry? location ≠ some .directory)
    (entry : Entry) :
    Keeps t (t.put location entry) where
  home := t.put_home location entry
  directory other hother := by
    have hne : other ≠ location := fun he => h (he ▸ hother)
    rw [entry?_put t (ne_nil_of_not_directory h), if_neg hne, hother]

theorem keeps_erase {location : List String} (h : t.entry? location ≠ some .directory) :
    Keeps t (t.erase location) where
  home := rfl
  directory other hother := by
    have hne : other ≠ location := fun he => h (he ▸ hother)
    rw [entry?_erase t (ne_nil_of_not_directory h), if_neg hne, hother]

/-- One more name is followed from a directory only. -/
theorem descend_append {location names : List String} {name : String} {r : List String} :
    t.descend location (names ++ [name]) = .ok r ↔ ∃ above, t.descend location names = .ok above ∧
      t.entry? above = some .directory ∧ nameTooLong name = false ∧
        (if name == ".." then above.dropLast else above ++ [name]) = r := by
  induction names generalizing location with
  | nil =>
    simp only [List.nil_append, descend, Except.ok.injEq, exists_eq_left']
    cases t.entry? location with
    | none => simp
    | some entry =>
      cases entry with
      | file content => simp
      | directory => cases nameTooLong name <;> simp
  | cons first rest ih =>
    simp only [List.cons_append, descend]
    cases t.entry? location with
    | none => simp
    | some entry =>
      cases entry with
      | file content => simp
      | directory => cases nameTooLong first <;> simp [ih]

theorem Keeps.descend (h : Keeps t t') {location names r : List String}
    (hr : t.descend location names = .ok r) : t'.descend location names = .ok r := by
  induction names generalizing location with
  | nil => exact hr
  | cons name rest ih =>
    simp only [Tree.descend] at hr ⊢
    split at hr
    · cases hr
    · cases hr
    · rename_i hentry
      rw [h.directory location hentry]
      dsimp only
      split at hr
      · cases hr
      · rename_i hlong
        rw [if_neg hlong]
        exact ih hr

theorem descend_eq_foldl {location names r : List String} (h : t.descend location names = .ok r) :
    r = names.foldl (fun above name => if name == ".." then above.dropLast else above ++ [name])
      location := by
  induction names generalizing location with
  | nil => exact (Except.ok.inj h).symm
  | cons name rest ih =>
    simp only [descend] at h
    split at h
    · cases h
    · cases h
    · split at h
      · cases h
      · exact ih h

/-- Where a path leads does not depend on what is there. -/
theorem locate_eq {p : FilePath} {location : List String} (h : t.locate p = .ok location) :
    location = FilePath.resolve t.home p := by
  unfold locate at h
  split at h
  · cases h
  · exact descend_eq_foldl h

theorem Keeps.locate (h : Keeps t t') {p : FilePath} {location : List String}
    (hp : t.locate p = .ok location) : t'.locate p = .ok location := by
  unfold Tree.locate Tree.start at hp ⊢
  rw [h.home]
  split at hp
  · cases hp
  · rename_i hshort
    rw [if_neg hshort]
    exact h.descend hp

theorem status_directory_iff {p : FilePath} : t.status p = .ok .directory ↔
    hasNul p = false ∧ ∃ location, t.locate p = .ok location ∧
    t.entry? location = some .directory := by
  unfold status
  cases hasNul p with
  | true => simp
  | false =>
    cases t.locate p with
    | error e => simp
    | ok location => cases hentry : t.entry? location <;> simp [hentry]

theorem Keeps.status (h : Keeps t t') {p : FilePath} (hp : t.status p = .ok .directory) :
    t'.status p = .ok .directory := by
  obtain ⟨hnul, location, hlocate, hentry⟩ := status_directory_iff.mp hp
  exact status_directory_iff.mpr ⟨hnul, location, h.locate hlocate, h.directory location hentry⟩

/-- A file lies in a directory that can be reached. -/
theorem status_of_locate_child {p : FilePath} {name : String} (hname : name ≠ "")
    (hnul : hasNul (p.child name) = false) {location : List String}
    (h : t.locate (p.child name) = .ok location) : t.status p = .ok .directory := by
  unfold locate at h
  split at h
  · cases h
  · rename_i hshort
    obtain ⟨above, habove, hentry, -, -⟩ := descend_append.mp h
    have hparent : ¬ pathTooLong p := by
      have hle := p.text_le_child hname
      simp only [pathTooLong, decide_eq_true_eq] at hshort ⊢
      omega
    rw [hasNul_child, Bool.or_eq_false_iff] at hnul
    refine status_directory_iff.mpr ⟨hnul.1, above, ?_, hentry⟩
    rw [locate, if_neg hparent]
    exact habove

/-- A directory that is there is not created again. -/
theorem makeDirectories_of_directory {p : FilePath} (h : t.status p = .ok .directory) :
    t.makeDirectories p = (t, .ok ()) := by
  obtain ⟨hnul, location, hlocate, hentry⟩ := status_directory_iff.mp h
  have hthere : t.isDirectory p := by simp only [isDirectory, query?, h]
  have hmake : t.makeDirectory p = .error (.system .alreadyExists p.text) := by
    have hshort : ¬ pathTooLong p := by
      intro hlong
      rw [locate, if_pos hlong] at hlocate
      cases hlocate
    rw [makeDirectory, hnul, if_neg Bool.false_ne_true, if_neg hshort, hlocate]
    split
    · rfl
    · simp only [hentry, Option.isSome_some, Bool.or_true, ↓reduceIte]
  obtain ⟨anchor, parts⟩ := p
  rw [makeDirectories]
  cases hparts : parts.reverse with
  | nil =>
    obtain rfl := List.reverse_eq_nil_iff.mp hparts
    simp only [makeDirectoriesIn, ensureDirectory, hmake, hthere, ↓reduceIte]
  | cons name above =>
    have hback : (name :: above).reverse = parts := by rw [← hparts, List.reverse_reverse]
    simp only [makeDirectoriesIn, hback, hmake, hthere, ↓reduceIte]

theorem write_ok_iff {p : FilePath} {content : List UInt8} : t.write p content = .ok t' ↔
    t.refusal = none ∧ hasNul p = false ∧ ∃ location, t.locate p = .ok location ∧
      t.entry? location ≠ some .directory ∧ t.put location (.file content) = t' := by
  unfold write
  cases t.refusal with
  | some text => simp
  | none =>
    cases hasNul p with
    | true => simp
    | false =>
      cases t.locate p with
      | error e => simp
      | ok location =>
        cases hentry : t.entry? location with
        | none => simp [hentry]
        | some entry => cases entry <;> simp [hentry]

theorem keeps_write {p : FilePath} {content : List UInt8} (h : t.write p content = .ok t') :
    Keeps t t' := by
  obtain ⟨-, -, location, -, hentry, rfl⟩ := write_ok_iff.mp h
  exact keeps_put hentry _

theorem write_ne_embeddedNul {p : FilePath} (h : hasNul p = false) (content : List UInt8) :
    t.write p content ≠ .error .embeddedNul := by
  unfold write
  rw [h, if_neg Bool.false_ne_true]
  split
  · simp
  · split
    · simp
    · split <;> simp

theorem remove_ok_iff {p : FilePath} : t.remove p = .ok t' ↔ hasNul p = false ∧
    ∃ location content, t.locate p = .ok location ∧ t.entry? location = some (.file content) ∧
      t.erase location = t' := by
  unfold remove
  cases hasNul p with
  | true => simp
  | false =>
    cases t.locate p with
    | error e => simp
    | ok location =>
      cases hentry : t.entry? location with
      | none => simp [hentry]
      | some entry => cases entry <;> simp [hentry]

theorem remove_ok {p : FilePath} (h : t.remove p = .ok t') :
    hasNul p = false ∧ (∃ location, t.locate p = .ok location) ∧ Keeps t t' := by
  obtain ⟨hnul, location, content, hlocate, hfile, rfl⟩ := remove_ok_iff.mp h
  exact ⟨hnul, ⟨location, hlocate⟩, keeps_erase (by simp [hfile])⟩

end CatalogEntities.Files.Tree
