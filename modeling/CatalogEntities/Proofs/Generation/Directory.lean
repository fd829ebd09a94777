import CatalogEntities.Generation.Directory
import CatalogEntities.Proofs.Files.Growth

/-!
A directory that the check accepts is there, and it stays usable whatever files are written. The
check creates directories and leaves all files alone but one: a file that has the name of the probe
does not outlive it.

Main results: `prepareDirectory_usable`, `checkDirectory_grown_iff`.
-/

namespace CatalogEntities.Generation

open Files

/-- A directory that modules can be written to. -/
structure Usable (t : Tree) (p : FilePath) : Prop where
  normal : p.Normal
  directory : t.status p = .ok .directory

theorem Usable.keeps {t t' : Tree} {p : FilePath} (h : Usable t p) (hkeeps : t.Keeps t') :
    Usable t' p :=
  ⟨h.normal, hkeeps.status h.directory⟩

theorem probe_ok {t probed : Tree} {p : FilePath} (h : probe t p = (probed, .ok ())) :
    ∃ made touched, t.makeDirectories p = (made, .ok ()) ∧
    made.touch (p.child probeName) = .ok touched ∧
      touched.remove (p.child probeName) = .ok probed := by
  unfold probe at h
  split at h
  · cases h
  · rename_i made hmade
    split at h
    · cases h
    · rename_i touched htouched
      split at h
      · cases h
      · rename_i removed hremoved
        obtain ⟨rfl, -⟩ := Prod.mk.inj h
        exact ⟨made, touched, hmade, htouched, hremoved⟩

/-- A directory that the check accepts can be used. -/
theorem probe_usable {t probed : Tree} {p : FilePath} (hp : p.Normal)
    (h : probe t p = (probed, .ok ())) : Usable probed p := by
  obtain ⟨made, touched, -, -, hremoved⟩ := probe_ok h
  obtain ⟨hnul, ⟨location, hlocate⟩, hkeeps⟩ := Tree.remove_ok hremoved
  exact ⟨hp, hkeeps.status (Tree.status_of_locate_child (by decide) hnul hlocate)⟩

/-- A probe that fails has made directories at most: either no file was touched, or what was touched
is no file. -/
theorem probe_error_grown {t probed : Tree} {p : FilePath} {fault : Fault}
    (h : probe t p = (probed, .error fault)) :
    t.Grown probed (p.locations t.home) := by
  have hmade := t.grown_makeDirectories p
  unfold probe at h
  split at h
  · rename_i made fault' hmake
    rw [hmake] at hmade
    obtain ⟨rfl, -⟩ := Prod.mk.inj h
    exact hmade
  · rename_i made hmake
    rw [hmake] at hmade
    split at h
    · obtain ⟨rfl, -⟩ := Prod.mk.inj h
      exact hmade
    · rename_i touched htouched
      split at h
      · rename_i fault' hremoved
        obtain ⟨rfl, -⟩ := Prod.mk.inj h
        rwa [Tree.touch_remove_error htouched hremoved]
      · cases h

/-- A probe that succeeds leaves no file of its name, even if there was one. -/
theorem probe_ok_entry {t probed : Tree} {p : FilePath} (h : probe t p = (probed, .ok ())) :
    let place := (p.child probeName).resolve t.home
    probed.home = t.home ∧ probed.entry? place = none ∧ t.entry? place ≠ some .directory ∧
      ∀ location, location ≠ place → t.KeptOrMade probed (p.locations t.home) location := by
  obtain ⟨made, touched, hmake, htouched, hremoved⟩ := probe_ok h
  have hmade := t.grown_makeDirectories p
  rw [hmake] at hmade
  obtain ⟨hhome, hfree, hentry⟩ := Tree.entry?_touch_remove htouched hremoved
  rw [hmade.home] at hhome hfree hentry
  refine ⟨hhome,
    by rw [hentry, if_pos rfl], hmade.entry_of_ne hfree ▸ hfree, fun location hne => ?_⟩
  rw [Tree.KeptOrMade, hentry, if_neg hne]
  exact hmade.entry location

/-- Whether the check finds no error in a directory. -/
def Accepts (t : Tree) (directory : String) : Prop :=
  ∃ findings, (checkDirectory t directory).2 = .ok findings ∧ findings.isValid

/-- The check accepts what is probed with success. If it does not accept a directory, then it did
not come to probe it, or probing it failed. -/
theorem checkDirectory_cases (t : Tree) (directory : String) :
    Accepts t directory ∧ probe t (.ofText directory) = ((checkDirectory t directory).1, .ok ()) ∨
    ¬ Accepts t directory ∧ ((checkDirectory t directory).1 = t ∨
      ∃ fault, probe t (.ofText directory) = ((checkDirectory t directory).1, .error fault)) := by
  -- a finding that is an error makes the check fail
  have hrefused (f : Findings) (message : String) : ¬ ∃ findings,
      (.ok (f.addError message) : Except Failure Findings) = .ok findings ∧ findings.isValid := by
    rintro ⟨findings, hfindings, hvalid⟩
    obtain rfl := Except.ok.inj hfindings
    cases hvalid
  unfold Accepts checkDirectory
  split
  · exact .inr ⟨hrefused _ _, .inl rfl⟩
  · dsimp only
    split
    · exact .inr ⟨by simp, .inl rfl⟩
    · exact .inr ⟨hrefused _ _, .inl rfl⟩
    · split
      · rename_i probed hprobe
        refine .inl ⟨⟨_, rfl, ?_⟩, hprobe⟩
        split <;> rfl
      · rename_i probed fault hprobe
        split
        · exact .inr ⟨hrefused _ _, .inr ⟨fault, hprobe⟩⟩
        · exact .inr ⟨by simp, .inr ⟨fault, hprobe⟩⟩

theorem checkDirectory_valid {t checked : Tree} {directory : String} {findings : Findings}
    (h : checkDirectory t directory = (checked, .ok findings)) (hvalid : findings.isValid) :
    probe t (.ofText directory) = (checked, .ok ()) := by
  have haccepts : Accepts t directory := ⟨findings, congrArg Prod.snd h, hvalid⟩
  obtain ⟨-, hprobe⟩ | ⟨hnot, -⟩ := checkDirectory_cases t directory
  · rw [hprobe, h]
  · exact absurd haccepts hnot

/-- The check leaves all files as they are and adds directories on the path only, unless it accepts
a directory in which there is a file that has the name of the probe: that file is gone then, and
nothing else. -/
theorem checkDirectory_grown_iff (t : Tree) (directory : String) :
    let p := FilePath.ofText directory
    let place := (p.child probeName).resolve t.home
    let checked := (checkDirectory t directory).1
    (t.Grown checked (p.locations t.home) ↔
      ¬ (Accepts t directory ∧ ∃ content, t.entry? place = some (.file content))) ∧
    (Accepts t directory → checked.entry? place = none) ∧
    ∀ location, location ≠ place → t.KeptOrMade checked (p.locations t.home) location := by
  intro p place checked
  obtain ⟨haccepts, hprobe⟩ | ⟨hnot, hchecked⟩ := checkDirectory_cases t directory
  · obtain ⟨hhome, (hgone : checked.entry? place = none), hfree, hother⟩ := probe_ok_entry hprobe
    refine ⟨⟨?_, fun hclear => ⟨hhome, fun location => ?_⟩⟩, fun _ => hgone, hother⟩
    · -- a file in the place of the probe is gone, which is no growth
      rintro hgrown ⟨-, content, hfile⟩
      have hkept : checked.entry? place = t.entry? place := hgrown.entry_of_ne (by simp [hgone])
      rw [hgone, hfile] at hkept
      cases hkept
    · by_cases hlocation : location = place
      · subst hlocation
        cases hentry : t.entry? place with
        | none => exact .inl (hgone.trans hentry.symm)
        | some entry =>
          cases entry with
          | file content => exact absurd ⟨haccepts, content, hentry⟩ hclear
          | directory => exact absurd hentry hfree
      · exact hother location hlocation
  · have hgrown : t.Grown checked (p.locations t.home) := by
      obtain (hsame : checked = t) | ⟨fault, hprobe⟩ := hchecked
      · rw [hsame]
        exact .refl t _
      · exact probe_error_grown hprobe
    exact ⟨iff_of_true hgrown fun h => hnot h.1, fun h => absurd h hnot,
      fun location _ => hgrown.entry location⟩

/-- An output directory with an old file of the probe's name in it. -/
def triedBefore : Tree where
  home := ["work"]
  entries := [(["work"], .directory), (["work", "out"], .directory),
    (["work", "out", ".write_test"], .file [111, 108, 100])]
  refusal := none

theorem triedBefore_file_gone :
    triedBefore.entry? ["work", "out", ".write_test"] = some (.file [111, 108, 100]) ∧
      Tree.entry? (checkDirectory triedBefore "out").1 ["work", "out", ".write_test"] = none := by
  let p : FilePath := ⟨"", ["out"]⟩
  have hfile :
      triedBefore.entry? ["work", "out", ".write_test"] = some (.file [111, 108, 100]) := by decide
  have hp : FilePath.ofText "out" = p := by decide +kernel
  have hstatus : triedBefore.status p = .ok .directory :=
    Tree.status_directory_iff.mpr ⟨by simp [p, Tree.hasNul], ["work", "out"], by rfl, by decide⟩
  have hnul : Tree.hasNul (p.child probeName) = false := by
    simp [p, Tree.hasNul, FilePath.child, probeName]
  have hlocate : triedBefore.locate (p.child probeName) = .ok ["work", "out", ".write_test"] := by
    rfl
  have htouch : triedBefore.touch (p.child probeName) = .ok triedBefore := by
    simp only [Tree.touch, Tree.status, hnul, hlocate, hfile]
    rfl
  have hremove := Tree.remove_ok_iff.mpr ⟨hnul, _, _, hlocate, hfile, rfl⟩
  refine ⟨hfile, ?_⟩
  have hprobe :
      probe triedBefore p = (triedBefore.erase ["work", "out", ".write_test"], .ok ()) := by
    simp only [probe, Tree.makeDirectories_of_directory hstatus, htouch, hremove]
  have hquery : triedBefore.query? p = .ok (some .directory) := by simp only [Tree.query?, hstatus]
  have hchecked :
      (checkDirectory triedBefore "out").1 = triedBefore.erase ["work", "out", ".write_test"] := by
    simp [checkDirectory, hp, hquery, hprobe]
  rw [hchecked]
  decide

theorem prepareDirectory_usable {t : Tree} {directory : String} {p : FilePath}
    (h : (prepareDirectory t directory).outcome = .ok p) :
    Usable (prepareDirectory t directory).tree p := by
  unfold prepareDirectory at h ⊢
  split at h
  · cases h
  · rename_i checked findings hcheck
    dsimp only at h ⊢
    by_cases hvalid : findings.isValid
    · rw [if_pos hvalid] at h ⊢
      obtain rfl := Except.ok.inj h
      exact probe_usable (FilePath.ofText_normal directory) (checkDirectory_valid hcheck hvalid)
    · rw [if_neg hvalid] at h
      cases h

end CatalogEntities.Generation
