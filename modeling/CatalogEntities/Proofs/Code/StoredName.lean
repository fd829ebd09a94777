import CatalogEntities.Proofs.Naming.EnumName

/-!
Names in the body of a class. Names are compared in normal form, and a class keeps a private one
with its own name in front.

Main result: `Code.storedName_eq_self_iff`.
-/

namespace CatalogEntities.Code

open Naming Text

/-- Whether a name in the body of a class is one for that class alone. -/
def isPrivateName (name : String) : Bool :=
  "__".toList.isPrefixOf name.toList && !"__".toList.isSuffixOf name.toList

/-- The name that a name in the text of a class stands for: its normal form. A private one gets the
class in front, without underscores that it starts with; a class of nothing but underscores has no
private names. -/
def storedName (className name : String) : String :=
  let owner := (nfkc className).toList.dropWhile (· == '_')
  if isPrivateName (nfkc name) && !owner.isEmpty then "_" ++ String.ofList owner ++ nfkc name
  else nfkc name

theorem storedName_eq {className : String} (h : Plain className) (name : String) :
    storedName className name =
    if isPrivateName (nfkc name) then "_" ++ nfkc className ++ nfkc name else nfkc name := by
  obtain ⟨c, rest, htext, hunderscore⟩ := h.unmarked_nfkc
  have howner : (nfkc className).toList.dropWhile (· == '_') = (nfkc className).toList := by
    rw [htext]
    exact List.dropWhile_cons_of_neg (by simpa using hunderscore)
  have hsome : (nfkc className).toList.isEmpty = false := by
    rw [htext]
    rfl
  simp only [storedName, howner, hsome, Bool.not_false, Bool.and_true, String.ofList_toList]

theorem storedName_of_plain {name : String} (h : Plain name) (className : String) :
    storedName className name = nfkc name := by
  obtain ⟨c, rest, htext, hunderscore⟩ := h.unmarked_nfkc
  have hpublic : isPrivateName (nfkc name) = false := by
    have hne : ('_' == c) = false := by simpa using Ne.symm hunderscore
    rw [isPrivateName, htext]
    show (('_' == c && _) && _) = false
    rw [hne, Bool.false_and, Bool.false_and]
  simp only [storedName, hpublic, Bool.false_and, Bool.false_eq_true, ↓reduceIte]

/-- A class keeps a name as it is written if that is a normal form and not private. With the class
in front it cannot be the name again: there is a letter behind the first underscore then, and not
another underscore. -/
theorem storedName_eq_self_iff {className name : String} (h : Plain className)
    (hname : ∀ c ∈ name.toList, isWordChar c) :
    storedName className name = name ↔ nfkc name = name ∧ ¬ isPrivateName name := by
  rw [storedName_eq h]
  split
  · rename_i hprivate
    refine iff_of_false (fun heq => ?_) ?_
    · obtain ⟨d, owner, howner, hne⟩ := h.unmarked_nfkc
      have htext :
          name.toList = '_' :: (String.ofList (d :: (owner ++ (nfkc name).toList))).toList := by
        rw [String.toList_ofList, ← List.cons_append, ← howner]
        conv_lhs => rw [← heq]
        simp [String.toList_append]
      have hsecond : ∃ rest,
          (nfkc (String.ofList (d :: (owner ++ (nfkc name).toList)))).toList = '_' :: rest := by
        rw [isPrivateName, nfkc_underscore htext, Bool.and_eq_true] at hprivate
        have hprefix := List.isPrefixOf_iff_prefix.mp hprivate.1
        obtain ⟨rest, hrest⟩ := (List.cons_prefix_cons.mp hprefix).2
        exact ⟨rest, hrest.symm⟩
      obtain ⟨rest, hrest⟩ := hsecond
      obtain ⟨e, more, hform, he⟩ := nfkc_head String.toList_ofList
      have hlow : lowLines.has d := he (List.cons.inj (hform.symm.trans hrest)).1
      have hword : isWordChar d := hname d (by rw [htext, String.toList_ofList]; simp)
      have hkind : isLetterOrNumeral d := by simpa [isWordChar, hne] using hword
      exact not_lowLines hne (.inl hkind) hlow
    · rintro ⟨hform, hpublic⟩
      exact hpublic (hform ▸ hprivate)
  · rename_i hpublic
    exact ⟨fun heq => ⟨heq, heq ▸ hpublic⟩, And.left⟩

/-- The micro sign is the letter mu, and a raised letter is the letter. -/
example : storedName "Scale" "µg" = "μg" ∧ storedName "Scale" "ª" = "a" ∧
    storedName "Scale" "__ª" = "_Scale__a" := by decide +kernel

end CatalogEntities.Code
