import CatalogEntities.Files.Path
import CatalogEntities.Proofs.Text.Span

/-!
Paths and their texts. A path is read back from its text, so the path of a file below a directory
is that directory's path and the file's name.
-/

namespace CatalogEntities.Files.FilePath

open Text

/-- A name that one part of a path can be. -/
def PartName (name : String) : Prop := name ≠ "" ∧ name ≠ "." ∧ '/' ∉ name.toList

theorem PartName.plain {name : String} (h : PartName name) : ∀ c ∈ name.toList, ¬ (c == '/') := by
  intro c hc he
  exact h.2.2 (eq_of_beq he ▸ hc)

/-- Whether a name between separators is a part. -/
def isPart (name : String) : Bool := name != "" && name != "."

theorem PartName.isPart {name : String} (h : PartName name) : isPart name := by
  rw [FilePath.isPart, Bool.and_eq_true, bne_iff_ne, bne_iff_ne]
  exact ⟨h.1, h.2.1⟩

/-- A path as it is read from a text. -/
structure Normal (p : FilePath) : Prop where
  anchor : p.anchor = "" ∨ p.anchor = "/" ∨ p.anchor = "//"
  parts : ∀ part ∈ p.parts, PartName part

/-- The parts of a text. -/
def partsOf (cs : List Char) : List String :=
  ((splitAt '/' cs).map String.ofList).filter isPart

theorem ofText_normal (s : String) : (ofText s).Normal := by
  constructor
  · change anchorOf s.toList = "" ∨ anchorOf s.toList = "/" ∨ anchorOf s.toList = "//"
    unfold anchorOf
    split <;> simp
  · intro part hpart
    obtain ⟨hmem, hkept⟩ := List.mem_filter.mp hpart
    obtain ⟨piece, hpiece, rfl⟩ := List.mem_map.mp hmem
    rw [Bool.and_eq_true, bne_iff_ne, bne_iff_ne] at hkept
    refine ⟨hkept.1, hkept.2, fun hslash => ?_⟩
    rw [String.toList_ofList] at hslash
    exact not_separator_of_mem_splitWhere hpiece hslash BEq.rfl

theorem Normal.child {p : FilePath} (h : p.Normal) {name : String} (hname : PartName name) :
    (p.child name).Normal := by
  refine ⟨h.anchor, fun part hpart => ?_⟩
  rcases List.mem_append.mp hpart with hpart | hpart
  · exact h.parts part hpart
  · rwa [List.mem_singleton.mp hpart]

theorem partsOf_separator (cs : List Char) : partsOf ('/' :: cs) = partsOf cs := by
  rw [partsOf, splitAt, splitWhere_separator (p := (· == '/')) BEq.rfl]
  rfl

/-- The first name of a text, up to its first separator. -/
theorem partsOf_append {name : String} (h : PartName name) (rest : List Char) :
    partsOf (name.toList ++ '/' :: rest) = name :: partsOf rest := by
  have hsplit := splitWhere_append h.plain (splitWhere_separator (p := (· == '/')) BEq.rfl rest)
  rw [partsOf, splitAt, hsplit, List.append_nil, List.map_cons, String.ofList_toList,
    List.filter_cons_of_pos h.isPart]
  rfl

theorem partsOf_name {name : String} (h : PartName name) : partsOf name.toList = [name] := by
  have hsplit : splitWhere (· == '/') name.toList = [name.toList] := by
    simpa only [List.append_nil] using splitWhere_append h.plain (splitWhere.eq_1 (· == '/'))
  rw [partsOf, splitAt, hsplit, List.map_singleton, String.ofList_toList,
    List.filter_cons_of_pos h.isPart, List.filter_nil]

theorem partsOf_joinWith {names : List String} (h : ∀ name ∈ names, PartName name) :
    partsOf (joinWith "/" names).toList = names := by
  induction names with
  | nil => rfl
  | cons name rest ih =>
    have hname := h name List.mem_cons_self
    have hrest := ih fun name hname => h name (List.mem_cons_of_mem _ hname)
    cases rest with
    | nil => exact partsOf_name hname
    | cons next more =>
      rw [joinWith_cons, String.toList_append, String.toList_append]
      exact (partsOf_append hname _).trans (congrArg (name :: ·) hrest)

theorem joinWith_head {names : List String} (h : ∀ name ∈ names, PartName name) :
    (joinWith "/" names).toList.head? ≠ some '/' := by
  cases names with
  | nil => decide
  | cons name rest =>
    obtain ⟨hne, -, hplain⟩ := h name List.mem_cons_self
    have hhead : (joinWith "/" (name :: rest)).toList.head? = name.toList.head? := by
      cases rest with
      | nil => rfl
      | cons next more =>
        rw [joinWith_cons, String.toList_append]
        have hchars : name.toList ≠ [] := by simpa using hne
        obtain ⟨c, cs, hcs⟩ := List.exists_cons_of_ne_nil hchars
        rw [hcs, List.cons_append, List.head?_cons, List.head?_cons]
    rw [hhead]
    exact fun hslash => hplain (List.mem_of_head? hslash)

theorem anchorOf_eq {cs : List Char} (h : cs.head? ≠ some '/') :
    anchorOf cs = "" ∧ anchorOf ('/' :: cs) = "/" ∧ anchorOf ('/' :: '/' :: cs) = "//" := by
  cases cs with
  | nil => decide
  | cons c rest =>
    have hc : c ≠ '/' := fun he => h (congrArg some he)
    simp [anchorOf, hc]

/-- A path is read back from its text. -/
theorem ofText_text {p : FilePath} (h : p.Normal) : ofText p.text = p := by
  obtain ⟨anchor, parts⟩ := p
  obtain ⟨hanchor, hparts⟩ := h
  have hread (cs : List Char) (hcs : cs = anchor.toList ++ (joinWith "/" parts).toList) :
      anchorOf cs = anchor ∧ partsOf cs = parts := by
    obtain ⟨hempty, hone, htwo⟩ := anchorOf_eq (joinWith_head hparts)
    have hjoined := partsOf_joinWith hparts
    subst hcs
    rcases hanchor with rfl | rfl | rfl
    · exact ⟨hempty, hjoined⟩
    · exact ⟨hone, (partsOf_separator _).trans hjoined⟩
    · exact ⟨htwo, (partsOf_separator _).trans ((partsOf_separator _).trans hjoined)⟩
  unfold text
  split
  · rename_i hpoint
    simp at hpoint
    obtain ⟨rfl, rfl⟩ := hpoint
    decide +kernel
  · obtain ⟨ha, hp⟩ := hread (anchor ++ joinWith "/" parts).toList String.toList_append
    change FilePath.mk (anchorOf _) (partsOf _) = _
    rw [ha, hp]

@[simp]
theorem parent_child (p : FilePath) (name : String) : (p.child name).parent = p := by
  rw [child, parent, List.dropLast_concat]

theorem child_text (p : FilePath) (name : String) :
    (p.child name).text = p.anchor ++ joinWith "/" (p.parts ++ [name]) := by
  simp [text, child]

theorem text_le_child (p : FilePath) {name : String} (h : name ≠ "") :
    p.text.utf8ByteSize ≤ (p.child name).text.utf8ByteSize := by
  have hname : name.utf8ByteSize ≠ 0 := fun hzero => h (String.utf8ByteSize_eq_zero_iff.mp hzero)
  rw [child_text]
  by_cases hparts : p.parts = []
  · rw [hparts, List.nil_append, joinWith, String.intercalate_singleton,
      String.utf8ByteSize_append, text]
    split
    · have hpoint : ".".utf8ByteSize = 1 := rfl
      omega
    · rw [hparts, String.utf8ByteSize_append, joinWith, String.intercalate_nil,
        String.utf8ByteSize_empty]
      omega
  · have htext : p.text = p.anchor ++ joinWith "/" p.parts := by simp [text, hparts]
    rw [htext, joinWith, joinWith,
      String.intercalate_append_of_ne_nil hparts (List.cons_ne_nil _ _)]
    simp only [String.utf8ByteSize_append]
    omega

end CatalogEntities.Files.FilePath
