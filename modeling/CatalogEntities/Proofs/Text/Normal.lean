import CatalogEntities.Proofs.Assoc
import CatalogEntities.Proofs.Text.Capital
import CatalogEntities.Text.Normal

/-!
The normal form of identifiers. ASCII stays as it is, and an underscore at the start of a text stays
there and has nothing to do with what is behind it. Nothing else gets an underscore in front, except
low lines of other shapes, and these are neither letters nor numerals.

Main results: `nfkc_of_isAscii`, `nfkc_underscore`, `nfkc_head`.
-/

namespace CatalogEntities.Text

variable {c d : Char} {cs : List Char}

/-! ### Forms -/

instance (table : CharTable) (code : Nat) : Decidable (table.Holds code) :=
  inferInstanceAs (Decidable (∃ range ∈ table, range.1 ≤ code ∧ code ≤ range.2))

/-- The underscore, and all that is decomposed into low lines. -/
def lowLines : CharTable := [(0x5f, 0x5f), (0xfe33, 0xfe34), (0xfe4d, 0xfe4f), (0xff3f, 0xff3f)]

theorem lowLines_apart : CharTable.apart (lowLines.drop 1)
    ([(0, 127)] ++ letterTable ++ numeralTable ++ identifierStartExtra) := by decide +kernel

/-- A form of a run or of a block is not empty, and only low lines have one with an underscore. -/
theorem formTables_parts :
    (∀ run ∈ formRuns, run.2.2 ≤ 0x5f → 0x5f - run.2.2 ≤ run.2.1 - run.1 →
      lowLines.Holds (run.1 + (0x5f - run.2.2))) ∧
    ∀ block ∈ formBlocks, ∀ entry ∈ block.2.zipIdx, entry.1 ≠ [] ∧
      (0x5f ∈ entry.1 → lowLines.Holds (block.1 + entry.2)) := by decide +kernel

theorem form?_some {n : Nat} {form : List Nat} (h : form? n = some form) :
    form ≠ [] ∧ (0x5f ∈ form → lowLines.Holds n) := by
  unfold form? at h
  split at h
  · obtain rfl := Option.some.inj h
    refine ⟨by simp [syllableLetters], fun hmem => ?_⟩
    simp only [syllableLetters, List.mem_append, List.mem_cons, List.not_mem_nil, or_false] at hmem
    split at hmem <;> simp at hmem <;> omega
  · split at h
    · rename_i found hrun
      obtain rfl := Option.some.inj h
      obtain ⟨run, hmem, himage⟩ := List.exists_of_findSome?_eq_some hrun
      simp only [FormRun.image?, Bool.and_eq_true, decide_eq_true_eq] at himage
      split at himage
      · rename_i hrange
        obtain rfl := Option.some.inj himage
        refine ⟨List.cons_ne_nil _ _, fun hunderscore => ?_⟩
        have hcode : 0x5f = run.2.2 + (n - run.1) := List.mem_singleton.mp hunderscore
        have hlow := formTables_parts.1 run hmem (by omega) (by omega)
        rwa [show run.1 + (0x5f - run.2.2) = n by omega] at hlow
      · contradiction
    · obtain ⟨block, hmem, himage⟩ := List.exists_of_findSome?_eq_some h
      simp only [FormBlock.image?] at himage
      split at himage
      · rename_i hfirst
        have hentry : (form, n - block.1) ∈ block.2.zipIdx :=
          List.mem_zipIdx_iff_getElem?.mpr himage
        obtain ⟨hne, hlow⟩ := formTables_parts.2 block hmem _ hentry
        refine ⟨hne, fun hunderscore => ?_⟩
        have hheld := hlow hunderscore
        rwa [show block.1 + (n - block.1) = n by omega] at hheld
      · contradiction

theorem eq_underscore_of_ofNat {code : Nat} (h : Char.ofNat code = '_') : code = 0x5f := by
  by_cases hvalid : code.isValidChar
  · rw [Char.ofNat, dif_pos hvalid] at h
    exact congrArg Char.toNat h
  · rw [Char.ofNat, dif_neg hvalid] at h
    exact absurd h (by decide)

theorem decompose_of_isAscii (h : isAscii c) : decompose c = [c] := if_pos h

theorem decompose_ne_nil (c : Char) : decompose c ≠ [] := by
  unfold decompose
  split
  · exact List.cons_ne_nil _ _
  · split
    · rename_i form hform
      exact fun hnil => (form?_some hform).1 (List.map_eq_nil_iff.mp hnil)
    · exact List.cons_ne_nil _ _

theorem lowLines_of_mem_decompose (h : '_' ∈ decompose c) : lowLines.has c := by
  unfold decompose at h
  split at h
  · obtain rfl := List.mem_singleton.mp h
    decide
  · split at h
    · rename_i form hform
      obtain ⟨code, hcode, hchar⟩ := List.mem_map.mp h
      obtain rfl := eq_underscore_of_ofNat hchar
      exact CharTable.has_iff.mpr ((form?_some hform).2 hcode)
    · obtain rfl := List.mem_singleton.mp h
      decide

/-- What names start with is no low line. -/
theorem not_lowLines (hne : c ≠ '_') (h : isLetterOrNumeral c ∨ startsIdentifier c) :
    ¬ lowLines.has c := by
  rw [CharTable.has_iff]
  intro hlow
  have hsplit : (CharTable.ofCodes [0x5f] ++ lowLines.drop 1).Holds c.toNat := hlow
  rcases CharTable.holds_append.mp hsplit with ⟨range, hrange, hfirst, hlast⟩ | hother
  · obtain rfl := List.mem_singleton.mp hrange
    exact hne (Char.toNat_inj.mp (Nat.le_antisymm hlast hfirst))
  · have hnone := CharTable.not_holds_of_apart lowLines_apart hother
    simp only [CharTable.holds_append, not_or] at hnone
    obtain ⟨⟨⟨hascii, hletter⟩, hnumeral⟩, hextra⟩ := hnone
    have hascii' : ¬ isAscii c := fun hascii' => hascii (CharTable.holds_ascii hascii')
    rw [← CharTable.has_iff] at hletter hnumeral hextra
    simp [isLetterOrNumeral, isLetter, isNumeral, startsIdentifier, hascii', hletter, hnumeral,
      hextra, hne] at h

/-! ### Order -/

theorem combiningClass_of_isAscii (h : isAscii c) : combiningClass c = 0 := if_pos h

theorem insertMark_of_class (h : combiningClass c = 0) (cs : List Char) :
    insertMark c cs = c :: cs := by
  cases cs with
  | nil => rfl
  | cons d rest => exact if_neg (by omega)

theorem orderMarks_cons (c : Char) (cs : List Char) :
    orderMarks (c :: cs) = insertMark c (orderMarks cs) := rfl

/-- What a mark is put behind are marks. -/
theorem insertMark_head (c : Char) (cs : List Char) :
    ∃ d rest, insertMark c cs = d :: rest ∧ (d = c ∨ combiningClass d ≠ 0) := by
  cases cs with
  | nil => exact ⟨c, [], rfl, .inl rfl⟩
  | cons d rest =>
    rw [insertMark]
    split
    · rename_i h
      exact ⟨d, insertMark c rest, rfl, .inr (Nat.ne_of_gt h.1)⟩
    · exact ⟨c, d :: rest, rfl, .inl rfl⟩

/-! ### Composition -/

/-- No character is composed with an underscore, or to one. -/
theorem compositionRows_parts :
    ∀ row ∈ compositionRows, ∀ pair ∈ row.2, pair.1 ≠ 0x5f ∧ pair.2 ≠ 0x5f := by
  decide +kernel

theorem composite?_ne_underscore (c d : Char) : composite? c d ≠ some '_' := by
  intro h
  unfold composite? at h
  split at h
  · contradiction
  · split at h
    · rename_i code hsyllable
      have hcode := eq_underscore_of_ofNat (Option.some.inj h)
      unfold syllable? at hsyllable
      split at hsyllable
      · have := Option.some.inj hsyllable
        omega
      · split at hsyllable
        · rename_i hsyllable'
          have := Option.some.inj hsyllable
          simp only [isSyllable, Bool.and_eq_true, decide_eq_true_eq] at hsyllable'
          omega
        · contradiction
    · obtain ⟨code, hcode, hchar⟩ := Option.map_eq_some_iff.mp h
      obtain rfl := eq_underscore_of_ofNat hchar
      obtain ⟨firsts, hrow, hpair⟩ := Option.bind_eq_some_iff.mp hcode
      exact (compositionRows_parts _ (Assoc.mem_of_get? hrow) _ (Assoc.mem_of_get? hpair)).2 rfl

theorem composite?_underscore (d : Char) : composite? '_' d = none := by
  unfold composite?
  split
  · rfl
  · have hsyllable : syllable? '_'.toNat d.toNat = none := rfl
    rw [hsyllable]
    dsimp only
    rw [Option.map_eq_none_iff, Option.bind_eq_none_iff]
    intro firsts hrow
    by_contra hsome
    obtain ⟨code, hpair⟩ := Option.ne_none_iff_exists'.mp hsome
    exact (compositionRows_parts _ (Assoc.mem_of_get? hrow) _ (Assoc.mem_of_get? hpair)).1 rfl

theorem composite?_of_isAscii (c : Char) (h : isAscii d) : composite? c d = none := if_pos h

/-- A character that is composed with nothing behind it stays apart from that. -/
theorem composeFrom_of_none (h : ∀ d ∈ cs, composite? c d = none) (stayed : List Char) :
    composeFrom c stayed cs = c :: (stayed.reverse ++ compose cs) := by
  induction cs generalizing stayed with
  | nil => simp [composeFrom, compose]
  | cons d rest ih =>
    have hnone : (if isShutOff stayed d then none else composite? c d) = none := by
      rw [h d List.mem_cons_self, ite_self]
    have hrest := ih fun e he => h e (List.mem_cons_of_mem d he)
    rw [composeFrom, hnone, compose]
    dsimp only
    split
    · rfl
    · rw [hrest, List.reverse_cons, List.append_assoc, List.singleton_append]

theorem composeFrom_head (c : Char) (stayed cs : List Char) :
    ∃ d rest, composeFrom c stayed cs = d :: rest ∧ (d = '_' → c = '_') := by
  induction cs generalizing c stayed with
  | nil => exact ⟨c, stayed.reverse, rfl, id⟩
  | cons e rest ih =>
    rw [composeFrom]
    split
    · rename_i whole hwhole
      obtain ⟨d, more, hmore, hd⟩ := ih whole stayed
      refine ⟨d, more, hmore, fun hunderscore => ?_⟩
      rw [hd hunderscore] at hwhole
      split at hwhole
      · contradiction
      · exact absurd hwhole (composite?_ne_underscore c e)
    · split
      · exact ⟨c, _, rfl, id⟩
      · exact ih c (e :: stayed)

theorem compose_head (c : Char) (cs : List Char) :
    ∃ d rest, compose (c :: cs) = d :: rest ∧ (d = '_' → c = '_') := by
  rw [compose]
  split
  · exact composeFrom_head c [] cs
  · exact ⟨c, compose cs, rfl, id⟩

/-! ### Normal forms -/

theorem nfkc_toList (text : String) :
    (nfkc text).toList = compose (orderMarks (text.toList.flatMap decompose)) :=
  String.toList_ofList

theorem orderMarks_of_isAscii (h : ∀ c ∈ cs, isAscii c) : orderMarks cs = cs := by
  induction cs with
  | nil => rfl
  | cons c rest ih =>
    rw [orderMarks_cons, ih fun d hd => h d (List.mem_cons_of_mem c hd),
      insertMark_of_class (combiningClass_of_isAscii (h c List.mem_cons_self))]

theorem compose_of_isAscii (h : ∀ c ∈ cs, isAscii c) : compose cs = cs := by
  induction cs with
  | nil => rfl
  | cons c rest ih =>
    have hrest : ∀ d ∈ rest, isAscii d := fun d hd => h d (List.mem_cons_of_mem c hd)
    rw [compose, if_pos (combiningClass_of_isAscii (h c List.mem_cons_self)),
      composeFrom_of_none (fun d hd => composite?_of_isAscii c (hrest d hd)), ih hrest]
    rfl

theorem nfkc_of_isAscii {text : String} (h : text.toList.all isAscii) : nfkc text = text := by
  rw [List.all_eq_true] at h
  have hforms : text.toList.flatMap decompose = text.toList := by
    rw [List.flatMap_congr fun c hc => decompose_of_isAscii (h c hc), List.flatMap_singleton']
  rw [nfkc, hforms, orderMarks_of_isAscii h, compose_of_isAscii h, String.ofList_toList]

/-- An underscore in front is left alone, and leaves the rest alone. -/
theorem nfkc_underscore {text rest : String} (h : text.toList = '_' :: rest.toList) :
    (nfkc text).toList = '_' :: (nfkc rest).toList := by
  have hmark : combiningClass '_' = 0 := combiningClass_of_isAscii (by decide)
  rw [nfkc_toList, nfkc_toList, h, List.flatMap_cons, decompose_of_isAscii (by decide),
    List.singleton_append, orderMarks_cons, insertMark_of_class hmark, compose, if_pos hmark,
    composeFrom_of_none fun d _ => composite?_underscore d]
  rfl

/-- A normal form starts with an underscore only if the text starts with a low line; and it is not
empty. -/
theorem nfkc_head {text : String} {cs : List Char} (h : text.toList = c :: cs) :
    ∃ d rest, (nfkc text).toList = d :: rest ∧ (d = '_' → lowLines.has c) := by
  obtain ⟨first, form, hform⟩ := List.exists_cons_of_ne_nil (decompose_ne_nil c)
  have hdecomposed : text.toList.flatMap decompose = first :: (form ++ cs.flatMap decompose) := by
    rw [h, List.flatMap_cons, hform, List.cons_append]
  obtain ⟨mark, ordered, hordered, hmark⟩ :=
    insertMark_head first (orderMarks (form ++ cs.flatMap decompose))
  obtain ⟨d, rest, hcomposed, hd⟩ := compose_head mark ordered
  refine ⟨d, rest, ?_, fun hunderscore => ?_⟩
  · rw [nfkc_toList, hdecomposed, orderMarks_cons, hordered, hcomposed]
  · obtain rfl := hd hunderscore
    rcases hmark with hfirst | hclass
    · exact lowLines_of_mem_decompose (hform ▸ hfirst ▸ List.mem_cons_self)
    · exact absurd (combiningClass_of_isAscii (by decide)) hclass

/-- Letters of full width and raised letters are letters. -/
example : nfkc "ｓａ" = "sa" ∧ nfkc "ᵐro" = "mro" ∧ nfkc "e\u0301t" = "ét" := by decide +kernel

end CatalogEntities.Text
