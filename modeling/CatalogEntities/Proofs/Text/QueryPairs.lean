import CatalogEntities.Proofs.Text.Percent

/-!
The pairs of a query: those that are written are read again, pairs with blank values are those that
a strict reader leaves out, and blanks behind a query belong to its last piece.

Main results: `Percent.queryPairs_joinWith`, `Percent.queryPairs_false`, `Percent.exists_lastPiece`.
-/

namespace CatalogEntities.Text.Percent

/-! ### Forms -/

theorem not_mem_encodeForm {c : Char} (hreserved : isUnreserved c = false) (hmark : c ∉ ['%', '+'])
    (cs : List Char) :
    c ∉ encodeForm cs := by
  simp only [List.mem_cons, List.not_mem_nil, or_false, not_or] at hmark
  intro h
  obtain ⟨d, hd, hshown⟩ := List.mem_map.mp h
  split at hshown
  · exact hmark.2 hshown.symm
  · rename_i hspace
    subst hshown
    exact not_mem_encode hreserved (by simpa using hspace) hmark.1 cs hd

theorem encodeForm_ne_nil {cs : List Char} (h : cs ≠ []) : encodeForm cs ≠ [] := by
  rw [encodeForm, ne_eq, List.map_eq_nil_iff]
  exact encode_ne_nil _ h

theorem decodeForm_encodeForm (cs : List Char) : decodeForm (encodeForm cs) = cs := by
  have hback : ∀ c ∈ encode [' '] cs, (if (if c == ' ' then '+' else c) == '+' then ' '
      else if c == ' ' then '+' else c) = c := by
    intro c hc
    have hplus : c ≠ '+' :=
      ne_of_mem_of_not_mem hc (not_mem_encode (by decide) (by decide) (by decide) _)
    by_cases hspace : c = ' '
    · simp [hspace]
    · simp [hspace, hplus]
  have hsafe : IsSafe [' '] := isSafe_of_all (by decide)
  have hmap := List.map_congr_left hback
  rw [decodeForm, encodeForm, List.map_map]
  exact (congrArg decode (hmap.trans (List.map_id' _))).trans (decode_encode hsafe cs)

theorem decodeForm_ne_nil {cs : List Char} (h : cs ≠ []) : decodeForm cs ≠ [] :=
  decode_ne_nil (by simpa using h)

theorem decodeForm_blank {c : Char} (h : isBlank c) (xs ys : List Char) :
    decodeForm (xs ++ c :: ys) = decodeForm xs ++ c :: decodeForm ys := by
  have hplus : ¬ (c == '+') := by
    rintro he
    rw [eq_of_beq he] at h
    contradiction
  rw [decodeForm, List.map_append, List.map_cons, if_neg hplus, decode_blank h,
    decodeForm, decodeForm]

/-! ### Pairs -/

theorem queryPair?_encodePair (key : String) {value : String} (h : value ≠ "") :
    queryPair? false (encodePair key value).toList = some (key, value) := by
  have htext :
      (encodePair key value).toList = encodeForm key.toList ++ '=' :: encodeForm value.toList := by
    simp [encodePair, onChars]
  have hkey : '=' ∉ encodeForm key.toList := not_mem_encodeForm (by decide) (by decide) _
  have hvalue : (encodeForm value.toList).isEmpty = false := by
    simpa using encodeForm_ne_nil (by simpa using h)
  have hsome : (encodeForm key.toList ++ '=' :: encodeForm value.toList).isEmpty = false := by simp
  rw [queryPair?, htext, cut?_append hkey, hsome]
  simp only [Option.getD_some, hvalue, decodeForm_encodeForm, String.ofList_toList, Bool.false_and,
    Bool.or_self, Bool.false_eq_true, ↓reduceIte]

/-- Written pairs are read again. -/
theorem queryPairs_joinWith {pairs : List (String × String)} (h : ∀ pair ∈ pairs, pair.2 ≠ "") :
    queryPairs false (joinWith "&" (pairs.map fun pair => encodePair pair.1 pair.2)).toList =
      pairs := by
  have hpiece (pair : String × String) : '&' ∉ (encodePair pair.1 pair.2).toList := by
    have hform (s : String) : '&' ∉ encodeForm s.toList :=
      not_mem_encodeForm (by decide) (by decide) _
    simpa [encodePair, onChars] using ⟨hform _, hform _⟩
  induction pairs with
  | nil => rfl
  | cons pair rest ih =>
    obtain ⟨hpair, hrest⟩ := List.forall_mem_cons.mp h
    have hread := queryPair?_encodePair pair.1 hpair
    cases rest with
    | nil =>
      rw [List.map_singleton, joinWith, String.intercalate_singleton, queryPairs,
        splitAt_of_not_mem (hpiece pair), List.filterMap_cons_some hread, List.filterMap_nil]
    | cons next more =>
      have htext :
          (joinWith "&" ((pair :: next :: more).map fun pair => encodePair pair.1 pair.2)).toList =
          (encodePair pair.1 pair.2).toList ++
            '&' :: (joinWith "&"
              ((next :: more).map fun pair => encodePair pair.1 pair.2)).toList := by
        rw [List.map_cons, List.map_cons, joinWith_cons, String.toList_append, String.toList_append]
        rfl
      rw [htext, queryPairs, splitAt_append (hpiece pair), List.filterMap_cons_some hread,
        ← queryPairs, ih hrest]

/-- Besides the marks of a query, written pairs only have unreserved characters. -/
theorem not_mem_joinWith {c : Char} (hreserved : isUnreserved c = false)
    (hmark : c ∉ ['%', '+', '=', '&']) (pairs : List (String × String)) :
    c ∉ (joinWith "&" (pairs.map fun pair => encodePair pair.1 pair.2)).toList := by
  simp only [List.mem_cons, List.not_mem_nil, or_false, not_or] at hmark
  obtain ⟨hpercent, hplus, hequals, hand⟩ := hmark
  have hpiece (pair : String × String) : c ∉ (encodePair pair.1 pair.2).toList := by
    have hform (s : String) : c ∉ encodeForm s.toList :=
      not_mem_encodeForm hreserved (by simp [hpercent, hplus]) _
    simpa [encodePair, onChars] using ⟨hform _, hequals, hform _⟩
  induction pairs with
  | nil => exact List.not_mem_nil
  | cons pair rest ih =>
    cases rest with
    | nil =>
      rw [List.map_singleton, joinWith, String.intercalate_singleton]
      exact hpiece pair
    | cons next more =>
      rw [List.map_cons, List.map_cons, joinWith_cons]
      rw [List.map_cons] at ih
      simpa using ⟨hpiece pair, hand, ih⟩

theorem queryPair?_of_not_mem {cs : List Char} (h : '=' ∉ cs) : queryPair? false cs = none := by
  simp [queryPair?, cut?_of_not_mem h]

theorem queryPair?_false (cs : List Char) :
    queryPair? false cs = (queryPair? true cs).filter (·.2 ≠ "") := by
  unfold queryPair?
  obtain ⟨key, value⟩ := (cut? '=' cs).getD (cs, [])
  by_cases hcs : cs.isEmpty
  · simp [hcs]
  · by_cases hvalue : value = []
    · have hblank : decodeForm [] = [] := rfl
      simp [hcs, hvalue, hblank, Option.filter]
    · have hkept : String.ofList (decodeForm value) ≠ "" := by simpa using decodeForm_ne_nil hvalue
      simp [hcs, hvalue, hkept, Option.filter]

/-- Without blank values, the pairs are those that have none. -/
theorem queryPairs_false (cs : List Char) :
    queryPairs false cs = (queryPairs true cs).filter (·.2 ≠ "") := by
  rw [queryPairs, queryPairs, List.filter_filterMap]
  exact congrArg (fun read => (splitAt '&' cs).filterMap read) (funext queryPair?_false)

/-- What is put behind a query belongs to its last piece. -/
theorem exists_lastPiece (query : List Char) : ∃ front last,
    (∀ tail, '&' ∉ tail → splitAt '&' (query ++ tail) = front ++ [last ++ tail]) ∧
      (last = [] ↔ query = [] ∨ query.getLast? = some '&') := by
  cases hcut : cutLast? '&' query with
  | none =>
    have hnone := cutLast?_eq_none_iff.mp hcut
    refine ⟨[], query, fun tail htail => ?_, ⟨Or.inl, ?_⟩⟩
    · have hall : '&' ∉ query ++ tail := by simpa using ⟨hnone, htail⟩
      rw [splitAt_of_not_mem hall, List.nil_append]
    · rintro (h | h)
      · exact h
      · exact absurd (List.mem_of_getLast? h) hnone
  | some cut =>
    obtain ⟨before, last⟩ := cut
    obtain ⟨rfl, hlast⟩ := cutLast?_eq_some_iff.mp hcut
    refine ⟨splitAt '&' before, last, fun tail htail => ?_, ?_⟩
    · have hall : '&' ∉ last ++ tail := by simpa using ⟨hlast, htail⟩
      rw [List.append_assoc, List.cons_append, splitAt, splitWhere_separated (by decide),
        ← splitAt, ← splitAt, splitAt_of_not_mem hall]
    · constructor
      · rintro rfl
        simp
      · intro h
        cases hends : last.getLast? with
        | none => exact List.getLast?_eq_none_iff.mp hends
        | some c =>
          have hc : c ≠ '&' := ne_of_mem_of_not_mem (List.mem_of_getLast? hends) hlast
          simp [List.getLast?_append, List.getLast?_cons, hends, hc] at h

end CatalogEntities.Text.Percent
