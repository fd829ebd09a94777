import CatalogEntities.Connection.Url
import CatalogEntities.Proofs.Assoc
import CatalogEntities.Proofs.Catalog
import CatalogEntities.Proofs.Text.QueryPairs

/-!
The values of a URL's query by key: what a query is read as, what a written query is read as again,
and when a query gives every key just the value that comes last.

Main results: `Url.queryOf_queryText`, `Url.collect_tail_iff`.
-/

namespace CatalogEntities.Connection.Url

open Text

/-- The values of a key in their order. -/
def valuesOf (pairs : List (String × String)) (key : String) : List String :=
  (pairs.filter (·.1 == key)).map (·.2)

/-- A key without values is no key. -/
def grouped (values : List String) : Option (List String) :=
  if values = [] then none else some values

/-- A query as its pairs, key by key. -/
def flatPairs (query : Assoc String (List String)) : List (String × String) :=
  query.flatMap fun (key, values) => values.map (key, ·)

/-- Every key has values, and none of these is blank. -/
structure Valued (query : Assoc String (List String)) : Prop where
  keys : query.keys.Nodup
  values : ∀ entry ∈ query, entry.2 ≠ []
  shown : ∀ entry ∈ query, "" ∉ entry.2

/-- A value is blank exactly if its key comes again. -/
def BlankUntilLast : List (String × String) → Prop
  | [] => True
  | (key, value) :: rest => (value = "" ↔ key ∈ rest.map (·.1)) ∧ BlankUntilLast rest

theorem valuesOf_cons (key value : String) (rest : List (String × String)) (name : String) :
    valuesOf ((key, value) :: rest) name =
      if key = name then value :: valuesOf rest name else valuesOf rest name := by
  simp only [valuesOf, List.filter_cons, beq_iff_eq]
  split <;> simp

theorem mem_valuesOf {pairs : List (String × String)} {key value : String} :
    value ∈ valuesOf pairs key ↔ (key, value) ∈ pairs := by
  simp [valuesOf]

/-- A value behind those that its key has already. -/
def addValue (m : Assoc String (List String)) (pair : String × String) :
    Assoc String (List String) :=
  m.put pair.1 ((m.get? pair.1).getD [] ++ [pair.2])

theorem collect_eq (pairs : List (String × String)) : collect pairs = pairs.foldl addValue [] := rfl

theorem get?_collect (pairs : List (String × String)) (key : String) :
    (collect pairs).get? key = grouped (valuesOf pairs key) := by
  have hfold (m : Assoc String (List String)) :
      Assoc.get? (pairs.foldl addValue m) key =
        if valuesOf pairs key = [] then m.get? key
        else some ((m.get? key).getD [] ++ valuesOf pairs key) := by
    induction pairs generalizing m with
    | nil => rfl
    | cons pair rest ih =>
      obtain ⟨k, v⟩ := pair
      rw [List.foldl_cons, ih, addValue, Assoc.get?_put, valuesOf_cons]
      by_cases hk : k = key
      · subst hk
        by_cases hrest : valuesOf rest k = [] <;> simp [hrest]
      · have hne : ¬ (key == k) := by simpa using Ne.symm hk
        simp [hk, hne]
  rw [collect_eq, hfold, grouped]
  rfl

/-! ### A written query -/

theorem valuesOf_append (xs ys : List (String × String)) (key : String) :
    valuesOf (xs ++ ys) key = valuesOf xs key ++ valuesOf ys key := by
  simp [valuesOf]

theorem valuesOf_flatPairs {query : Assoc String (List String)} (h : query.keys.Nodup)
    (key : String) :
    valuesOf (flatPairs query) key = (query.get? key).getD [] := by
  induction query with
  | nil => rfl
  | cons entry rest ih =>
    obtain ⟨k, vs⟩ := entry
    obtain ⟨hk, hrest⟩ := List.nodup_cons.mp h
    have hfirst : valuesOf (vs.map (k, ·)) key = if k = key then vs else [] := by
      by_cases hkey : k = key <;> simp [valuesOf, List.filter_map, Function.comp_def, hkey]
    have hcons : flatPairs ((k, vs) :: rest) = vs.map (k, ·) ++ flatPairs rest := List.flatMap_cons
    rw [hcons, valuesOf_append, hfirst, ih hrest]
    by_cases hkey : k = key
    · subst hkey
      have hnone : Assoc.get? rest k = none := Assoc.get?_eq_none_iff.mpr hk
      rw [hnone]
      simp [Assoc.get?]
    · have hne : ¬ (key == k) := by simpa using Ne.symm hkey
      simp [Assoc.get?, List.lookup_cons, hkey, hne]

theorem get?_perm {query query' : Assoc String (List String)} (h : query.Perm query')
    (hkeys : query.keys.Nodup) (key : String) : query'.get? key = query.get? key := by
  have hkeys' : query'.keys.Nodup := (h.map Prod.fst).nodup_iff.mp hkeys
  refine Option.ext fun values => ?_
  rw [Assoc.get?_eq_some_iff hkeys', Assoc.get?_eq_some_iff hkeys, h.mem_iff]

theorem queryText_toList {query : Assoc String (List String)} (h : query ≠ []) :
    (queryText query).toList = '?' :: (joinWith "&" ((flatPairs (Catalog.sortByKey (·.1) query)).map
      fun pair => Percent.encodePair pair.1 pair.2)).toList := by
  have htext : queryText query = "?" ++ joinWith "&"
      ((flatPairs (Catalog.sortByKey (·.1) query)).map fun pair =>
        Percent.encodePair pair.1 pair.2) := by
    simp [queryText, flatPairs, h, List.map_flatMap, Function.comp_def]
  rw [htext, String.toList_append]
  rfl

theorem not_mem_queryText {c : Char} (hreserved : Percent.isUnreserved c = false)
    (hmark : c ∉ ['%', '+', '=', '&', '?']) (query : Assoc String (List String)) :
    c ∉ (queryText query).toList := by
  by_cases hquery : query = []
  · subst hquery
    exact List.not_mem_nil
  · simp only [List.mem_cons, List.not_mem_nil, or_false, not_or] at hmark
    obtain ⟨hpercent, hplus, hequals, hand, hquestion⟩ := hmark
    rw [queryText_toList hquery, List.mem_cons, not_or]
    exact ⟨hquestion,
      Percent.not_mem_joinWith hreserved (by simp [hpercent, hplus, hequals, hand]) _⟩

theorem queryOf_queryText {query : Assoc String (List String)} (h : Valued query) (key : String) :
    (queryOf (queryText query).toList).get? key = query.get? key := by
  have hperm := (Catalog.sortByKey_perm (·.1) query).symm
  by_cases hquery : query = []
  · subst hquery
    rfl
  · have hshown : ∀ pair ∈ flatPairs (Catalog.sortByKey (·.1) query), pair.2 ≠ "" := by
      intro pair hpair
      obtain ⟨entry, hentry, hin⟩ := List.mem_flatMap.mp hpair
      obtain ⟨value, hvalue, rfl⟩ := List.mem_map.mp hin
      exact ne_of_mem_of_not_mem hvalue (h.shown entry (hperm.mem_iff.mpr hentry))
    have hline : ∀ c ∈ (joinWith "&" ((flatPairs (Catalog.sortByKey (·.1) query)).map fun pair =>
        Percent.encodePair pair.1 pair.2)).toList, (c != '\n') = true := by
      intro c hc
      simpa using ne_of_mem_of_not_mem hc (Percent.not_mem_joinWith (by decide) (by decide) _)
    have hkeys : (Assoc.keys (Catalog.sortByKey (·.1) query)).Nodup :=
      (hperm.map Prod.fst).nodup_iff.mp h.keys
    rw [queryText_toList hquery, queryOf, List.takeWhile_eq_self_iff.mpr hline,
      Percent.queryPairs_joinWith hshown,
      get?_collect, valuesOf_flatPairs hkeys, get?_perm hperm h.keys]
    cases hget : query.get? key with
    | none => rfl
    | some values => exact if_neg (h.values _ (Assoc.mem_of_get? hget))

theorem valued_collect {pairs : List (String × String)} (h : ∀ pair ∈ pairs, pair.2 ≠ "") :
    Valued (collect pairs) := by
  have hkeys : (collect pairs).keys.Nodup := by
    have hfold (m : Assoc String (List String)) (hm : m.keys.Nodup) :
        (Assoc.keys (pairs.foldl addValue m)).Nodup := by
      clear h
      induction pairs generalizing m with
      | nil => exact hm
      | cons pair rest ih => exact ih _ (Assoc.nodup_keys_put hm _ _)
    exact hfold [] List.nodup_nil
  have hentry : ∀ entry ∈ collect pairs, entry.2 ≠ [] ∧ entry.2 = valuesOf pairs entry.1 := by
    intro entry hentry
    have hget := (Assoc.get?_eq_some_iff hkeys).mpr hentry
    rw [get?_collect, grouped] at hget
    split at hget
    · contradiction
    · rename_i hsome
      have hvalues := Option.some.inj hget
      exact ⟨hvalues ▸ hsome, hvalues.symm⟩
  refine ⟨hkeys, fun entry hin => (hentry entry hin).1, fun entry hin hblank => ?_⟩
  rw [(hentry entry hin).2] at hblank
  exact h _ (mem_valuesOf.mp hblank) rfl

theorem valued_queryOf (cs : List Char) : Valued (queryOf cs) := by
  unfold queryOf
  split
  · refine valued_collect fun pair hpair => ?_
    rw [Percent.queryPairs_false] at hpair
    simpa using (List.mem_filter.mp hpair).2
  · exact ⟨List.nodup_nil, List.forall_mem_nil _, List.forall_mem_nil _⟩

/-! ### Keys with one value -/

theorem get?_ofPairs_eq (pairs : List (String × String)) (key : String) :
    (Assoc.ofPairs pairs).get? key = (valuesOf pairs key).getLast? := by
  rw [Assoc.get?_ofPairs]
  induction pairs with
  | nil => rfl
  | cons pair rest ih =>
    obtain ⟨k, v⟩ := pair
    rw [List.reverse_cons, List.lookup_append, ih, valuesOf_cons, List.lookup_cons, List.lookup_nil]
    by_cases hk : k = key
    · simp [hk, List.getLast?_cons]
    · have hne : ¬ (key == k) := by simpa using Ne.symm hk
      simp [hk, hne]

theorem valuesOf_filter (pairs : List (String × String)) (key : String) :
    valuesOf (pairs.filter (·.2 ≠ "")) key = (valuesOf pairs key).filter (· ≠ "") := by
  simp [valuesOf, List.filter_map, Function.comp_def, List.filter_filter, Bool.and_comm]

/-- Without its blank values, a key has one value, that which comes last. -/
def HasOneValue (values : List String) : Prop :=
  grouped (values.filter (· ≠ "")) = values.getLast?.map ([·])

theorem hasOneValue_cons {value : String} {rest : List String} :
    HasOneValue (value :: rest) ↔ (value = "" ↔ rest ≠ []) ∧ HasOneValue rest := by
  cases hrest : rest.getLast? with
  | none =>
    obtain rfl := List.getLast?_eq_none_iff.mp hrest
    by_cases hvalue : value = "" <;> simp [HasOneValue, grouped, hvalue]
  | some last =>
    have hne : rest ≠ [] := fun he => by simp [he] at hrest
    by_cases hvalue : value = ""
    · simp [HasOneValue, hvalue, hne, List.getLast?_cons, hrest]
    · have hnot : ¬ HasOneValue (value :: rest) := by
        intro h
        obtain ⟨rfl, hblank⟩ : value = last ∧ rest.filter (· ≠ "") = [] := by
          simpa [HasOneValue, grouped, hvalue, List.getLast?_cons, hrest] using h
        exact hvalue
          (by simpa using List.filter_eq_nil_iff.mp hblank value (List.mem_of_getLast? hrest))
      simp [hnot, hvalue, hne]

theorem blankUntilLast_iff (pairs : List (String × String)) :
    (∀ key, (collect (pairs.filter (·.2 ≠ ""))).get? key =
      ((Assoc.ofPairs pairs).get? key).map ([·])) ↔
      BlankUntilLast pairs := by
  have hkey (key : String) : (collect (pairs.filter (·.2 ≠ ""))).get? key =
      ((Assoc.ofPairs pairs).get? key).map ([·]) ↔ HasOneValue (valuesOf pairs key) := by
    rw [get?_collect, get?_ofPairs_eq, valuesOf_filter, HasOneValue]
  simp only [hkey]
  clear hkey
  induction pairs with
  | nil => simp [BlankUntilLast, HasOneValue, valuesOf, grouped]
  | cons pair rest ih =>
    obtain ⟨k, v⟩ := pair
    -- what the first pair adds to its key depends on whether the key comes again
    have hvalues : valuesOf rest k ≠ [] ↔ k ∈ rest.map (·.1) := by
      simp [valuesOf, List.filter_eq_nil_iff]
    rw [BlankUntilLast]
    constructor
    · intro h
      have hfirst := h k
      rw [valuesOf_cons, if_pos rfl, hasOneValue_cons, hvalues] at hfirst
      refine ⟨hfirst.1, ih.mp fun key => ?_⟩
      by_cases hk : k = key
      · exact hk ▸ hfirst.2
      · have hlater := h key
        rwa [valuesOf_cons, if_neg hk] at hlater
    · rintro ⟨hfirst, hrest⟩ key
      rw [valuesOf_cons]
      split
      · rename_i hk
        rw [hasOneValue_cons, ← hk, hvalues]
        exact ⟨hfirst, ih.mpr hrest k⟩
      · exact ih.mpr hrest key

/-! ### Blanks behind a query -/

theorem queryPairs_tail {query tail : List Char} (htail : ∀ c ∈ tail, isBlank c)
    (h : tail = [] ∨ query = [] ∨ query.getLast? = some '&') :
    Percent.queryPairs false (query ++ tail) = Percent.queryPairs false query := by
  have hmark {c : Char} (hc : ¬ isBlank c) : c ∉ tail := fun hin => hc (htail c hin)
  obtain ⟨front, last, hsplit, hlast⟩ := Percent.exists_lastPiece query
  rcases h with rfl | h
  · rw [List.append_nil]
  · obtain rfl := hlast.mpr h
    have hnone := Percent.queryPair?_of_not_mem (hmark (c := '=') (by decide))
    have hquery := hsplit [] List.not_mem_nil
    rw [List.append_nil] at hquery
    rw [Percent.queryPairs, Percent.queryPairs, hsplit tail (hmark (by decide)), hquery,
      List.filterMap_append, List.filterMap_append, List.nil_append, List.filterMap_cons_none hnone]
    rfl

theorem get?_ofPairs_last (pairs : List (String × String)) (key value : String) :
    (Assoc.ofPairs (pairs ++ [(key, value)])).get? key = some value := by
  have hlast : valuesOf [(key, value)] key = [value] := by simp [valuesOf]
  rw [get?_ofPairs_eq, valuesOf_append, hlast, List.getLast?_append]
  rfl

theorem valuesOf_of_get?_collect {pairs : List (String × String)} {key : String}
    {values : List String}
    (h : (collect pairs).get? key = some values) : valuesOf pairs key = values := by
  rw [get?_collect, grouped] at h
  split at h
  · contradiction
  · exact Option.some.inj h

/-- Blanks behind a piece make its value another one, or leave it without one. -/
theorem collect_tail_ne {query tail : List Char} (htail : ∀ c ∈ tail, isBlank c) (hne : tail ≠ [])
    (hquery : ¬ (query = [] ∨ query.getLast? = some '&')) : ∃ key,
    (collect (Percent.queryPairs false (query ++ tail))).get? key ≠
      ((Assoc.ofPairs (Percent.queryPairs true query)).get? key).map ([·]) := by
  have hmark {c : Char} (hc : ¬ isBlank c) : c ∉ tail := fun hin => hc (htail c hin)
  obtain ⟨front, last, hsplit, hlast⟩ := Percent.exists_lastPiece query
  have hsome : last ≠ [] := fun he => hquery (hlast.mp he)
  have hwhole := hsplit tail (hmark (by decide))
  have hplain := hsplit [] List.not_mem_nil
  rw [List.append_nil, List.append_nil] at hplain
  have hlastValue {pair : String × String} (hread : Percent.queryPair? true last = some pair) :
      (Assoc.ofPairs (Percent.queryPairs true query)).get? pair.1 = some pair.2 := by
    rw [Percent.queryPairs, hplain, List.filterMap_append, List.filterMap_cons_some hread,
      List.filterMap_nil, get?_ofPairs_last]
  by_cases hequals : '=' ∈ last
  · -- the blanks become a part of the value, which is longer then
    obtain ⟨key, value, rfl, hkey⟩ := List.eq_append_cons_of_mem hequals
    have hread : Percent.queryPair? true (key ++ '=' :: value) =
        some (String.ofList (Percent.decodeForm key),
          String.ofList (Percent.decodeForm value)) := by
      simp [Percent.queryPair?, cut?_append hkey]
    have hlonger : Percent.queryPair? false (key ++ '=' :: (value ++ tail)) =
        some (String.ofList (Percent.decodeForm key),
          String.ofList (Percent.decodeForm (value ++ tail))) := by
      simp [Percent.queryPair?, cut?_append hkey, hne]
    have hin :
        (String.ofList (Percent.decodeForm key),
          String.ofList (Percent.decodeForm (value ++ tail))) ∈
        Percent.queryPairs false (query ++ tail) := by
      rw [Percent.queryPairs, hwhole, List.append_assoc, List.cons_append]
      exact List.mem_filterMap.mpr ⟨_, List.mem_append_right _ List.mem_cons_self, hlonger⟩
    refine ⟨String.ofList (Percent.decodeForm key), fun heq => ?_⟩
    rw [hlastValue hread] at heq
    have hsame := mem_valuesOf.mpr hin
    rw [valuesOf_of_get?_collect heq, List.mem_singleton, String.ofList_inj] at hsame
    obtain ⟨c, more, rfl⟩ := List.exists_cons_of_ne_nil hne
    have hlength := congrArg List.length hsame
    rw [Percent.decodeForm_blank (htail c List.mem_cons_self), List.length_append,
      List.length_cons] at hlength
    omega
  · -- a key alone has the value of nothing in the one reading and none in the other
    have hread :
        Percent.queryPair? true last = some (String.ofList (Percent.decodeForm last), "") := by
      have hblank : String.ofList (Percent.decodeForm []) = "" := rfl
      simp [Percent.queryPair?, cut?_of_not_mem hequals, hsome, hblank]
    refine ⟨String.ofList (Percent.decodeForm last), fun heq => ?_⟩
    rw [hlastValue hread] at heq
    have hin : "" ∈ valuesOf (Percent.queryPairs false (query ++ tail))
        (String.ofList (Percent.decodeForm last)) := by
      rw [valuesOf_of_get?_collect heq]
      exact List.mem_singleton_self ""
    have hshown := mem_valuesOf.mp hin
    rw [Percent.queryPairs_false] at hshown
    simpa using (List.mem_filter.mp hshown).2

/-- A query behind which blanks are left gives every key the value that comes last exactly if
earlier values of the same key are blank, the last ones are not, and the blanks do not belong to a
key or value. -/
theorem collect_tail_iff {query tail : List Char} (htail : ∀ c ∈ tail, isBlank c) :
    (∀ key, (collect (Percent.queryPairs false (query ++ tail))).get? key =
      ((Assoc.ofPairs (Percent.queryPairs true query)).get? key).map ([·])) ↔
        (tail = [] ∨ query = [] ∨ query.getLast? = some '&') ∧
        BlankUntilLast (Percent.queryPairs true query) := by
  by_cases h : tail = [] ∨ query = [] ∨ query.getLast? = some '&'
  · rw [queryPairs_tail htail h, Percent.queryPairs_false, blankUntilLast_iff]
    exact (and_iff_right h).symm
  · obtain ⟨hne, hquery⟩ := not_or.mp h
    obtain ⟨key, hkey⟩ := collect_tail_ne htail hne hquery
    exact ⟨fun hall => absurd (hall key) hkey, fun hboth => absurd hboth.1 h⟩

end CatalogEntities.Connection.Url
