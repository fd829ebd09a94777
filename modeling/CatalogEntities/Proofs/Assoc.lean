import CatalogEntities.Assoc
import Mathlib.Data.List.Nodup

/-!
Lookups in finite maps. A map built from pairs answers with the last pair of a key; when no key
occurs twice it is the list of pairs itself.
-/

namespace CatalogEntities.Assoc

variable {κ ν : Type} [BEq κ] [LawfulBEq κ]

theorem get?_put (m : Assoc κ ν) (k key : κ) (v : ν) :
    (put m k v).get? key = if key == k then some v else m.get? key := by
  induction m with
  | nil => simp only [put, get?, List.lookup_cons, List.lookup_nil]; split <;> simp_all
  | cons pair rest ih =>
    obtain ⟨k', v'⟩ := pair
    unfold put
    split
    · rename_i hk
      obtain rfl := eq_of_beq hk
      simp only [get?, List.lookup_cons]
      split <;> simp_all
    · rename_i hk
      simp only [get?, List.lookup_cons] at ih ⊢
      rw [ih]
      by_cases hkey : key == k'
      · have hne : ¬ (key == k) := by
          intro he
          exact hk (by rw [← eq_of_beq hkey, eq_of_beq he]; exact BEq.rfl)
        simp [hkey, hne]
      · simp [hkey]

/-- Later pairs win over earlier ones and over what the map held before. -/
theorem get?_update (m pairs : Assoc κ ν) (key : κ) :
    (m.update pairs).get? key = (pairs.reverse.lookup key).or (m.get? key) := by
  induction pairs generalizing m with
  | nil => simp [update]
  | cons pair rest ih =>
    obtain ⟨k, v⟩ := pair
    have hstep : m.update ((k, v) :: rest) = (put m k v).update rest := rfl
    rw [hstep, ih, get?_put, List.reverse_cons, List.lookup_append, Option.or_assoc,
      List.lookup_cons, List.lookup_nil]
    by_cases hk : key == k <;> simp [hk]

theorem get?_ofPairs (pairs : List (κ × ν)) (key : κ) :
    (ofPairs pairs).get? key = pairs.reverse.lookup key := by
  have h := get?_update [] pairs key
  simpa only [ofPairs, get?, List.lookup_nil, Option.or_none] using h

theorem mem_of_get? {m : Assoc κ ν} {key : κ} {v : ν} (h : m.get? key = some v) : (key, v) ∈ m := by
  obtain ⟨before, after, hsplit, -⟩ := List.lookup_eq_some_iff.mp h
  exact hsplit ▸ List.mem_append_right before List.mem_cons_self

theorem mem_of_get?_ofPairs {pairs : List (κ × ν)} {key : κ} {v : ν}
    (h : (ofPairs pairs).get? key = some v) : (key, v) ∈ pairs := by
  rw [get?_ofPairs] at h
  exact List.mem_reverse.mp (mem_of_get? h)

theorem get?_ofPairs_of_mem {pairs : List (κ × ν)} {key : κ} (h : key ∈ pairs.map (·.1)) :
    ∃ v, (ofPairs pairs).get? key = some v := by
  rw [get?_ofPairs, ← Option.isSome_iff_exists, List.lookup_isSome_iff]
  obtain ⟨pair, hmem, rfl⟩ := List.mem_map.mp h
  exact ⟨pair, List.mem_reverse.mpr hmem, BEq.rfl⟩

theorem put_put (m : Assoc κ ν) (k : κ) (v w : ν) : put (put m k v) k w = put m k w := by
  induction m with
  | nil => simp [put]
  | cons pair rest ih =>
    obtain ⟨k', v'⟩ := pair
    by_cases hk : k' == k
    · simp [put, hk]
    · simp [put, hk, ih]

theorem keys_put_of_mem {m : Assoc κ ν} {k : κ} (h : k ∈ m.keys) (v : ν) :
    (put m k v).keys = m.keys := by
  induction m with
  | nil => simp [keys] at h
  | cons pair rest ih =>
    obtain ⟨k', v'⟩ := pair
    by_cases hk : k' == k
    · simp [put, hk, keys]
    · have hrest : k ∈ keys rest := by
        rcases List.mem_cons.mp h with he | hrest
        · exact absurd (by simp [he]) hk
        · exact hrest
      have htail := ih hrest
      simp only [keys] at htail
      simp [put, hk, keys, htail]

/-- Where a key occurs once, its value may be replaced pair by pair. -/
theorem map_eq_put {m : Assoc κ ν} (h : m.keys.Nodup) {k : κ} (hk : k ∈ m.keys) (v : ν) :
    (m.map fun (key, w) => if key == k then (key, v) else (key, w)) = put m k v := by
  induction m with
  | nil => simp [keys] at hk
  | cons pair rest ih =>
    obtain ⟨k', v'⟩ := pair
    simp only [keys, List.map_cons, List.nodup_cons] at h
    by_cases he : k' == k
    · obtain rfl := eq_of_beq he
      have hkept :
          ∀ later ∈ rest, (if later.1 == k' then (later.1, v) else (later.1, later.2)) = later := by
        intro later hlater
        refine if_neg fun hsame => h.1 ?_
        exact eq_of_beq hsame ▸ List.mem_map_of_mem hlater
      rw [List.map_cons, List.map_congr_left hkept, List.map_id', put]
      simp
    · have hrest : k ∈ keys rest := by
        rcases List.mem_cons.mp hk with hk | hrest
        · exact absurd (by simp [hk]) he
        · exact hrest
      rw [List.map_cons, ih h.2 hrest, put]
      simp [he]

theorem get?_eq_none_iff {m : Assoc κ ν} {k : κ} : m.get? k = none ↔ k ∉ m.keys := by
  rw [get?, List.lookup_eq_none_iff]
  constructor
  · intro h hk
    obtain ⟨pair, hpair, rfl⟩ := List.mem_map.mp hk
    simpa using h pair hpair
  · intro h pair hpair
    have hne : k ≠ pair.1 := fun he => h (he ▸ List.mem_map_of_mem hpair)
    simpa using hne

theorem put_of_not_mem {m : Assoc κ ν} {k : κ} (h : k ∉ m.keys) (v : ν) :
    put m k v = m ++ [(k, v)] := by
  induction m with
  | nil => rfl
  | cons pair rest ih =>
    obtain ⟨k', v'⟩ := pair
    simp only [keys, List.map_cons, List.mem_cons, not_or] at h
    have hk : ¬ (k' == k) := by simpa using Ne.symm h.1
    simp only [put, hk, Bool.false_eq_true, ↓reduceIte, List.cons_append, ih h.2]

theorem nodup_keys_put {m : Assoc κ ν} (h : m.keys.Nodup) (k : κ) (v : ν) :
    (put m k v).keys.Nodup := by
  by_cases hk : k ∈ m.keys
  · rw [keys_put_of_mem hk]
    exact h
  · rw [put_of_not_mem hk, keys, List.map_append]
    exact h.append (List.nodup_singleton k) (by simpa [List.disjoint_singleton] using hk)

theorem update_of_nodup {m pairs : Assoc κ ν} (h : (m.keys ++ pairs.keys).Nodup) :
    m.update pairs = m ++ pairs := by
  induction pairs generalizing m with
  | nil => simp [update]
  | cons pair rest ih =>
    obtain ⟨k, v⟩ := pair
    have hk : k ∉ m.keys := fun hm =>
      (List.nodup_append.mp h).2.2 k hm k (by simp [keys]) rfl
    have hstep : m.update ((k, v) :: rest) = (put m k v).update rest := rfl
    have hrest : (keys (m ++ [(k, v)]) ++ keys rest).Nodup := by
      simpa [keys, List.append_assoc] using h
    rw [hstep, put_of_not_mem hk, ih hrest, List.append_assoc, List.singleton_append]

theorem ofPairs_of_nodup {pairs : List (κ × ν)} (h : (pairs.map (·.1)).Nodup) :
    ofPairs pairs = pairs :=
  update_of_nodup (m := []) (by simpa [keys] using h)

theorem get?_eq_some_iff {m : Assoc κ ν} (h : m.keys.Nodup) {key : κ} {v : ν} :
    m.get? key = some v ↔ (key, v) ∈ m := by
  induction m with
  | nil => simp [get?]
  | cons pair rest ih =>
    obtain ⟨k, w⟩ := pair
    simp only [keys, List.map_cons, List.nodup_cons] at h
    simp only [get?, List.lookup_cons, List.mem_cons, Prod.mk.injEq] at ih ⊢
    by_cases hk : key == k
    · obtain rfl := eq_of_beq hk
      have hout : (key, v) ∉ rest := fun hm => h.1 (List.mem_map_of_mem (f := Prod.fst) hm)
      simp [hout, eq_comm]
    · have hne : key ≠ k := fun he => hk (by simp [he])
      simp [hk, hne, ih h.2]

theorem get?_ofPairs_eq_some_iff {pairs : List (κ × ν)} (h : (pairs.map (·.1)).Nodup)
    {key : κ} {v : ν} :
    (ofPairs pairs).get? key = some v ↔ (key, v) ∈ pairs := by
  rw [ofPairs_of_nodup h, get?_eq_some_iff h]

theorem get?_map_self (keys : List κ) (value : κ → ν) (key : κ) :
    get? (keys.map fun k => (k, value k)) key = if key ∈ keys then some (value key) else none := by
  induction keys with
  | nil => simp [get?]
  | cons k rest ih =>
    simp only [get?, List.map_cons, List.lookup_cons, List.mem_cons] at ih ⊢
    by_cases hk : key == k
    · obtain rfl := eq_of_beq hk
      simp
    · have hne : key ≠ k := fun he => hk (by simp [he])
      simp [hk, hne, ih]

omit [LawfulBEq κ] in
theorem get?_map_values {ω : Type} (f : ν → ω) (m : Assoc κ ν) (key : κ) :
    get? (m.map fun (k, v) => (k, f v)) key = (m.get? key).map f := by
  induction m with
  | nil => rfl
  | cons entry rest ih =>
    obtain ⟨k, v⟩ := entry
    simp only [get?, List.map_cons, List.lookup_cons] at ih ⊢
    cases hk : key == k with
    | true => rfl
    | false => exact ih

/-- A map whose keys stand in a list, in its order, is read back key by key. -/
theorem filterMap_get? {m : Assoc κ ν} {ks : List κ} (hsub : m.keys.Sublist ks)
    (hnodup : ks.Nodup) :
    ks.filterMap (fun k => (m.get? k).map fun v => (k, v)) = m := by
  induction ks generalizing m with
  | nil =>
    have hempty := List.sublist_nil.mp hsub
    rw [List.filterMap_nil, List.map_eq_nil_iff.mp hempty]
  | cons k rest ih =>
    obtain ⟨hk, hrest⟩ := List.nodup_cons.mp hnodup
    cases m with
    | nil => simp [get?]
    | cons pair more =>
      obtain ⟨key, v⟩ := pair
      -- the first key is passed, or it is the one at the head of the map
      cases hsub with
      | cons _ hlater =>
        have hout : get? ((key, v) :: more) k = none :=
          get?_eq_none_iff.mpr fun hin => hk (hlater.subset hin)
        rw [List.filterMap_cons, hout, Option.map_none]
        exact ih hlater hrest
      | cons_cons _ hmore =>
        have hothers : rest.filterMap (fun k => (get? ((key, v) :: more) k).map fun v => (k, v)) =
            rest.filterMap fun k => (get? more k).map fun v => (k, v) := by
          refine List.filterMap_congr fun k hin => ?_
          have hne : ¬ (k == key) := by simpa using ne_of_mem_of_not_mem hin hk
          simp only [get?, List.lookup_cons, hne]
        have hfirst : get? ((key, v) :: more) key = some v := by simp [get?]
        rw [List.filterMap_cons, hfirst, Option.map_some, hothers]
        exact congrArg _ (ih hmore hrest)

omit [BEq κ] [LawfulBEq κ] in
theorem keys_filter_nodup {m : Assoc κ ν} (h : m.keys.Nodup) (p : κ × ν → Bool) :
    (keys (m.filter p)).Nodup :=
  h.sublist (List.filter_sublist.map _)

/-- Empty entries may be left out of a map of lists. -/
theorem getD_filter_isEmpty {α : Type} {m : Assoc κ (List α)} (h : m.keys.Nodup) (key : κ) :
    ((get? (m.filter (!·.2.isEmpty)) key).getD []) = (m.get? key).getD [] := by
  have hf := keys_filter_nodup h (!·.2.isEmpty)
  cases hfiltered : get? (m.filter (!·.2.isEmpty)) key with
  | some v =>
    have hmem := (get?_eq_some_iff hf).mp hfiltered
    rw [(get?_eq_some_iff h).mpr (List.mem_filter.mp hmem).1]
  | none =>
    cases hget : m.get? key with
    | none => rfl
    | some v =>
      have hmem := (get?_eq_some_iff h).mp hget
      cases v with
      | nil => rfl
      | cons a rest =>
        have hin : (key, a :: rest) ∈ m.filter (!·.2.isEmpty) := List.mem_filter.mpr ⟨hmem, rfl⟩
        rw [(get?_eq_some_iff hf).mpr hin] at hfiltered
        contradiction

end CatalogEntities.Assoc
