import CatalogEntities.Text.Span
import Mathlib.Data.List.DropRight

/-!
Texts cut at separators and trimmed at their ends.
-/

namespace CatalogEntities.Text

/-! ### Up to a separator -/

theorem takeWhile_append_cons {p : Char → Bool} {c : Char} {xs : List Char} (hxs : ∀ x ∈ xs, p x)
    (hc : ¬ p c) (ys : List Char) : (xs ++ c :: ys).takeWhile p = xs := by
  rw [List.takeWhile_append_of_pos hxs, List.takeWhile_cons_of_neg hc, List.append_nil]

theorem dropWhile_append_cons {p : Char → Bool} {c : Char} {xs : List Char} (hxs : ∀ x ∈ xs, p x)
    (hc : ¬ p c) (ys : List Char) : (xs ++ c :: ys).dropWhile p = c :: ys := by
  rw [List.dropWhile_append_of_pos hxs, List.dropWhile_cons_of_neg hc]

section

variable {p : Char → Bool} {sep : Char} (hsep : ¬ p sep) (xs ys : List Char)
include hsep

theorem takeWhile_separated : (xs ++ sep :: ys).takeWhile p = xs.takeWhile p := by
  induction xs with
  | nil => exact List.takeWhile_cons_of_neg hsep
  | cons x xs ih =>
    by_cases hx : p x
    · rw [List.cons_append, List.takeWhile_cons_of_pos hx, List.takeWhile_cons_of_pos hx, ih]
    · rw [List.cons_append, List.takeWhile_cons_of_neg hx, List.takeWhile_cons_of_neg hx]

theorem dropWhile_separated : (xs ++ sep :: ys).dropWhile p = xs.dropWhile p ++ sep :: ys := by
  induction xs with
  | nil => exact List.dropWhile_cons_of_neg hsep
  | cons x xs ih =>
    by_cases hx : p x
    · rw [List.cons_append, List.dropWhile_cons_of_pos hx, List.dropWhile_cons_of_pos hx, ih]
    · rw [List.cons_append, List.dropWhile_cons_of_neg hx, List.dropWhile_cons_of_neg hx,
        List.cons_append]

end

theorem cut?_append {sep : Char} {xs : List Char} (h : sep ∉ xs) (ys : List Char) :
    cut? sep (xs ++ sep :: ys) = some (xs, ys) := by
  induction xs with
  | nil => simp [cut?]
  | cons x xs ih =>
    obtain ⟨hx, hxs⟩ : sep ≠ x ∧ sep ∉ xs := by simpa using h
    have hne : ¬ (x == sep) := by simpa using Ne.symm hx
    rw [List.cons_append, cut?, if_neg hne, ih hxs, Option.map_some]

theorem cut?_of_not_mem {sep : Char} {cs : List Char} (h : sep ∉ cs) : cut? sep cs = none := by
  induction cs with
  | nil => rfl
  | cons c rest ih =>
    obtain ⟨hc, hrest⟩ : sep ≠ c ∧ sep ∉ rest := by simpa using h
    have hne : ¬ (c == sep) := by simpa using Ne.symm hc
    rw [cut?, if_neg hne, ih hrest, Option.map_none]

theorem cutLast?_eq_none_iff {sep : Char} {cs : List Char} : cutLast? sep cs = none ↔ sep ∉ cs := by
  induction cs with
  | nil => simp [cutLast?]
  | cons c rest ih =>
    rw [cutLast?, List.mem_cons, not_or, ← ih]
    cases cutLast? sep rest with
    | none =>
      by_cases hc : c = sep
      · simp [hc]
      · simp [hc, Ne.symm hc]
    | some parts => simp

/-- The last separator is the one with none behind it. -/
theorem cutLast?_eq_some_iff {sep : Char} {cs xs ys : List Char} :
    cutLast? sep cs = some (xs, ys) ↔ cs = xs ++ sep :: ys ∧ sep ∉ ys := by
  constructor
  · intro h
    induction cs generalizing xs with
    | nil => simp [cutLast?] at h
    | cons c rest ih =>
      rw [cutLast?] at h
      split at h
      · rename_i before after hrest
        obtain ⟨rfl, rfl⟩ := Prod.mk.inj (Option.some.inj h)
        obtain ⟨rfl, hafter⟩ := ih hrest
        exact ⟨rfl, hafter⟩
      · rename_i hrest
        split at h
        · rename_i hc
          obtain ⟨rfl, rfl⟩ := Prod.mk.inj (Option.some.inj h)
          obtain rfl := eq_of_beq hc
          exact ⟨rfl, cutLast?_eq_none_iff.mp hrest⟩
        · contradiction
  · rintro ⟨rfl, h⟩
    induction xs with
    | nil => simp [cutLast?, cutLast?_eq_none_iff.mpr h]
    | cons x xs ih => rw [List.cons_append, cutLast?, ih]

/-! ### Pieces between separators -/

section

variable {p : Char → Bool}

theorem splitWhere_ne_nil (cs : List Char) : splitWhere p cs ≠ [] := by
  cases cs with
  | nil => exact List.cons_ne_nil _ _
  | cons c rest =>
    rw [splitWhere]
    split
    · exact List.cons_ne_nil _ _
    · split <;> exact List.cons_ne_nil _ _

theorem splitWhere_separator {c : Char} (hc : p c) (rest : List Char) :
    splitWhere p (c :: rest) = [] :: splitWhere p rest := by
  rw [splitWhere]
  split
  · rename_i hnil
    exact absurd hnil (splitWhere_ne_nil rest)
  · rename_i hcons
    rw [if_pos hc, hcons]

/-- Characters without a separator go to the first piece. -/
theorem splitWhere_append {piece rest head : List Char} {tail : List (List Char)}
    (hpiece : ∀ c ∈ piece, ¬ p c) (hrest : splitWhere p rest = head :: tail) :
    splitWhere p (piece ++ rest) = (piece ++ head) :: tail := by
  induction piece with
  | nil => exact hrest
  | cons c cs ih =>
    have hcs := ih fun d hd => hpiece d (List.mem_cons_of_mem _ hd)
    rw [List.cons_append, splitWhere, hcs]
    exact if_neg (hpiece c List.mem_cons_self)

theorem not_separator_of_mem_splitWhere {cs piece : List Char}
    (h : piece ∈ splitWhere p cs) {c : Char} (hc : c ∈ piece) : ¬ p c := by
  induction cs generalizing piece with
  | nil =>
    obtain rfl := List.mem_singleton.mp h
    exact absurd hc List.not_mem_nil
  | cons d rest ih =>
    rw [splitWhere] at h
    split at h
    · rename_i hnil
      exact absurd hnil (splitWhere_ne_nil rest)
    · rename_i first more hsplit
      rw [hsplit] at ih
      by_cases hd : p d
      · rw [if_pos hd] at h
        rcases List.mem_cons.mp h with rfl | h
        · exact absurd hc List.not_mem_nil
        · exact ih h hc
      · rw [if_neg hd] at h
        rcases List.mem_cons.mp h with rfl | h
        · rcases List.mem_cons.mp hc with rfl | hc
          · exact hd
          · exact ih List.mem_cons_self hc
        · exact ih (List.mem_cons_of_mem _ h) hc

theorem splitWhere_of_not {piece : List Char} (h : ∀ c ∈ piece, ¬ p c) :
    splitWhere p piece = [piece] := by
  have hsplit := splitWhere_append h (splitWhere.eq_1 p)
  rwa [List.append_nil] at hsplit

/-- A separator keeps the pieces on its two sides apart. -/
theorem splitWhere_separated {sep : Char} (hsep : p sep) (xs ys : List Char) :
    splitWhere p (xs ++ sep :: ys) = splitWhere p xs ++ splitWhere p ys := by
  induction xs with
  | nil => exact splitWhere_separator hsep ys
  | cons c rest ih =>
    obtain ⟨first, more, hrest⟩ := List.exists_cons_of_ne_nil (splitWhere_ne_nil (p := p) rest)
    rw [List.cons_append, splitWhere, splitWhere, ih, hrest]
    dsimp only [List.cons_append]
    split <;> rfl

theorem mem_splitWhere_iff {c : Char} (hc : ¬ p c) (cs : List Char) :
    (∃ piece ∈ splitWhere p cs, c ∈ piece) ↔ c ∈ cs := by
  induction cs with
  | nil => simp [splitWhere]
  | cons d rest ih =>
    rw [splitWhere, List.mem_cons, ← ih]
    split
    · rename_i hnil
      exact absurd hnil (splitWhere_ne_nil rest)
    · rename_i first more hsplit
      rw [hsplit]
      by_cases hd : p d
      · have hne : c ≠ d := by
          rintro rfl
          exact hc hd
        rw [if_pos hd]
        simp [hne]
      · rw [if_neg hd]
        simp [or_assoc]

/-- Pieces lose nothing but separators. -/
theorem mem_pieces_iff {c : Char} (hc : ¬ p c) (cs : List Char) :
    (∃ piece ∈ pieces p cs, c ∈ piece) ↔ c ∈ cs := by
  rw [← mem_splitWhere_iff hc cs]
  constructor
  · rintro ⟨piece, hpiece, hmem⟩
    exact ⟨piece, (List.mem_filter.mp hpiece).1, hmem⟩
  · rintro ⟨piece, hpiece, hmem⟩
    refine ⟨piece, List.mem_filter.mpr ⟨hpiece, ?_⟩, hmem⟩
    simpa using List.ne_nil_of_mem hmem

end

theorem splitAt_append {sep : Char} {piece : List Char} (h : sep ∉ piece) (rest : List Char) :
    splitAt sep (piece ++ sep :: rest) = piece :: splitAt sep rest := by
  have hpiece : ∀ c ∈ piece, ¬ (c == sep) := by
    intro c hc
    simpa using ne_of_mem_of_not_mem hc h
  have hrest := splitWhere_separator (p := (· == sep)) (c := sep) (by simp) rest
  rw [splitAt, splitWhere_append hpiece hrest, List.append_nil, splitAt]

theorem splitAt_of_not_mem {sep : Char} {piece : List Char} (h : sep ∉ piece) :
    splitAt sep piece = [piece] := by
  refine splitWhere_of_not fun c hc => ?_
  simpa using ne_of_mem_of_not_mem hc h

theorem joinWith_cons (sep first next : String) (rest : List String) :
    joinWith sep (first :: next :: rest) = first ++ (sep ++ joinWith sep (next :: rest)) := by
  rw [joinWith, joinWith, String.intercalate_cons_of_ne_nil (List.cons_ne_nil _ _),
    String.append_assoc]

/-! ### Lines -/

/-- Lines hold none of their ends. -/
theorem not_isLineEnd_of_mem_lines (cs : List Char) :
    ∀ line ∈ lines cs, ∀ c ∈ line, ¬ isLineEnd c := by
  have hnone : ∀ c ∈ ([] : List Char), ¬ isLineEnd c := List.forall_mem_nil _
  fun_induction lines cs with
  | case1 => exact List.forall_mem_nil _
  | case2 rest ih => exact List.forall_mem_cons.mpr ⟨hnone, ih⟩
  | case3 c rest _ hend ih => exact List.forall_mem_cons.mpr ⟨hnone, ih⟩
  | case4 c rest _ hend hnil =>
    exact List.forall_mem_singleton.mpr (List.forall_mem_singleton.mpr hend)
  | case5 c rest _ hend first more hcons ih =>
    obtain ⟨hfirst, hmore⟩ := List.forall_mem_cons.mp (hcons ▸ ih)
    exact List.forall_mem_cons.mpr ⟨List.forall_mem_cons.mpr ⟨hend, hfirst⟩, hmore⟩

/-! ### Trimming -/

theorem trimEnd_append_cons {p : Char → Bool} {c : Char} (hc : ¬ p c) (xs ys : List Char) :
    trimEnd p (xs ++ c :: ys) = xs ++ c :: trimEnd p ys := by
  simp only [trimEnd, List.reverse_append, List.reverse_cons, List.append_assoc,
    List.singleton_append, List.dropWhile_append]
  split
  · rename_i hempty
    rw [List.isEmpty_iff] at hempty
    simp [List.dropWhile_cons_of_neg hc, hempty]
  · simp

theorem mem_of_mem_trimEnd {p : Char → Bool} {cs : List Char} {c : Char} (h : c ∈ trimEnd p cs) :
    c ∈ cs :=
  List.mem_reverse.mp ((List.dropWhile_sublist p).mem (List.mem_reverse.mp h))

theorem exists_trimmed (cs : List Char) : ∃ before after, cs = before ++ (trim cs ++ after) ∧
    (∀ c ∈ before, isBlank c) ∧ ∀ c ∈ after, isBlank c := by
  have hend : trim cs ++ ((trimStart isBlank cs).reverse.takeWhile isBlank).reverse =
      trimStart isBlank cs := by
    rw [trim, trimEnd, ← List.reverse_append, List.takeWhile_append_dropWhile, List.reverse_reverse]
  refine ⟨cs.takeWhile isBlank, ((trimStart isBlank cs).reverse.takeWhile isBlank).reverse, ?_, ?_,
    ?_⟩
  · rw [hend, trimStart, List.takeWhile_append_dropWhile]
  · exact fun c hc => List.mem_takeWhile_imp hc
  · exact fun c hc => List.mem_takeWhile_imp (List.mem_reverse.mp hc)

/-- A text that does not start with a blank is trimmed at its end only. -/
theorem exists_tail {cs : List Char} (h : ∀ c ∈ cs.head?, ¬ isBlank c) :
    ∃ tail, cs = trim cs ++ tail ∧ ∀ c ∈ tail, isBlank c := by
  obtain ⟨before, after, htext, hbefore, hafter⟩ := exists_trimmed cs
  cases before with
  | nil => exact ⟨after, htext, hafter⟩
  | cons c more =>
    rw [htext] at h
    exact absurd (hbefore c List.mem_cons_self) (h c rfl)

theorem trimEnd_of_not {p : Char → Bool} {cs : List Char} (h : ∀ c ∈ cs, ¬ p c) :
    trimEnd p cs = cs := by
  have hkept : cs.reverse.dropWhile p = cs.reverse := by
    rw [List.dropWhile_eq_self_iff]
    exact fun hlength => h _ (List.mem_reverse.mp (List.getElem_mem hlength))
  rw [trimEnd, hkept, List.reverse_reverse]

theorem trimEnd_append_of_pos {p : Char → Bool} {after : List Char} (h : ∀ c ∈ after, p c)
    (cs : List Char) :
    trimEnd p (cs ++ after) = trimEnd p cs := by
  rw [trimEnd, List.reverse_append,
    List.dropWhile_append_of_pos fun c hc => h c (List.mem_reverse.mp hc), trimEnd]

theorem trim_trim (cs : List Char) : trim (trim cs) = trim cs := by
  have hend (xs : List Char) : trimEnd isBlank (trimEnd isBlank xs) = trimEnd isBlank xs := by
    simp only [trimEnd, List.reverse_reverse, List.dropWhile_idempotent]
  have hstart : trimStart isBlank (trim cs) = trim cs := by
    rw [trim]
    cases hkept : trimStart isBlank cs with
    | nil => rfl
    | cons c rest =>
      have hc : ¬ isBlank c := by
        have hhead := List.head?_dropWhile_not isBlank cs
        rw [← trimStart, hkept] at hhead
        simpa using hhead
      have hcons := trimEnd_append_cons hc [] rest
      rw [List.nil_append, List.nil_append] at hcons
      rw [hcons, trimStart, List.dropWhile_cons_of_neg hc]
  rw [trim, hstart, trim, hend]

/-- Blanks around a text without blanks are cut off. -/
theorem trim_surrounded {before cs after : List Char} (hbefore : ∀ c ∈ before, isBlank c)
    (hcs : ∀ c ∈ cs, ¬ isBlank c) (hafter : ∀ c ∈ after, isBlank c) :
    trim (before ++ (cs ++ after)) = cs := by
  rw [trim, trimStart, List.dropWhile_append_of_pos hbefore]
  cases cs with
  | nil =>
    rw [List.nil_append, List.dropWhile_eq_nil_iff.mpr hafter]
    rfl
  | cons c rest =>
    rw [List.cons_append, List.dropWhile_cons_of_neg (hcs c List.mem_cons_self), ← List.cons_append,
      trimEnd_append_of_pos hafter, trimEnd_of_not hcs]

theorem trim_of_ends {first sep : Char} (hfirst : ¬ isBlank first) (hsep : ¬ isBlank sep)
    (front : List Char) {back : List Char} (hback : ∀ c ∈ back, ¬ isBlank c) :
    trim (first :: front ++ sep :: back) = first :: front ++ sep :: back := by
  rw [trim, trimStart, List.cons_append, List.dropWhile_cons_of_neg hfirst, ← List.cons_append,
    trimEnd_append_cons hsep, trimEnd_of_not hback]

end CatalogEntities.Text
