import CatalogEntities.Proofs.Text.CharClass
import CatalogEntities.Proofs.Text.Span
import CatalogEntities.Proofs.Text.Utf8
import CatalogEntities.Text.Percent

/-!
Percent coding. What was encoded is decoded to the same text, in a component as in the pairs of a
query; and a character that takes part in no escape cuts a text into pieces that are decoded on
their own.

Main results: `Percent.decode_encode`, `Percent.decode_separator`, `Percent.queryPairs_pairsText`.
-/

namespace CatalogEntities.Text.Percent

/-! ### Bytes -/

theorem decodeBytes_escape {a b : Char} {x y : Nat} (ha : Literal.hexValue? a = some x)
    (hb : Literal.hexValue? b = some y) (rest : List Char) :
    decodeBytes ('%' :: a :: b :: rest) = (16 * x + y).toUInt8 :: decodeBytes rest := by
  rw [decodeBytes, ha, hb]

/-- Whatever starts no escape stands for itself. -/
theorem decodeBytes_cons {c : Char} {rest : List Char}
    (h : ∀ a b more, c = '%' → rest = a :: b :: more →
    Literal.hexValue? a = none ∨ Literal.hexValue? b = none) :
    decodeBytes (c :: rest) = c.toNat.toUInt8 :: decodeBytes rest := by
  rw [decodeBytes.eq_def]
  split
  · rename_i a b more heq
    obtain ⟨rfl, rfl⟩ := List.cons.inj heq
    split
    · rename_i ha hb
      rcases h a b more rfl rfl with h | h
      · rw [ha] at h
        contradiction
      · rw [hb] at h
        contradiction
    · rfl
  · rename_i heq
    obtain ⟨rfl, rfl⟩ := List.cons.inj heq
    rfl
  · contradiction

theorem decodeBytes_cons_of_ne {c : Char} (h : c ≠ '%') (rest : List Char) :
    decodeBytes (c :: rest) = c.toNat.toUInt8 :: decodeBytes rest :=
  decodeBytes_cons fun _ _ _ he _ => absurd he h

/-- A character that is part of no escape. -/
structure Separates (c : Char) : Prop where
  ascii : isAscii c
  not_percent : c ≠ '%'
  not_hex : Literal.hexValue? c = none

theorem decodeBytes_append {c : Char} (hc : Separates c) (xs ys : List Char) :
    decodeBytes (xs ++ c :: ys) = decodeBytes xs ++ c.toNat.toUInt8 :: decodeBytes ys := by
  fun_induction decodeBytes xs with
  | case1 a b rest x y hb ha ih =>
    rw [List.cons_append, List.cons_append, List.cons_append, decodeBytes_escape ha hb, ih,
      List.cons_append]
  | case2 a b rest hnone ih =>
    rw [List.cons_append, decodeBytes_cons, ih, List.cons_append]
    intro a' b' more _ heq
    obtain ⟨rfl, rfl, -⟩ : a = a' ∧ b = b' ∧ rest ++ c :: ys = more := by simpa using heq
    cases ha : Literal.hexValue? a with
    | none => exact .inl rfl
    | some x =>
      cases hb : Literal.hexValue? b with
      | none => exact .inr rfl
      | some y => exact absurd hb (hnone x y ha)
  | case3 d rest hshort ih =>
    rw [List.cons_append, decodeBytes_cons, ih, List.cons_append]
    intro a b more hd heq
    -- a percent sign with less than two characters behind it meets the separator
    match rest, heq with
    | [], heq =>
      obtain ⟨rfl, -⟩ := List.cons.inj heq
      exact .inl hc.not_hex
    | [_], heq =>
      obtain ⟨-, heq⟩ := List.cons.inj heq
      obtain ⟨rfl, -⟩ := List.cons.inj heq
      exact .inr hc.not_hex
    | a :: b :: more, _ => exact absurd rfl (hshort a b more hd)
  | case4 => exact decodeBytes_cons_of_ne hc.not_percent ys

/-! ### Runs -/

theorem runs_cons (c : Char) (rest : List Char) :
    ∃ run more, runs (c :: rest) = (c :: run) :: more := by
  rw [runs]
  split
  · split
    · exact ⟨_, _, rfl⟩
    · exact ⟨[], _, rfl⟩
  · exact ⟨[], _, rfl⟩

theorem decodeRun_cons_of_not_ascii {c : Char} (hc : ¬ isAscii c) (run : List Char) :
    decodeRun (c :: run) = c :: run := by
  simp [decodeRun, hc]

theorem decode_cons_of_not_ascii {c : Char} (hc : ¬ isAscii c) (rest : List Char) :
    decode (c :: rest) = c :: decode rest := by
  rw [decode, decode, runs]
  split
  · rename_i d run more hruns
    rw [hruns]
    split
    · rename_i hsame
      have hd : ¬ isAscii d := by
        rw [← eq_of_beq hsame]
        exact hc
      rw [List.flatMap_cons, List.flatMap_cons, decodeRun_cons_of_not_ascii hc,
        decodeRun_cons_of_not_ascii hd, List.cons_append]
    · rw [List.flatMap_cons, decodeRun_cons_of_not_ascii hc, List.singleton_append]
  · rw [List.flatMap_cons, decodeRun_cons_of_not_ascii hc, List.singleton_append]

/-- A run of ASCII reaches to the first other character. -/
theorem runs_ascii_append {x : Char} {xs rest : List Char} (hxs : ∀ c ∈ x :: xs, isAscii c)
    (hrest : ∀ c ∈ rest.head?, ¬ isAscii c) : runs (x :: xs ++ rest) = (x :: xs) :: runs rest := by
  induction xs generalizing x with
  | nil =>
    have hx := hxs x List.mem_cons_self
    cases rest with
    | nil => rfl
    | cons d rest =>
      have hd : ¬ isAscii d := hrest d rfl
      obtain ⟨run, more, hruns⟩ := runs_cons d rest
      rw [List.singleton_append, runs, hruns]
      simp [hx, hd]
  | cons y ys ih =>
    have hx := hxs x List.mem_cons_self
    have hys : ∀ c ∈ y :: ys, isAscii c := fun c hc => hxs c (List.mem_cons_of_mem x hc)
    have hy := hys y List.mem_cons_self
    rw [List.cons_append, runs, ih hys]
    simp [hx, hy]

theorem decode_ascii_append {xs rest : List Char} (hxs : ∀ c ∈ xs, isAscii c)
    (hrest : ∀ c ∈ rest.head?, ¬ isAscii c) :
    decode (xs ++ rest) = Utf8.decodeLossy (decodeBytes xs) ++ decode rest := by
  cases xs with
  | nil => rfl
  | cons x xs =>
    have hall : (x :: xs).all isAscii := List.all_eq_true.mpr hxs
    rw [decode, runs_ascii_append hxs hrest, List.flatMap_cons, decodeRun, if_pos hall, decode]

theorem decode_of_ascii {xs : List Char} (hxs : ∀ c ∈ xs, isAscii c) :
    decode xs = Utf8.decodeLossy (decodeBytes xs) := by
  have h := decode_ascii_append hxs (show ∀ c ∈ ([] : List Char).head?, ¬ isAscii c by simp)
  rw [List.append_nil] at h
  rw [h]
  exact List.append_nil _

/-- A text is ASCII up to its first other character. -/
theorem exists_run (cs : List Char) : ∃ run rest, cs = run ++ rest ∧ (∀ c ∈ run, isAscii c) ∧
    ∀ c ∈ rest.head?, ¬ isAscii c := by
  refine ⟨cs.takeWhile isAscii, cs.dropWhile isAscii, List.takeWhile_append_dropWhile.symm, ?_, ?_⟩
  · exact fun c hc => List.mem_takeWhile_imp hc
  · intro c hc
    have h := List.head?_dropWhile_not isAscii cs
    rw [Option.mem_def.mp hc] at h
    simpa using h

/-- A character beyond ASCII stands for itself behind a run, too. -/
theorem decode_run_cons {run : List Char} (hrun : ∀ c ∈ run, isAscii c) {d : Char}
    (hd : ¬ isAscii d)
    (rest : List Char) : decode (run ++ d :: rest) = decode run ++ d :: decode rest := by
  have hhead : ∀ c ∈ (d :: rest).head?, ¬ isAscii c := by simpa using hd
  rw [decode_ascii_append hrun hhead, decode_cons_of_not_ascii hd, decode_of_ascii hrun]

theorem decode_run_separator {c : Char} (hc : Separates c) {run : List Char}
    (hrun : ∀ d ∈ run, isAscii d)
    (ys : List Char) : decode (run ++ c :: ys) = decode run ++ c :: decode ys := by
  have hlt : c.toNat < 128 := by simpa [isAscii] using hc.ascii
  have hval : c.toNat.toUInt8.toNat = c.toNat := Nat.mod_eq_of_lt (by omega)
  have hbyte : c.toNat.toUInt8 < 0x80 := by
    rw [UInt8.lt_iff_toNat_lt, hval]
    exact hlt
  obtain ⟨front, back, rfl, hfront, hback⟩ := exists_run ys
  have hwhole : ∀ d ∈ run ++ c :: front, isAscii d := by
    intro d hd
    rcases List.mem_append.mp hd with hd | hd
    · exact hrun d hd
    · rcases List.mem_cons.mp hd with rfl | hd
      · exact hc.ascii
      · exact hfront d hd
  rw [← List.cons_append, ← List.append_assoc, decode_ascii_append hwhole hback,
    decodeBytes_append hc,
    Utf8.decodeLossy_append hbyte, hval, Char.ofNat_toNat, decode_of_ascii hrun,
    decode_ascii_append hfront hback]
  simp only [List.append_assoc, List.cons_append]

/-- What keeps runs apart keeps whole texts apart. -/
theorem decode_apart {c : Char} (h : ∀ {run : List Char}, (∀ d ∈ run, isAscii d) → ∀ ys,
    decode (run ++ c :: ys) = decode run ++ c :: decode ys) (xs ys : List Char) :
    decode (xs ++ c :: ys) = decode xs ++ c :: decode ys := by
  induction hn : xs.length using Nat.strong_induction_on generalizing xs with
  | _ n ih =>
    obtain ⟨run, rest, rfl, hrun, hrest⟩ := exists_run xs
    cases rest with
    | nil =>
      rw [List.append_nil]
      exact h hrun ys
    | cons d rest =>
      have hd : ¬ isAscii d := hrest d rfl
      have hlength : rest.length < n := by
        rw [← hn, List.length_append, List.length_cons]
        omega
      rw [List.append_assoc, List.cons_append, decode_run_cons hrun hd,
        ih rest.length hlength rest rfl,
        decode_run_cons hrun hd, List.append_assoc, List.cons_append]

/-- Text on both sides of a separator is decoded separately. -/
theorem decode_separator {c : Char} (hc : Separates c) (xs ys : List Char) :
    decode (xs ++ c :: ys) = decode xs ++ c :: decode ys :=
  decode_apart (decode_run_separator hc) xs ys

theorem separates_of_isBlank {c : Char} (h : isBlank c) (hascii : isAscii c) : Separates c := by
  have hrange : 9 ≤ c.toNat ∧ c.toNat ≤ 32 := by
    simp only [isAscii, decide_eq_true_eq] at hascii
    simp only [isBlank, Bool.or_eq_true, Bool.and_eq_true, decide_eq_true_eq, beq_iff_eq] at h
    omega
  have hall : ∀ n : Fin 33, Char.ofNat n ≠ '%' ∧ Literal.hexValue? (Char.ofNat n) = none := by
    decide
  obtain ⟨hpercent, hhex⟩ := hall ⟨c.toNat, by omega⟩
  rw [Char.ofNat_toNat] at hpercent hhex
  exact ⟨hascii, hpercent, hhex⟩

/-- Blanks are part of no escape. -/
theorem decode_blank {c : Char} (h : isBlank c) (xs ys : List Char) :
    decode (xs ++ c :: ys) = decode xs ++ c :: decode ys := by
  by_cases hascii : isAscii c
  · exact decode_separator (separates_of_isBlank h hascii) xs ys
  · exact decode_apart (fun hrun => decode_run_cons hrun hascii) xs ys

theorem decode_ne_nil {cs : List Char} (h : cs ≠ []) : decode cs ≠ [] := by
  obtain ⟨c, rest, rfl⟩ := List.exists_cons_of_ne_nil h
  obtain ⟨run, more, hruns⟩ := runs_cons c rest
  rw [decode, hruns, List.flatMap_cons]
  refine List.append_ne_nil_of_left_ne_nil ?_ _
  unfold decodeRun
  split
  · have hbytes : decodeBytes (c :: run) ≠ [] := by
      rw [decodeBytes.eq_def]
      split
      · split <;> exact List.cons_ne_nil _ _
      · exact List.cons_ne_nil _ _
      · contradiction
    obtain ⟨b, tail, hb⟩ := List.exists_cons_of_ne_nil hbytes
    rw [hb, Utf8.decodeLossy, Utf8.decodeLossyFrom_cons]
    exact List.cons_ne_nil _ _
  · exact List.cons_ne_nil _ _

/-! ### Round trip -/

theorem hexValue?_hexDigit {d : Nat} (hd : d < 16) : Literal.hexValue? (hexDigit d) = some d := by
  have hall : ∀ d : Fin 16, Literal.hexValue? (hexDigit d) = some d.val := by decide
  exact hall ⟨d, hd⟩

theorem isUnreserved_hexDigit {d : Nat} (hd : d < 16) : isUnreserved (hexDigit d) := by
  have hall : ∀ d : Fin 16, isUnreserved (hexDigit d) := by decide
  exact hall ⟨d, hd⟩

theorem decodeBytes_encodeByte (b : UInt8) (rest : List Char) :
    decodeBytes (encodeByte b ++ rest) = b :: decodeBytes rest := by
  have hb : b.toNat < 256 := b.toNat_lt_size
  have hbyte : (16 * (b.toNat / 16) + b.toNat % 16).toUInt8 = b := by
    rw [Nat.div_add_mod]
    exact UInt8.ofNat_toNat
  show decodeBytes ('%' :: hexDigit (b.toNat / 16) :: hexDigit (b.toNat % 16) :: rest) =
    b :: decodeBytes rest
  rw [decodeBytes_escape (hexValue?_hexDigit (by omega)) (hexValue?_hexDigit (by omega)), hbyte]

theorem decodeBytes_encodeBytes (bytes : List UInt8) (rest : List Char) :
    decodeBytes (bytes.flatMap encodeByte ++ rest) = bytes ++ decodeBytes rest := by
  induction bytes with
  | nil => rfl
  | cons b bytes ih =>
    rw [List.flatMap_cons, List.append_assoc, decodeBytes_encodeByte, ih, List.cons_append]

theorem isAscii_of_isUnreserved {c : Char} (h : isUnreserved c) : isAscii c := by
  have hval : c.val.toNat = c.toNat := rfl
  simp only [isUnreserved, isAsciiLetter, isAsciiUpper, isAsciiLower, isAsciiDigit, Bool.or_eq_true,
    Bool.and_eq_true, decide_eq_true_eq, beq_iff_eq, Char.le_def, UInt32.le_iff_toNat_le, hval] at h
  rw [isAscii, decide_eq_true_eq]
  rcases h with (((h | rfl) | rfl) | rfl) | rfl
  · simp at h
    omega
  all_goals decide

theorem isUnreserved_of_isBlank {c : Char} (h : isBlank c) : isUnreserved c = false := by
  refine Bool.not_eq_true _ ▸ fun hkept => ?_
  simp only [isUnreserved, Bool.or_eq_true, beq_iff_eq] at hkept
  rcases hkept with ((((hletter | hdigit) | rfl) | rfl) | rfl) | rfl
  · exact not_isBlank_of_isAsciiLetter hletter h
  · have hrange := toNat_of_isAsciiDigit hdigit
    simp only [isBlank, Bool.or_eq_true, Bool.and_eq_true, decide_eq_true_eq, beq_iff_eq] at h
    omega
  all_goals contradiction

theorem utf8EncodeChar_of_ascii {c : Char} (h : isAscii c) :
    String.utf8EncodeChar c = [c.toNat.toUInt8] := by
  have hlt : c.toNat < 128 := by simpa [isAscii] using h
  have hle : c.val.toNat ≤ 0x7f := Nat.le_of_lt_succ hlt
  simp only [String.utf8EncodeChar, hle, ↓reduceIte]
  rfl

/-- Characters that text may keep as they are and still be decoded to itself. -/
def IsSafe (safe : List Char) : Prop := ∀ c ∈ safe, isAscii c ∧ c ≠ '%'

theorem isSafe_of_all {safe : List Char} (h : safe.all fun c => isAscii c && c != '%') :
    IsSafe safe := by
  intro c hc
  simpa using List.all_eq_true.mp h c hc

/-- The characters of encoded text. -/
theorem kept_of_mem_encode {safe cs : List Char} {c : Char} (h : c ∈ encode safe cs) :
    isUnreserved c ∨ c ∈ safe ∨ c = '%' := by
  obtain ⟨d, -, hd⟩ := List.mem_flatMap.mp h
  unfold encodeChar at hd
  split at hd
  · rename_i hkept
    obtain rfl := List.mem_singleton.mp hd
    rcases Bool.or_eq_true_iff.mp hkept with hkept | hkept
    · exact .inl hkept
    · exact .inr (.inl (List.contains_iff_mem.mp hkept))
  · obtain ⟨b, -, hb⟩ := List.mem_flatMap.mp hd
    have hlt : b.toNat < 256 := b.toNat_lt_size
    simp only [encodeByte, List.mem_cons, List.not_mem_nil, or_false] at hb
    rcases hb with rfl | rfl | rfl
    · exact .inr (.inr rfl)
    · exact .inl (isUnreserved_hexDigit (by omega))
    · exact .inl (isUnreserved_hexDigit (by omega))

theorem not_mem_encode {safe : List Char} {c : Char} (hreserved : isUnreserved c = false)
    (hsafe : c ∉ safe) (hpercent : c ≠ '%') (cs : List Char) : c ∉ encode safe cs := by
  intro h
  rcases kept_of_mem_encode h with h | h | h
  · rw [hreserved] at h
    contradiction
  · exact hsafe h
  · exact hpercent h

theorem encode_ne_nil (safe : List Char) {cs : List Char} (h : cs ≠ []) : encode safe cs ≠ [] := by
  obtain ⟨c, rest, rfl⟩ := List.exists_cons_of_ne_nil h
  rw [encode, List.flatMap_cons]
  refine List.append_ne_nil_of_left_ne_nil ?_ _
  unfold encodeChar
  split
  · exact List.cons_ne_nil _ _
  · obtain ⟨b, tail, hbytes, -⟩ := Utf8.step_encodeChar c []
    rw [hbytes, List.flatMap_cons]
    exact List.cons_ne_nil _ _

section

variable {safe : List Char} (hsafe : IsSafe safe)
include hsafe

theorem IsSafe.kept {c : Char} (h : isUnreserved c || safe.contains c) : isAscii c ∧ c ≠ '%' := by
  rcases Bool.or_eq_true_iff.mp h with h | h
  · refine ⟨isAscii_of_isUnreserved h, ?_⟩
    rintro rfl
    contradiction
  · exact hsafe c (List.contains_iff_mem.mp h)

theorem decodeBytes_encode (cs : List Char) : decodeBytes (encode safe cs) = Utf8.encode cs := by
  induction cs with
  | nil => rfl
  | cons c rest ih =>
    have hchar : ∀ more,
        decodeBytes (encodeChar safe c ++ more) = String.utf8EncodeChar c ++ decodeBytes more := by
      intro more
      unfold encodeChar
      split
      · rename_i hkept
        obtain ⟨hascii, hne⟩ := hsafe.kept hkept
        rw [List.singleton_append, decodeBytes_cons_of_ne hne, utf8EncodeChar_of_ascii hascii,
          List.singleton_append]
      · exact decodeBytes_encodeBytes _ more
    rw [encode, List.flatMap_cons, hchar, ← encode, ih, Utf8.encode, Utf8.encode, List.flatMap_cons]

theorem decode_encode (cs : List Char) : decode (encode safe cs) = cs := by
  have hascii : ∀ c ∈ encode safe cs, isAscii c := by
    intro c hc
    rcases kept_of_mem_encode hc with h | h | rfl
    · exact isAscii_of_isUnreserved h
    · exact (hsafe c h).1
    · decide
  rw [decode_of_ascii hascii, decodeBytes_encode hsafe, Utf8.decodeLossy_encode]

end

/-! ### Queries -/

/-- A key and its value, both encoded. -/
def pairText (pair : String × String) : List Char :=
  encode [] pair.1.toList ++ '=' :: encode [] pair.2.toList

/-- The pairs of a query as it is written. -/
def pairsText : List (String × String) → List Char
  | [] => []
  | [pair] => pairText pair
  | pair :: rest => pairText pair ++ '&' :: pairsText rest

/-- Encoded text has no plus signs, so it is the same in a query. -/
theorem decodeForm_encode (cs : List Char) : decodeForm (encode [] cs) = cs := by
  have hplus : ∀ c ∈ encode [] cs, (if c == '+' then ' ' else c) = c := by
    intro c hc
    refine if_neg fun he => ?_
    rw [eq_of_beq he] at hc
    exact not_mem_encode (by decide) List.not_mem_nil (by decide) cs hc
  rw [decodeForm, List.map_congr_left hplus, List.map_id', decode_encode (List.forall_mem_nil _)]

theorem queryPair?_pairText (pair : String × String) :
    queryPair? true (pairText pair) = some pair := by
  have hkey : '=' ∉ encode [] pair.1.toList :=
    not_mem_encode (by decide) List.not_mem_nil (by decide) _
  have hsome : (pairText pair).isEmpty = false := by simp [pairText]
  rw [queryPair?, hsome, pairText, cut?_append hkey]
  simp only [Option.getD_some, decodeForm_encode, String.ofList_toList, Bool.not_true,
    Bool.and_false, Bool.or_self, Bool.false_eq_true, ↓reduceIte]

theorem queryPairs_pairsText (pairs : List (String × String)) :
    queryPairs true (pairsText pairs) = pairs := by
  have hpair : ∀ pair : String × String, '&' ∉ pairText pair := by
    intro pair h
    rcases List.mem_append.mp h with h | h
    · exact not_mem_encode (by decide) List.not_mem_nil (by decide) _ h
    · rcases List.mem_cons.mp h with h | h
      · contradiction
      · exact not_mem_encode (by decide) List.not_mem_nil (by decide) _ h
  fun_induction pairsText pairs with
  | case1 => rfl
  | case2 pair =>
    rw [queryPairs, splitAt_of_not_mem (hpair pair),
      List.filterMap_cons_some (queryPair?_pairText pair), List.filterMap_nil]
  | case3 pair rest _ ih =>
    rw [queryPairs, splitAt_append (hpair pair),
      List.filterMap_cons_some (queryPair?_pairText pair), ← queryPairs, ih]

end CatalogEntities.Text.Percent
