import CatalogEntities.Text.Utf8

/-!
Decoding with replacements. Characters come back from their bytes, and a byte of ASCII ends
whatever stands before it, so a text of bytes may be cut there and decoded piece by piece.

Main results: `Utf8.decodeLossy_encode`, `Utf8.decodeLossy_append`.
-/

namespace CatalogEntities.Text.Utf8

theorem decodeLossyFrom_cons (b : UInt8) (rest : List UInt8) :
    decodeLossyFrom 0 (b :: rest) =
      (step b rest).shown.1 :: decodeLossyFrom ((step b rest).shown.2 - 1) rest := by
  rw [decodeLossyFrom]
  cases step b rest <;> rfl

theorem decodeLossyFrom_length (xs ys : List UInt8) :
    decodeLossyFrom xs.length (xs ++ ys) = decodeLossyFrom 0 ys := by
  induction xs with
  | nil => rfl
  | cons x xs ih => exact ih

theorem decodeLossy_encodeChar_append (c : Char) (more : List UInt8) :
    decodeLossy (String.utf8EncodeChar c ++ more) = c :: decodeLossy more := by
  obtain ⟨b, tail, hbytes, hstep⟩ := step_encodeChar c more
  rw [hbytes, List.cons_append, decodeLossy, decodeLossyFrom_cons, hstep]
  show c :: decodeLossyFrom tail.length (tail ++ more) = c :: decodeLossy more
  rw [decodeLossyFrom_length, decodeLossy]

theorem decodeLossy_encode (cs : List Char) : decodeLossy (encode cs) = cs := by
  induction cs with
  | nil => rfl
  | cons c rest ih =>
    have hcons : encode (c :: rest) = String.utf8EncodeChar c ++ encode rest := List.flatMap_cons
    rw [hcons, decodeLossy_encodeChar_append, ih]

theorem decodeLossyFrom_append {z : UInt8} (hz : z < 0x80) (more xs : List UInt8) {skip : Nat}
    (hskip : skip ≤ xs.length) :
    decodeLossyFrom skip (xs ++ z :: more) =
      decodeLossyFrom skip xs ++ decodeLossyFrom 0 (z :: more) := by
  induction xs generalizing skip with
  | nil =>
    obtain rfl : skip = 0 := Nat.le_zero.mp hskip
    rfl
  | cons x xs ih =>
    rw [List.length_cons] at hskip
    cases skip with
    | succ skip => exact ih (Nat.le_of_succ_le_succ hskip)
    | zero =>
      obtain ⟨hsame, htaken⟩ := shown_step_append hz x xs more
      rw [List.cons_append, decodeLossyFrom_cons, decodeLossyFrom_cons, hsame, ih (by omega)]
      rfl

theorem decodeLossy_append {z : UInt8} (hz : z < 0x80) (xs more : List UInt8) :
    decodeLossy (xs ++ z :: more) = decodeLossy xs ++ Char.ofNat z.toNat :: decodeLossy more := by
  have hstep : step z more = .char (Char.ofNat z.toNat) 1 := if_pos hz
  have hcut := decodeLossyFrom_append hz more xs (Nat.zero_le xs.length)
  rw [decodeLossyFrom_cons, hstep] at hcut
  exact hcut

end CatalogEntities.Text.Utf8
