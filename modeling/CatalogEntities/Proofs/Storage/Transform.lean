import CatalogEntities.Proofs.Number.Spelling
import CatalogEntities.Proofs.Outcome
import CatalogEntities.Storage.Transform

/-!
Large integers on their way between the database and the program, which has them as texts. Nothing
is lost in either direction: a number comes back from its text, and a text comes back as the
canonical one of its number.

Main result: `Storage.bigInt_kept`.
-/

namespace CatalogEntities.Storage

open Number

theorem bindBigInt_text {t : String} {v : Value} :
    bindBigInt (.text t) = .ok v ↔ ∃ n, Spells n t.toList ∧ .int n = v := by
  have hread : bindBigInt (.text t) =
      (((integerOfText t).mapError IntegerReading.unreadable).mapError Failure.integer).map .int :=
    rfl
  rw [hread, Outcome.map_ok_iff]
  simp only [Outcome.mapError_ok_iff, integerOfText_ok_iff]

theorem loadBigInt_int {n : Int} (h : (natText n.natAbs).length ≤ digitLimit) :
    loadBigInt (.int n) = .ok (.text (integerText n)) := by
  have hwritten : writeInteger n = .ok (integerText n) := if_neg (Nat.not_lt_of_le h)
  simp only [loadBigInt, unlessNull, hwritten, Except.map, Except.mapError]

/-- A number that can be written is loaded as its canonical text, which is bound as that number. -/
theorem loaded_bound {n : Int} (h : (natText n.natAbs).length ≤ digitLimit) : ∃ s,
    loadBigInt (.int n) = .ok (.text s) ∧ Canonical n s.toList ∧
    bindBigInt (.text s) = .ok (.int n) := by
  have hcanonical := canonical_integerText h
  exact ⟨_, loadBigInt_int h, hcanonical, bindBigInt_text.mpr ⟨n, hcanonical.spells, rfl⟩⟩

/-- Every number of up to 4300 digits comes back from the text that it is loaded as. The texts that
can be bound are the spellings of numbers; the number that is bound is loaded as its canonical text,
and that is bound as the same number. -/
theorem bigInt_kept :
    (∀ n : Int, n.natAbs < 10 ^ digitLimit → ∃ s,
      loadBigInt (.int n) = .ok (.text s) ∧ bindBigInt (.text s) = .ok (.int n)) ∧
    ∀ (t : String) (v : Value), bindBigInt (.text t) = .ok v ↔
      ∃ n s, v = .int n ∧ Spells n t.toList ∧
      loadBigInt v = .ok (.text s) ∧ Canonical n s.toList ∧ bindBigInt (.text s) = .ok v := by
  refine ⟨fun n hn => ?_, fun t v => ⟨fun h => ?_, ?_⟩⟩
  · have hlimit : 0 < digitLimit := by decide
    have hfits : (natText n.natAbs).length ≤ digitLimit := by
      rwa [natText, String.length_ofList, Nat.length_toDigits_le_iff (by decide) hlimit]
    obtain ⟨s, hload, -, hbind⟩ := loaded_bound hfits
    exact ⟨s, hload, hbind⟩
  · obtain ⟨n, hspells, rfl⟩ := bindBigInt_text.mp h
    have hread : integerOfText t = .ok n := integerOfText_ok_iff.mpr hspells
    obtain ⟨s, hload, hcanonical, hbind⟩ := loaded_bound (natText_fits hread)
    exact ⟨n, s, rfl, hspells, hload, hcanonical, hbind⟩
  · rintro ⟨n, s, rfl, hspells, -⟩
    exact bindBigInt_text.mpr ⟨n, hspells, rfl⟩

/-- The least word of 64 bits, and a text with blanks, a sign, an underscore and digits of three
scripts. -/
theorem signedWords_kept :
    (-9223372036854775808 : Int).natAbs < 10 ^ digitLimit ∧
    (∃ s, loadBigInt (.int (-9223372036854775808)) = .ok (.text s) ∧
      bindBigInt (.text s) = .ok (.int (-9223372036854775808))) ∧
    bindBigInt (.text "\u3000-٠9_०٣ ") = .ok (.int (-903)) ∧
    ∃ s, loadBigInt (.int (-903)) = .ok (.text s) ∧ Canonical (-903) s.toList ∧
      bindBigInt (.text s) = .ok (.int (-903)) := by
  have hword : (-9223372036854775808 : Int).natAbs < 10 ^ digitLimit :=
    calc (-9223372036854775808 : Int).natAbs
      _ < 10 ^ 19 := by decide
      _ ≤ 10 ^ digitLimit := Nat.pow_le_pow_right (by decide) (by decide)
  have hbound : bindBigInt (.text "\u3000-٠9_०٣ ") = .ok (.int (-903)) := by
    rw [bindBigInt_text]
    exact ⟨-903, integerOfText_ok_iff.mp (by decide +kernel), rfl⟩
  obtain ⟨n, s, hn, -, hload, hcanonical, hbind⟩ := (bigInt_kept.2 _ _).mp hbound
  obtain rfl := Value.int.inj hn
  exact ⟨hword, bigInt_kept.1 _ hword, hbound, s, hload, hcanonical, hbind⟩

end CatalogEntities.Storage
