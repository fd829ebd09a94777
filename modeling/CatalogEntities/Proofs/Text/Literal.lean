import CatalogEntities.Text.Literal
import Mathlib.Algebra.Group.Nat.Defs

/-!
A literal of source text is read back as the text that it was written for, whichever quotes it was
given and whatever had to be escaped in it.

Main result: `Literal.decode?_encode`.
-/

namespace CatalogEntities.Text.Literal

theorem hexValue?_digit {d : Nat} (hd : d < 16) : hexValue? (hexDigit d) = some d := by
  have hall : ∀ d : Fin 16, hexValue? (hexDigit d) = some d.val := by decide
  exact hall ⟨d, hd⟩

/-- The last digits of a number are read as its remainder. -/
theorem readHex?_hexDigits (width n : Nat) :
    readHex? (hexDigits width n) = some (n % 16 ^ width) := by
  induction width generalizing n with
  | zero => simp [hexDigits, readHex?, Nat.mod_one]
  | succ width ih =>
    have hstep : 16 * (n / 16 % 16 ^ width) + n % 16 = n % 16 ^ (width + 1) := by
      rw [Nat.pow_succ, Nat.mul_comm (16 ^ width), Nat.mod_mul]
      omega
    unfold readHex? at ih ⊢
    rw [hexDigits, List.foldlM_append, ih]
    simp [hexValue?_digit (Nat.mod_lt n (by decide)), hstep]

/-- The digits of an escape are read as the code point that they were written for. -/
theorem codePoint_read {c : Char} (width : Nat) (h : c.toNat < 16 ^ width) :
    ((readHex? (hexDigits width c.toNat)).bind fun n =>
      if h : n.isValidChar then some (Char.ofNatAux n h) else none) = some c := by
  have hvalid : c.toNat.isValidChar := c.valid
  rw [readHex?_hexDigits, Nat.mod_eq_of_lt h, Option.bind_some, dif_pos hvalid]
  rfl

/-- An escape by code point stands for its character. -/
theorem decodeBody?_escapeCode (quote c : Char) (rest : List Char) :
    decodeBody? quote (escapeCode c ++ rest) = (decodeBody? quote rest).map (c :: ·) := by
  have hbind {o : Option Char} (ho : o = some c) :
      (o.bind fun d => (decodeBody? quote rest).map (d :: ·)) =
        (decodeBody? quote rest).map (c :: ·) := by
    rw [ho, Option.bind_some]
  unfold escapeCode
  split
  · rename_i h
    exact hbind (codePoint_read 2 h)
  · split
    · rename_i h
      exact hbind (codePoint_read 4 h)
    · have h : c.toNat < 16 ^ 8 := by
        rcases c.valid with hlow | ⟨-, hhigh⟩
        · exact Nat.lt_trans hlow (by decide)
        · exact Nat.lt_trans hhigh (by decide)
      exact hbind (codePoint_read 8 h)

/-- What is no escape stands for itself, or closes the literal. -/
theorem decodeBody?_cons_of_ne {c : Char} (h : c ≠ '\\') (quote : Char) (rest : List Char) :
    decodeBody? quote (c :: rest) =
      if c == quote then if rest.isEmpty then some [] else none
      else if c == '\n' || c == '\r' then none
      else (decodeBody? quote rest).map (c :: ·) := by
  rw [decodeBody?]
  all_goals simp [h]

section

variable {quote : Char} (hquote : quote = '\'' ∨ quote = '"')
include hquote

theorem decodeBody?_quote : decodeBody? quote [quote] = some [] := by
  rcases hquote with rfl | rfl <;> rfl

theorem decodeBody?_encodeChar (c : Char) (rest : List Char) :
    decodeBody? quote (encodeChar quote c ++ rest) = (decodeBody? quote rest).map (c :: ·) := by
  unfold encodeChar
  split
  · rename_i hmark
    have hc : c = quote ∨ c = '\\' := by simpa using hmark
    rcases hc with rfl | rfl
    · rcases hquote with rfl | rfl <;> simp [decodeBody?]
    · simp [decodeBody?]
  rename_i hmark
  obtain ⟨hclose, hescape⟩ : c ≠ quote ∧ c ≠ '\\' := by simpa using hmark
  split
  · rename_i htab
    rw [eq_of_beq htab]
    rfl
  split
  · rename_i hline
    rw [eq_of_beq hline]
    rfl
  rename_i hline
  split
  · rename_i hreturn
    rw [eq_of_beq hreturn]
    rfl
  rename_i hreturn
  split
  · have hcloses : ¬ (c == quote) := by simpa using hclose
    have hends : ¬ (c == '\n' || c == '\r') := by simp [hline, hreturn]
    rw [List.singleton_append, decodeBody?_cons_of_ne hescape, if_neg hcloses, if_neg hends]
  · exact decodeBody?_escapeCode quote c rest

theorem decodeBody?_flatMap (cs : List Char) :
    decodeBody? quote (cs.flatMap (encodeChar quote) ++ [quote]) = some cs := by
  induction cs with
  | nil => exact decodeBody?_quote hquote
  | cons c rest ih =>
    rw [List.flatMap_cons, List.append_assoc, decodeBody?_encodeChar hquote, ih, Option.map_some]

end

theorem quoteFor_cases (cs : List Char) : quoteFor cs = '\'' ∨ quoteFor cs = '"' := by
  unfold quoteFor
  split
  · exact .inr rfl
  · exact .inl rfl

theorem decode?_encode (cs : List Char) : decode? (encode cs) = some cs := by
  have hquote := quoteFor_cases cs
  have hopens : quoteFor cs == '\'' || quoteFor cs == '"' := by simpa using hquote
  show (if quoteFor cs == '\'' || quoteFor cs == '"' then
    decodeBody? (quoteFor cs) (cs.flatMap (encodeChar (quoteFor cs)) ++ [quoteFor cs])
      else none) = some cs
  rw [if_pos hopens, decodeBody?_flatMap hquote]

end CatalogEntities.Text.Literal
