/-!
UTF-8: encoding of characters and strict decoding, with the place and the reason of the first
fault. A sequence that breaks off is reported together with the bytes that still fit it.
-/

namespace CatalogEntities.Text.Utf8

def encode (cs : List Char) : List UInt8 := cs.flatMap String.utf8EncodeChar

inductive Reason
  | invalidStart
  | invalidContinuation
  | unexpectedEnd
  deriving DecidableEq, Repr

def Reason.message : Reason → String
  | .invalidStart => "invalid start byte"
  | .invalidContinuation => "invalid continuation byte"
  | .unexpectedEnd => "unexpected end of data"

/-- The first undecodable bytes: their position, their number and the first of them. -/
structure Fault where
  position : Nat
  length : Nat
  byte : UInt8
  reason : Reason
  deriving DecidableEq, Repr

/-- What a lead byte announces: how many bytes follow, its payload, and the range of the first
of them (which excludes overlong forms, surrogates and codes beyond the last plane). -/
def announced? (b : UInt8) : Option (Nat × Nat × UInt8 × UInt8) :=
  if 0xc2 ≤ b && b ≤ 0xdf then some (1, b.toNat - 0xc0, 0x80, 0xbf)
  else if b == 0xe0 then some (2, 0, 0xa0, 0xbf)
  else if b == 0xed then some (2, 0xd, 0x80, 0x9f)
  else if 0xe1 ≤ b && b ≤ 0xef then some (2, b.toNat - 0xe0, 0x80, 0xbf)
  else if b == 0xf0 then some (3, 0, 0x90, 0xbf)
  else if b == 0xf4 then some (3, 4, 0x80, 0x8f)
  else if 0xf1 ≤ b && b ≤ 0xf3 then some (3, b.toNat - 0xf0, 0x80, 0xbf)
  else none

/-- One step of decoding: a character or a fault, and the number of bytes taken. -/
inductive Step
  | char (c : Char) (taken : Nat)
  | fault (length : Nat) (reason : Reason)

private def continued (need code : Nat) (low high : UInt8) (taken : Nat) : List UInt8 → Step
  | [] => if need == 0 then .char (Char.ofNat code) taken else .fault taken .unexpectedEnd
  | b :: rest =>
    if need == 0 then .char (Char.ofNat code) taken
    else if low ≤ b && b ≤ high then
      continued (need - 1) (code * 64 + (b.toNat - 0x80)) 0x80 0xbf (taken + 1) rest
    else .fault taken .invalidContinuation

def step (b : UInt8) (rest : List UInt8) : Step :=
  if b < 0x80 then .char (Char.ofNat b.toNat) 1
  else match announced? b with
    | none => .fault 1 .invalidStart
    | some (need, payload, low, high) => continued need payload low high 1 rest

/-- What decoding with replacements makes of a step: the character and the number of bytes. -/
def Step.shown : Step → Char × Nat
  | .char c taken => (c, taken)
  | .fault length _ => (Char.ofNat 0xfffd, length)

private theorem toNat_ofNat {n : Nat} (h : n < 256) : (UInt8.ofNat n).toNat = n := by
  rw [UInt8.toNat_ofNat']
  exact Nat.mod_eq_of_lt h

private theorem toNat_beq (b k : UInt8) : (b == k) = decide (b.toNat = k.toNat) := by
  rw [Bool.eq_iff_iff, beq_iff_eq, decide_eq_true_eq, UInt8.toNat_inj]

private theorem continued_zero (code : Nat) (low high : UInt8) (taken : Nat) (bytes : List UInt8) :
    continued 0 code low high taken bytes = .char (Char.ofNat code) taken := by
  cases bytes <;> rfl

/-- A continuation byte adds its six bits to the code. -/
private theorem continued_bits {low high : UInt8} {n : Nat} (h : n < 64)
    (hlow : low.toNat ≤ n + 0x80)
    (hhigh : n + 0x80 ≤ high.toNat) (need code taken : Nat) (rest : List UInt8) :
    continued (need + 1) code low high taken (UInt8.ofNat (n + 0x80) :: rest) =
      continued need (code * 64 + n) 0x80 0xbf (taken + 1) rest := by
  have hval : (UInt8.ofNat (n + 0x80)).toNat = n + 0x80 := toNat_ofNat (by omega)
  have hrange : low ≤ UInt8.ofNat (n + 0x80) ∧ UInt8.ofNat (n + 0x80) ≤ high := by
    rw [UInt8.le_iff_toNat_le, UInt8.le_iff_toNat_le, hval]
    exact ⟨hlow, hhigh⟩
  have hbits : (UInt8.ofNat (n + 0x80)).toNat - 0x80 = n := by omega
  rw [continued]
  simp only [hrange, hbits, Nat.add_sub_cancel, decide_true, Bool.and_self, ↓reduceIte]
  rfl

section

variable {b : UInt8} {n m : Nat}

private theorem announced?_two (h : b.toNat = n + 0xc0) (hlow : 2 ≤ n) (hhigh : n < 32) :
    announced? b = some (1, n, 0x80, 0xbf) := by
  simp only [announced?, UInt8.le_iff_toNat_le, h, UInt8.reduceToNat, decide_eq_true_eq,
    Bool.and_eq_true]
  rw [if_pos (by omega), Nat.add_sub_cancel]

/-- A lead byte of three; `m` are the bits of the byte behind it. -/
private theorem announced?_three (h : b.toNat = n + 0xe0) (hn : n < 16) (hm : m < 64)
    (hshort : n = 0 → 32 ≤ m) (hsurrogate : n = 13 → m < 32) : ∃ low high,
    announced? b = some (2, n, low, high) ∧ low.toNat ≤ m + 0x80 ∧ m + 0x80 ≤ high.toNat := by
  simp only [announced?, UInt8.le_iff_toNat_le, toNat_beq, h, UInt8.reduceToNat, decide_eq_true_eq,
    Bool.and_eq_true]
  rw [if_neg (by omega)]
  by_cases hzero : n = 0
  · rw [if_pos (by omega), hzero]
    exact ⟨0xa0, 0xbf, rfl, by simp; omega, by simp; omega⟩
  by_cases hd : n = 13
  · rw [if_neg (by omega), if_pos (by omega), hd]
    exact ⟨0x80, 0x9f, rfl, by simp, by simp; omega⟩
  · rw [if_neg (by omega), if_neg (by omega), if_pos (by omega), Nat.add_sub_cancel]
    exact ⟨0x80, 0xbf, rfl, by simp, by simp; omega⟩

/-- A lead byte of four. -/
private theorem announced?_four (h : b.toNat = n + 0xf0) (hn : n < 5) (hm : m < 64)
    (hshort : n = 0 → 16 ≤ m) (hlast : n = 4 → m < 16) : ∃ low high,
    announced? b = some (3, n, low, high) ∧ low.toNat ≤ m + 0x80 ∧ m + 0x80 ≤ high.toNat := by
  simp only [announced?, UInt8.le_iff_toNat_le, toNat_beq, h, UInt8.reduceToNat, decide_eq_true_eq,
    Bool.and_eq_true]
  rw [if_neg (by omega), if_neg (by omega), if_neg (by omega), if_neg (by omega)]
  by_cases hzero : n = 0
  · rw [if_pos (by omega), hzero]
    exact ⟨0x90, 0xbf, rfl, by simp; omega, by simp; omega⟩
  by_cases hfour : n = 4
  · rw [if_neg (by omega), if_pos (by omega), hfour]
    exact ⟨0x80, 0x8f, rfl, by simp, by simp; omega⟩
  · rw [if_neg (by omega), if_neg (by omega), if_pos (by omega), Nat.add_sub_cancel]
    exact ⟨0x80, 0xbf, rfl, by simp, by simp; omega⟩

end

private theorem step_announced {b : UInt8} {need payload : Nat} {low high : UInt8}
    (h : announced? b = some (need, payload, low, high)) (hb : 0x80 ≤ b.toNat) (rest : List UInt8) :
    step b rest = continued need payload low high 1 rest := by
  have hascii : ¬ b < 0x80 := by
    rw [UInt8.lt_iff_toNat_lt]
    exact Nat.not_lt.mpr hb
  rw [step, if_neg hascii, h]

/-- The bytes of a character are taken together, whatever follows them. -/
theorem step_encodeChar (c : Char) (more : List UInt8) : ∃ b tail,
    String.utf8EncodeChar c = b :: tail ∧ step b (tail ++ more) = .char c (tail.length + 1) := by
  have hvalid : c.val.toNat < 0xd800 ∨ 0xdfff < c.val.toNat ∧ c.val.toNat < 0x110000 := c.valid
  have hcode : Char.ofNat c.val.toNat = c := Char.ofNat_toNat c
  fun_cases String.utf8EncodeChar c with
  | case1 v hone =>
    refine ⟨_, _, rfl, ?_⟩
    have hval : (UInt8.ofNat v).toNat = v := toNat_ofNat (by omega)
    have hascii : UInt8.ofNat v < 0x80 := by
      rw [UInt8.lt_iff_toNat_lt, hval]
      exact Nat.lt_succ_of_le hone
    rw [step, if_pos hascii, hval, hcode]
    rfl
  | case2 v hone htwo =>
    refine ⟨_, _, rfl, ?_⟩
    have hb : (UInt8.ofNat (v / 64 % 32 + 0xc0)).toNat = v / 64 % 32 + 0xc0 :=
      toNat_ofNat (by omega)
    have hlead := announced?_two hb (by omega) (by omega)
    have hcode' : v / 64 % 32 * 64 + v % 64 = v := by omega
    rw [step_announced hlead (by omega), List.cons_append,
      continued_bits (by omega) (by simp) (by simp; omega), continued_zero, hcode', hcode]
    rfl
  | case3 v hone htwo hthree =>
    refine ⟨_, _, rfl, ?_⟩
    have hb : (UInt8.ofNat (v / 4096 % 16 + 0xe0)).toNat = v / 4096 % 16 + 0xe0 :=
      toNat_ofNat (by omega)
    obtain ⟨low, high, hlead, hlow, hhigh⟩ := announced?_three (m := v / 64 % 64) hb (by omega)
      (by omega) (by omega) (by omega)
    have hcode' : (v / 4096 % 16 * 64 + v / 64 % 64) * 64 + v % 64 = v := by omega
    rw [step_announced hlead (by omega), List.cons_append, continued_bits (by omega) hlow hhigh,
      List.cons_append, continued_bits (by omega) (by simp) (by simp; omega), continued_zero,
      hcode', hcode]
    rfl
  | case4 v hone htwo hthree =>
    refine ⟨_, _, rfl, ?_⟩
    have hb : (UInt8.ofNat (v / 262144 % 8 + 0xf0)).toNat = v / 262144 % 8 + 0xf0 :=
      toNat_ofNat (by omega)
    obtain ⟨low, high, hlead, hlow, hhigh⟩ := announced?_four (m := v / 4096 % 64) hb (by omega)
      (by omega) (by omega) (by omega)
    have hcode' : ((v / 262144 % 8 * 64 + v / 4096 % 64) * 64 + v / 64 % 64) * 64 + v % 64 = v := by
      omega
    rw [step_announced hlead (by omega), List.cons_append, continued_bits (by omega) hlow hhigh,
      List.cons_append, continued_bits (by omega) (by simp) (by simp; omega),
      List.cons_append, continued_bits (by omega) (by simp) (by simp; omega), continued_zero,
      hcode', hcode]
    rfl

private theorem announced?_low {b low high : UInt8} {need payload : Nat}
    (h : announced? b = some (need, payload, low, high)) : 0x80 ≤ low := by
  unfold announced? at h
  iterate 7
    split at h
    · simp only [Option.some.injEq, Prod.mk.injEq] at h
      rw [← h.2.2.1]
      decide
  contradiction

private theorem shown_continued {z : UInt8} (hz : z < 0x80) (more rest : List UInt8) {low : UInt8}
    (hlow : 0x80 ≤ low) (need code : Nat) (high : UInt8) (taken : Nat) :
    (continued need code low high taken (rest ++ z :: more)).shown =
      (continued need code low high taken rest).shown ∧
    (continued need code low high taken rest).shown.2 ≤ taken + rest.length := by
  induction rest generalizing need code low high taken with
  | nil =>
    cases need with
    | zero => rw [continued_zero, continued_zero]; exact ⟨rfl, Nat.le_refl _⟩
    | succ need =>
      have hrange : ¬ low ≤ z := UInt8.not_le.mpr (UInt8.lt_of_lt_of_le hz hlow)
      simp [continued, hrange, Step.shown]
  | cons b rest ih =>
    cases need with
    | zero => rw [continued_zero, continued_zero]; exact ⟨rfl, Nat.le_add_right _ _⟩
    | succ need =>
      obtain ⟨hsame, htaken⟩ :=
        ih (show (0x80 : UInt8) ≤ 0x80 by decide) need (code * 64 + (b.toNat - 0x80)) 0xbf (taken + 1)
      by_cases hrange : (low ≤ b && b ≤ high) = true
      · simp only [List.cons_append, continued, hrange, ↓reduceIte, Nat.add_sub_cancel,
          List.length_cons]
        refine ⟨hsame, ?_⟩
        simp
        omega
      · simp [continued, hrange, Step.shown]

/-- A byte of ASCII ends what comes before it, as the end of the text does. -/
theorem shown_step_append {z : UInt8} (hz : z < 0x80) (b : UInt8) (rest more : List UInt8) :
    (step b (rest ++ z :: more)).shown = (step b rest).shown ∧
      (step b rest).shown.2 ≤ rest.length + 1 := by
  unfold step
  split
  · exact ⟨rfl, Nat.le_add_left 1 _⟩
  · split
    · exact ⟨rfl, Nat.le_add_left 1 _⟩
    · rename_i need payload low high hannounced
      have hstep := shown_continued hz more rest (announced?_low hannounced) need payload high 1
      rw [Nat.add_comm 1] at hstep
      exact hstep

/-- `skip` counts the bytes that belong to the character before. -/
def decodeFrom (position : Nat) (skip : Nat) : List UInt8 → Except Fault (List Char)
  | [] => .ok []
  | b :: rest =>
    match skip with
    | skip + 1 => decodeFrom (position + 1) skip rest
    | 0 =>
      match step b rest with
      | .char c taken => (decodeFrom (position + 1) (taken - 1) rest).map (c :: ·)
      | .fault length reason => .error ⟨position, length, b, reason⟩

/-- Strict decoding. -/
def decode (bytes : List UInt8) : Except Fault (List Char) := decodeFrom 0 0 bytes

/-- Decoding with `U+FFFD` in the place of each fault. -/
def decodeLossyFrom (skip : Nat) : List UInt8 → List Char
  | [] => []
  | b :: rest =>
    match skip with
    | skip + 1 => decodeLossyFrom skip rest
    | 0 =>
      match step b rest with
      | .char c taken => c :: decodeLossyFrom (taken - 1) rest
      | .fault length _ => Char.ofNat 0xfffd :: decodeLossyFrom (length - 1) rest

def decodeLossy (bytes : List UInt8) : List Char := decodeLossyFrom 0 bytes

/-- Decoding in which each byte of a fault is kept as an escape `\xNN`. -/
def decodeEscapedFrom (skip : Nat) (escape : UInt8 → List Char) : List UInt8 → List Char
  | [] => []
  | b :: rest =>
    match skip with
    | skip + 1 => decodeEscapedFrom skip escape rest
    | 0 =>
      match step b rest with
      | .char c taken => c :: decodeEscapedFrom (taken - 1) escape rest
      | .fault _ _ => escape b ++ decodeEscapedFrom 0 escape rest

end CatalogEntities.Text.Utf8
