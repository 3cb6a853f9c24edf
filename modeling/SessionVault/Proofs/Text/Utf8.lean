import Mathlib.Tactic.SplitIfs
import Mathlib.Tactic.Lemma
import SessionVault.Text.Utf8
/-!
# Texts survive UTF-8

`Utf8.decode` undoes `Utf8.encode`.  The reader takes one character at a time, so the statement
is proved character by character: in front of any further bytes, the bytes of a character are read
as that character (`decodeOnto_encodeChar`).  The four cases are the four lengths of a character.
-/

namespace SessionVault.Utf8

/-! ## Bytes of joined texts -/

/-- The empty text has no bytes. -/
@[simp] lemma encode_empty : encode "" = [] := by
  simp [encode]

/-- The bytes of a joined text are the joined bytes. -/
@[simp] lemma encode_append (s t : String) : encode (s ++ t) = encode s ++ encode t := by
  simp [encode]

/-- The bytes of a list of characters. -/
@[simp] lemma encode_ofList (cs : List Char) :
    encode (String.ofList cs) = cs.flatMap String.utf8EncodeChar := by
  simp [encode]

/-- An ASCII character is one byte. -/
lemma encodeChar_ascii {c : Char} (h : c.toNat < 0x80) : String.utf8EncodeChar c = [ascii c] := by
  have hv : c.val.toNat ≤ 0x7f := Nat.le_of_lt_succ h
  simp only [String.utf8EncodeChar, hv, if_true]
  rfl

/-- A text of ASCII characters has one byte for each character. -/
lemma flatMap_encodeChar_ascii {cs : List Char} (h : ∀ c ∈ cs, c.toNat < 0x80) :
    cs.flatMap String.utf8EncodeChar = cs.map ascii := by
  induction cs with
  | nil => rfl
  | cons c cs ih =>
    rw [List.flatMap_cons, encodeChar_ascii (h c List.mem_cons_self),
      ih fun d hd => h d (List.mem_cons_of_mem _ hd)]
    rfl

/-- ASCII characters are told apart by their bytes. -/
lemma ascii_toNat {c : Char} (h : c.toNat < 0x80) : (ascii c).toNat = c.toNat := by
  unfold ascii
  rw [Nat.toUInt8, UInt8.toNat_ofNat']
  omega

/-! ## Reading one character -/

/-- A byte given by a number below 256. -/
lemma toNat_ofNat_of_lt {n : Nat} (h : n < 256) : (UInt8.ofNat n).toNat = n := by
  rw [UInt8.toNat_ofNat']
  omega

/-- The bytes of a character that is not ASCII are none of an ASCII character. -/
lemma le_of_mem_encodeChar {c : Char} (hc : ¬c.toNat < 0x80) {b : UInt8}
    (hb : b ∈ String.utf8EncodeChar c) : 0x80 ≤ b.toNat := by
  have hlong : ¬c.val.toNat ≤ 0x7f := fun h => hc (Nat.lt_succ_of_le h)
  have hpast : ∀ n m, 0x80 ≤ m → n + m < 256 → 0x80 ≤ (UInt8.ofNat (n + m)).toNat := by
    intro n m hm hlt
    rw [toNat_ofNat_of_lt hlt]
    omega
  unfold String.utf8EncodeChar at hb
  dsimp only at hb
  rw [if_neg hlong] at hb
  split_ifs at hb <;> simp only [List.mem_cons, List.not_mem_nil, or_false] at hb
  · rcases hb with rfl | rfl <;> exact hpast _ _ (by omega) (by omega)
  · rcases hb with rfl | rfl | rfl <;> exact hpast _ _ (by omega) (by omega)
  · rcases hb with rfl | rfl | rfl | rfl <;> exact hpast _ _ (by omega) (by omega)

/-- Continuation bytes by their numbers. -/
lemma isTail_iff {b : UInt8} : isTail b = true ↔ 0x80 ≤ b.toNat ∧ b.toNat ≤ 0xBF := by
  simp [isTail, UInt8.le_iff_toNat_le]

/-- A continuation byte may come second in a character of three bytes unless the spelling would be
too short or the character a surrogate. -/
lemma second3_of_isTail {lead b : UInt8} (h : isTail b = true)
    (hshort : lead.toNat = 0xE0 → 0xA0 ≤ b.toNat)
    (hsurrogate : lead.toNat = 0xED → b.toNat ≤ 0x9F) : second3 lead b = true := by
  have htail := isTail_iff.1 h
  unfold second3
  split_ifs with h₁ h₂
  · have := hshort (congrArg UInt8.toNat h₁)
    simp [UInt8.le_iff_toNat_le, this, htail]
  · have := hsurrogate (congrArg UInt8.toNat h₂)
    simp [UInt8.le_iff_toNat_le, this, htail]
  · exact h

/-- A continuation byte may come second in a character of four bytes unless the spelling would be
too short or the character too large. -/
lemma second4_of_isTail {lead b : UInt8} (h : isTail b = true)
    (hshort : lead.toNat = 0xF0 → 0x90 ≤ b.toNat)
    (hlarge : lead.toNat = 0xF4 → b.toNat ≤ 0x8F) : second4 lead b = true := by
  have htail := isTail_iff.1 h
  unfold second4
  split_ifs with h₁ h₂
  · have := hshort (congrArg UInt8.toNat h₁)
    simp [UInt8.le_iff_toNat_le, this, htail]
  · have := hlarge (congrArg UInt8.toNat h₂)
    simp [UInt8.le_iff_toNat_le, this, htail]
  · exact h

/-- A byte below 128 is read as a character. -/
lemma decodeOnto_one {b₀ : UInt8} (h₀ : b₀.toNat < 0x80) (index : Nat) (acc : List Char)
    (rest : Bytes) :
    decodeOnto index acc (b₀ :: rest) =
      decodeOnto (index + 1) (Char.ofNat b₀.toNat :: acc) rest := by
  have hlead : b₀ < 0x80 := UInt8.lt_iff_toNat_lt.2 h₀
  rw [decodeOnto.eq_def]
  simp [hlead]

/-- Two bytes that are read as a character. -/
lemma decodeOnto_two {b₀ b₁ : UInt8} (h₀ : 0xC2 ≤ b₀.toNat ∧ b₀.toNat ≤ 0xDF)
    (h₁ : isTail b₁ = true) (index : Nat) (acc : List Char) (rest : Bytes) :
    decodeOnto index acc (b₀ :: b₁ :: rest) =
      decodeOnto (index + 2) (Char.ofNat (b₀.toNat % 32 * 64 + tailBits b₁) :: acc) rest := by
  have hlead : ¬ b₀ < 0x80 := by
    rw [UInt8.lt_iff_toNat_lt]
    exact Nat.not_lt.2 (Nat.le_trans (by decide) h₀.1)
  rw [decodeOnto.eq_def]
  simp [hlead, UInt8.le_iff_toNat_le, h₀, h₁]

/-- Three bytes that are read as a character. -/
lemma decodeOnto_three {b₀ b₁ b₂ : UInt8} (h₀ : 0xE0 ≤ b₀.toNat ∧ b₀.toNat ≤ 0xEF)
    (h₁ : second3 b₀ b₁ = true) (h₂ : isTail b₂ = true) (index : Nat) (acc : List Char)
    (rest : Bytes) :
    decodeOnto index acc (b₀ :: b₁ :: b₂ :: rest) =
      decodeOnto (index + 3)
        (Char.ofNat ((b₀.toNat % 16 * 64 + tailBits b₁) * 64 + tailBits b₂) :: acc) rest := by
  have hlead : ¬ b₀ < 0x80 := by
    rw [UInt8.lt_iff_toNat_lt]
    exact Nat.not_lt.2 (Nat.le_trans (by decide) h₀.1)
  have htwo : ¬ b₀.toNat ≤ 0xDF := by omega
  rw [decodeOnto.eq_def]
  simp [hlead, UInt8.le_iff_toNat_le, h₀, htwo, h₁, h₂]

/-- Four bytes that are read as a character. -/
lemma decodeOnto_four {b₀ b₁ b₂ b₃ : UInt8} (h₀ : 0xF0 ≤ b₀.toNat ∧ b₀.toNat ≤ 0xF4)
    (h₁ : second4 b₀ b₁ = true) (h₂ : isTail b₂ = true) (h₃ : isTail b₃ = true) (index : Nat)
    (acc : List Char) (rest : Bytes) :
    decodeOnto index acc (b₀ :: b₁ :: b₂ :: b₃ :: rest) =
      decodeOnto (index + 4)
        (Char.ofNat (((b₀.toNat % 8 * 64 + tailBits b₁) * 64 + tailBits b₂) * 64
          + tailBits b₃) :: acc) rest := by
  have hlead : ¬ b₀ < 0x80 := by
    rw [UInt8.lt_iff_toNat_lt]
    exact Nat.not_lt.2 (Nat.le_trans (by decide) h₀.1)
  have htwo : ¬ b₀.toNat ≤ 0xDF := by omega
  have hthree : ¬ b₀.toNat ≤ 0xEF := by omega
  rw [decodeOnto.eq_def]
  simp [hlead, UInt8.le_iff_toNat_le, h₀, htwo, hthree, h₁, h₂, h₃]

/-- The bytes of a character are read as that character, whatever follows. -/
lemma decodeOnto_encodeChar (index : Nat) (acc : List Char) (c : Char) (rest : Bytes) :
    ∃ next, decodeOnto index acc (String.utf8EncodeChar c ++ rest) =
      decodeOnto next (c :: acc) rest := by
  -- a surrogate is no character, which rules out the second bytes that `second3` refuses
  have hvalid : c.val.toNat < 0xD800 ∨ 0xDFFF < c.val.toNat ∧ c.val.toNat < 0x110000 := c.valid
  have hback : ∀ n, n = c.val.toNat → Char.ofNat n = c := by
    intro n hn
    rw [hn]
    exact Char.ofNat_toNat c
  have htail : ∀ n, isTail (UInt8.ofNat (n % 64 + 128)) = true := by
    intro n
    rw [isTail_iff, toNat_ofNat_of_lt (by omega)]
    omega
  have hbits : ∀ n, tailBits (UInt8.ofNat (n % 64 + 128)) = n % 64 := by
    intro n
    rw [tailBits, toNat_ofNat_of_lt (by omega)]
    omega
  unfold String.utf8EncodeChar
  generalize c.val.toNat = v at hvalid hback ⊢
  dsimp only
  split_ifs with h₁ h₂ h₃
  · have hlead := toNat_ofNat_of_lt (n := v) (by omega)
    refine ⟨index + 1, (decodeOnto_one (by omega) index acc rest).trans ?_⟩
    rw [hlead, hback v rfl]
  · have hlead := toNat_ofNat_of_lt (n := v / 64 % 32 + 192) (by omega)
    refine ⟨index + 2, (decodeOnto_two (by omega) (htail _) index acc rest).trans ?_⟩
    rw [hlead, hbits, hback _ (by omega)]
  · have hlead := toNat_ofNat_of_lt (n := v / 4096 % 16 + 224) (by omega)
    have hsecond := toNat_ofNat_of_lt (n := v / 64 % 64 + 128) (by omega)
    have hpair : second3 (UInt8.ofNat (v / 4096 % 16 + 224)) (UInt8.ofNat (v / 64 % 64 + 128)) :=
      second3_of_isTail (htail _) (by omega) (by omega)
    refine ⟨index + 3, (decodeOnto_three (by omega) hpair (htail _) index acc rest).trans ?_⟩
    rw [hlead, hbits, hbits, hback _ (by omega)]
  · have hlead := toNat_ofNat_of_lt (n := v / 262144 % 8 + 240) (by omega)
    have hsecond := toNat_ofNat_of_lt (n := v / 4096 % 64 + 128) (by omega)
    have hpair : second4 (UInt8.ofNat (v / 262144 % 8 + 240))
        (UInt8.ofNat (v / 4096 % 64 + 128)) :=
      second4_of_isTail (htail _) (by omega) (by omega)
    refine ⟨index + 4,
      (decodeOnto_four (by omega) hpair (htail _) (htail _) index acc rest).trans ?_⟩
    rw [hlead, hbits, hbits, hbits, hback _ (by omega)]

/-! ## Reading a text -/

/-- Reading the bytes of characters gives these characters, newest first. -/
lemma decodeOnto_flatMap (index : Nat) (acc cs : List Char) :
    decodeOnto index acc (cs.flatMap String.utf8EncodeChar) = .ok (cs.reverse ++ acc) := by
  induction cs generalizing index acc with
  | nil =>
    rw [List.flatMap_nil, decodeOnto.eq_def]
    rfl
  | cons c cs ih =>
    obtain ⟨next, hnext⟩ :=
      decodeOnto_encodeChar index acc c (cs.flatMap String.utf8EncodeChar)
    rw [List.flatMap_cons, hnext, ih, List.reverse_cons, List.append_assoc]
    rfl

/-- Reading undoes writing. -/
@[simp] theorem decode_encode (s : String) : decode (encode s) = .ok s := by
  rw [decode, encode, decodeOnto_flatMap]
  simp

end SessionVault.Utf8
