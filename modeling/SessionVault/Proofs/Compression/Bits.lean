import Mathlib.Tactic.Linarith
import Mathlib.Tactic.Ring
import SessionVault.Compression.Bits
/-!
# Bits that were packed are read again

`Holds s bits` says that a bit stream has exactly `bits` before it and stands inside its current
byte.  Every reader is described by what it does to these bits.  The bits that `packBits` adds to
fill up the last byte are fewer than eight, so that `align` skips them and nothing else.
-/

namespace SessionVault

/-! ## Bytes as bits -/

/-- A byte has eight bits. -/
@[simp] lemma length_byteBits (b : UInt8) : (byteBits b).length = 8 := rfl

/-- The number with the bits of a byte is the byte. -/
lemma bitsValue_byteBits (b : UInt8) : bitsValue (byteBits b) = b.toNat := by
  have hall : ∀ n < 256, bitsValue (byteBits n.toUInt8) = n := by decide +kernel
  have hb := hall b.toNat b.toNat_lt
  rwa [show b.toNat.toUInt8 = b from UInt8.ofNat_toNat] at hb

/-- The byte with eight given bits has these bits. -/
lemma byteBits_bitsValue (b₀ b₁ b₂ b₃ b₄ b₅ b₆ b₇ : Bool) :
    byteBits (bitsValue [b₀, b₁, b₂, b₃, b₄, b₅, b₆, b₇]).toUInt8 =
      [b₀, b₁, b₂, b₃, b₄, b₅, b₆, b₇] := by
  revert b₀ b₁ b₂ b₃ b₄ b₅ b₆ b₇
  decide +kernel

/-- Zeros on top do not change a number. -/
lemma bitsValue_append_replicate (bits : List Bool) (n : Nat) :
    bitsValue (bits ++ List.replicate n false) = bitsValue bits := by
  induction bits with
  | nil =>
    induction n with
    | zero => rfl
    | succ n ih =>
      rw [List.nil_append] at ih ⊢
      rw [List.replicate_succ, bitsValue.eq_2, ih]
      rfl
  | cons b bits ih => simp only [List.cons_append, bitsValue, ih]

/-- The byte with fewer than eight given bits has these and zeros. -/
lemma byteBits_bitsValue_short {bits : List Bool} (h : bits.length ≤ 8) :
    byteBits (bitsValue bits).toUInt8 = bits ++ List.replicate (8 - bits.length) false := by
  rw [← bitsValue_append_replicate bits (8 - bits.length)]
  generalize hfull : bits ++ List.replicate (8 - bits.length) false = full
  have hlength : full.length = 8 := by
    rw [← hfull, List.length_append, List.length_replicate]
    omega
  match full, hlength with
  | [b₀, b₁, b₂, b₃, b₄, b₅, b₆, b₇], _ => exact byteBits_bitsValue b₀ b₁ b₂ b₃ b₄ b₅ b₆ b₇

/-- Different bytes have different bits. -/
lemma flatMap_byteBits_injective {as bs : Bytes}
    (h : as.flatMap byteBits = bs.flatMap byteBits) : as = bs := by
  induction as generalizing bs with
  | nil =>
    cases bs with
    | nil => rfl
    | cons b bs => simp [byteBits] at h
  | cons a as ih =>
    cases bs with
    | nil => simp [byteBits] at h
    | cons b bs =>
      rw [List.flatMap_cons, List.flatMap_cons] at h
      obtain ⟨hhead, htail⟩ := List.append_inj h rfl
      have hab : a = b := by
        rw [← UInt8.toNat_inj, ← bitsValue_byteBits, hhead, bitsValue_byteBits]
      rw [hab, ih htail]

/-- The number of bits of bytes. -/
@[simp] lemma length_flatMap_byteBits (bytes : Bytes) :
    (bytes.flatMap byteBits).length = 8 * bytes.length := by
  induction bytes with
  | nil => rfl
  | cons b bytes ih =>
    rw [List.flatMap_cons, List.length_append, ih, List.length_cons, length_byteBits]
    omega

/-! ## Packing -/

/-- Packed bits are the bits and zeros that fill up the last byte. -/
lemma exists_packOnto (acc : Bytes) (bits : List Bool) :
    ∃ pad < 8, (packOnto acc bits).reverse.flatMap byteBits =
      acc.reverse.flatMap byteBits ++ bits ++ List.replicate pad false := by
  induction acc, bits using packOnto.induct with
  | case1 acc b₀ b₁ b₂ b₃ b₄ b₅ b₆ b₇ rest ih =>
    obtain ⟨pad, hpad, hbits⟩ := ih
    refine ⟨pad, hpad, ?_⟩
    rw [packOnto, hbits, List.reverse_cons, List.flatMap_append, List.flatMap_singleton,
      byteBits_bitsValue]
    simp
  | case2 acc => exact ⟨0, by decide, by simp [packOnto]⟩
  | case3 acc bits hlong hnil =>
    have hshort : bits.length < 8 := by
      by_contra hlength
      obtain ⟨front, rest, rfl, hfront⟩ : ∃ front rest, bits = front ++ rest ∧ front.length = 8 :=
        ⟨bits.take 8, bits.drop 8, (List.take_append_drop 8 bits).symm,
          List.length_take_of_le (Nat.not_lt.1 hlength)⟩
      match front, hfront with
      | [b₀, b₁, b₂, b₃, b₄, b₅, b₆, b₇], _ => exact hlong b₀ b₁ b₂ b₃ b₄ b₅ b₆ b₇ rest rfl
    have hpos : 0 < bits.length := List.length_pos_iff.2 hnil
    refine ⟨8 - bits.length, by omega, ?_⟩
    rw [packOnto.eq_3 acc bits hlong hnil, List.reverse_cons, List.flatMap_append,
      List.flatMap_singleton, byteBits_bitsValue_short (Nat.le_of_lt hshort), List.append_assoc]

/-- Packed bits are the bits and fewer than eight zeros. -/
lemma exists_packBits (bits : List Bool) :
    ∃ pad < 8, (packBits bits).flatMap byteBits = bits ++ List.replicate pad false := by
  obtain ⟨pad, hpad, hbits⟩ := exists_packOnto [] bits
  exact ⟨pad, hpad, by simpa [packBits] using hbits⟩

/-- Packing needs a byte for every eight bits. -/
lemma length_le_length_packBits (bits : List Bool) : bits.length ≤ 8 * (packBits bits).length := by
  obtain ⟨pad, -, hbits⟩ := exists_packBits bits
  have hlength := congrArg List.length hbits
  rw [length_flatMap_byteBits, List.length_append] at hlength
  omega

/-! ## Reading -/

namespace BitSource

/-- A stream has exactly these bits before it and stands inside its current byte. -/
structure Holds (s : BitSource) (bits : List Bool) : Prop where
  pending : s.pending.length < 8
  bits : s.pending ++ s.bytes.flatMap byteBits = bits

/-- A stream at its start holds the bits of its bytes. -/
lemma holds_ofBytes (bytes : Bytes) : Holds (.ofBytes bytes) (bytes.flatMap byteBits) :=
  ⟨Nat.succ_pos 7, rfl⟩

/-- The next bit is the first one held. -/
lemma Holds.take? {s : BitSource} {b : Bool} {bits : List Bool} (h : s.Holds (b :: bits)) :
    ∃ t, s.take? = some (b, t) ∧ t.Holds bits := by
  obtain ⟨pending, bytes⟩ := s
  obtain ⟨hpending, hbits⟩ := h
  cases pending with
  | cons c pending =>
    rw [List.cons_append, List.cons.injEq] at hbits
    obtain ⟨rfl, hbits⟩ := hbits
    exact ⟨⟨pending, bytes⟩, rfl, Nat.lt_of_succ_lt hpending, hbits⟩
  | nil =>
    cases bytes with
    | nil => simp at hbits
    | cons byte bytes =>
      rw [List.nil_append, List.flatMap_cons] at hbits
      obtain ⟨c, pending, hbyte⟩ : ∃ c pending, byteBits byte = c :: pending := ⟨_, _, rfl⟩
      have hlength := length_byteBits byte
      rw [hbyte, List.cons_append, List.cons.injEq] at hbits
      obtain ⟨rfl, hbits⟩ := hbits
      rw [hbyte, List.length_cons] at hlength
      refine ⟨⟨pending, bytes⟩, ?_, ?_, hbits⟩
      · simp only [BitSource.take?, hbyte]
      · dsimp only
        omega

/-- The number in the next bits is the number that was written there. -/
lemma Holds.number? {count n : Nat} (hn : n < 2 ^ count) {s : BitSource} {bits : List Bool}
    (h : s.Holds (lowBits count n ++ bits)) :
    ∃ t, s.number? count = some (n, t) ∧ t.Holds bits := by
  induction count generalizing n s with
  | zero => exact ⟨s, by rw [BitSource.number?, Nat.lt_one_iff.1 hn], h⟩
  | succ count ih =>
    rw [lowBits, List.cons_append] at h
    obtain ⟨t, htake, ht⟩ := h.take?
    obtain ⟨u, hnumber, hu⟩ := ih (n := n / 2) (by rw [Nat.pow_succ] at hn; omega) ht
    refine ⟨u, ?_, hu⟩
    have hbit : (n % 2 == 1).toNat + 2 * (n / 2) = n := by
      rcases Nat.mod_two_eq_zero_or_one n with h₂ | h₂
      · rw [h₂]
        change 0 + _ = _
        omega
      · rw [h₂]
        change 1 + _ = _
        omega
    simp only [BitSource.number?, htake, hnumber, hbit]

/-- Behind fewer than eight bits the bytes go on. -/
lemma Holds.align {s : BitSource} {bits : List Bool} {rest : Bytes} (hshort : bits.length < 8)
    (h : s.Holds (bits ++ rest.flatMap byteBits)) : s.align.bytes = rest := by
  have hlength := congrArg List.length h.bits
  have hpending := h.pending
  rw [List.length_append, List.length_append, length_flatMap_byteBits,
    length_flatMap_byteBits] at hlength
  exact flatMap_byteBits_injective (List.append_inj h.bits (by omega)).2

end BitSource

/-! ## Numbers in bytes -/

/-- A number is found again in the bytes it was written to. -/
lemma littleEndian_toLittleEndian {count n : Nat} (h : n < 256 ^ count) :
    littleEndian (toLittleEndian count n) = n := by
  induction count generalizing n with
  | zero => rw [Nat.lt_one_iff.1 h]; rfl
  | succ count ih =>
    have hdiv : n / 256 < 256 ^ count := by
      rw [Nat.pow_succ] at h
      omega
    have hmod : (n % 256).toUInt8.toNat = n % 256 := by
      rw [Nat.toUInt8, UInt8.toNat_ofNat']
      omega
    rw [toLittleEndian, littleEndian, ih hdiv, hmod]
    omega

/-- A number takes the bytes it is given. -/
@[simp] lemma length_toLittleEndian (count n : Nat) : (toLittleEndian count n).length = count := by
  induction count generalizing n with
  | zero => rfl
  | succ count ih => rw [toLittleEndian, List.length_cons, ih]

/-- A number is found again in the bytes it was written to, highest byte first. -/
lemma bigEndian_toBigEndian {count n : Nat} (h : n < 256 ^ count) :
    bigEndian (toBigEndian count n) = n := by
  rw [bigEndian, toBigEndian, List.reverse_reverse, littleEndian_toLittleEndian h]

/-- Bytes are split where they were joined. -/
lemma splitBytes?_append {count : Nat} {front rest : Bytes} (h : front.length = count) :
    splitBytes? count (front ++ rest) = some (front, rest) := by
  unfold splitBytes?
  rw [List.take_left' h, List.drop_left' h]
  exact if_pos h

end SessionVault
