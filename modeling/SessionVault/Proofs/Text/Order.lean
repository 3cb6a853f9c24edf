import Mathlib.Tactic.ByContra
import SessionVault.Proofs.Text.Utf8
/-!
# The order of texts

Names are kept in the order of their characters, and this is the order of their bytes:
`Utf8.compare_eq_lt_iff`.  A longer character starts with a larger byte, and of two characters of
one length the bytes hold the same groups of bits, the highest first, so the first bytes that differ
decide (`encodeChar_append_lt`).
-/

namespace SessionVault.Utf8

/-- Bytes given by numbers below 256 are compared as the numbers, and then by what follows. -/
lemma cons_lt_cons {m n : Nat} {as bs : Bytes} (hm : m < 256) (hn : n < 256) (hle : m ≤ n)
    (h : m = n → as < bs) : UInt8.ofNat m :: as < UInt8.ofNat n :: bs := by
  rw [List.cons_lt_cons_iff, UInt8.lt_iff_toNat_lt, toNat_ofNat_of_lt hm, toNat_ofNat_of_lt hn]
  rcases Nat.lt_or_eq_of_le hle with hlt | heq
  · exact .inl hlt
  · exact .inr ⟨congrArg UInt8.ofNat heq, h heq⟩

section Tails

variable {v w : Nat} (hlt : v < w) (as bs : Bytes)

include hlt

/-- Of two characters that differ in their last six bits only, the smaller has the smaller last
byte. -/
lemma tail_lt (hsame : v / 64 = w / 64) :
    UInt8.ofNat (v % 64 + 128) :: as < UInt8.ofNat (w % 64 + 128) :: bs :=
  cons_lt_cons (by omega) (by omega) (by omega) (by omega)

/-- Of two characters that differ in their last twelve bits only, the smaller has the smaller last
two bytes. -/
lemma twoTails_lt (hsame : v / 4096 = w / 4096) :
    UInt8.ofNat (v / 64 % 64 + 128) :: UInt8.ofNat (v % 64 + 128) :: as <
      UInt8.ofNat (w / 64 % 64 + 128) :: UInt8.ofNat (w % 64 + 128) :: bs :=
  cons_lt_cons (by omega) (by omega) (by omega) fun _ => tail_lt hlt as bs (by omega)

/-- Of two characters that differ in their last eighteen bits only, the smaller has the smaller last
three bytes. -/
lemma threeTails_lt (hsame : v / 262144 = w / 262144) :
    UInt8.ofNat (v / 4096 % 64 + 128) :: UInt8.ofNat (v / 64 % 64 + 128) ::
        UInt8.ofNat (v % 64 + 128) :: as <
      UInt8.ofNat (w / 4096 % 64 + 128) :: UInt8.ofNat (w / 64 % 64 + 128) ::
        UInt8.ofNat (w % 64 + 128) :: bs :=
  cons_lt_cons (by omega) (by omega) (by omega) fun _ => twoTails_lt hlt as bs (by omega)

end Tails

/-- A smaller character has smaller bytes, whatever follows. -/
lemma encodeChar_append_lt {c d : Char} (h : c < d) (as bs : Bytes) :
    String.utf8EncodeChar c ++ as < String.utf8EncodeChar d ++ bs := by
  have hlt : c.val.toNat < d.val.toNat := h
  have hvalid : d.val.toNat < 0xD800 ∨ 0xDFFF < d.val.toNat ∧ d.val.toNat < 0x110000 := d.valid
  unfold String.utf8EncodeChar
  generalize c.val.toNat = v at hlt ⊢
  generalize d.val.toNat = w at hlt hvalid ⊢
  dsimp only
  -- the smaller character is at most as long, so its length leaves only these of the other
  by_cases h₁ : v ≤ 0x7f
  · rw [if_pos h₁]
    split_ifs <;> exact cons_lt_cons (by omega) (by omega) (by omega) (by omega)
  by_cases h₂ : v ≤ 0x7ff
  · rw [if_neg h₁, if_pos h₂, if_neg (by omega)]
    split_ifs
    · exact cons_lt_cons (by omega) (by omega) (by omega) fun _ => tail_lt hlt as bs (by omega)
    all_goals exact cons_lt_cons (by omega) (by omega) (by omega) (by omega)
  by_cases h₃ : v ≤ 0xffff
  · rw [if_neg h₁, if_neg h₂, if_pos h₃, if_neg (by omega), if_neg (by omega)]
    split_ifs
    · exact cons_lt_cons (by omega) (by omega) (by omega) fun _ => twoTails_lt hlt as bs (by omega)
    · exact cons_lt_cons (by omega) (by omega) (by omega) (by omega)
  · rw [if_neg h₁, if_neg h₂, if_neg h₃, if_neg (by omega), if_neg (by omega), if_neg (by omega)]
    exact cons_lt_cons (by omega) (by omega) (by omega) fun _ => threeTails_lt hlt as bs (by omega)

/-- Characters that come first in the order of lists have bytes that come first. -/
lemma flatMap_encodeChar_lt {cs ds : List Char} (h : cs < ds) :
    cs.flatMap String.utf8EncodeChar < ds.flatMap String.utf8EncodeChar := by
  induction cs generalizing ds with
  | nil =>
    cases ds with
    | nil => exact absurd h (List.not_lt_nil _)
    | cons d ds =>
      obtain ⟨b, bytes, hbytes⟩ := List.exists_cons_of_ne_nil (@String.utf8EncodeChar_ne_nil d)
      rw [List.flatMap_nil, List.flatMap_cons, hbytes]
      exact List.nil_lt_cons _ _
  | cons c cs ih =>
    cases ds with
    | nil => exact absurd h (List.not_lt_nil _)
    | cons d ds =>
      rw [List.flatMap_cons, List.flatMap_cons]
      rcases List.cons_lt_cons_iff.1 h with hlt | ⟨rfl, hrest⟩
      · exact encodeChar_append_lt hlt _ _
      · exact List.append_left_lt (ih hrest)

/-- Texts are in the order of their bytes. -/
theorem compare_eq_lt_iff {a b : String} : compare a b = .lt ↔ encode a < encode b := by
  have hcompare : compare a b = .lt ↔ a.toList < b.toList := compareOfLessAndEq_eq_lt
  rw [hcompare]
  refine ⟨flatMap_encodeChar_lt, fun h => ?_⟩
  by_contra hnot
  rcases List.le_iff_lt_or_eq.1 (List.not_lt.1 hnot) with hlt | heq
  · exact List.lt_asymm h (flatMap_encodeChar_lt hlt)
  · have hsame : encode b = encode a := by rw [encode, encode, heq]
    rw [hsame] at h
    exact List.lt_irrefl _ h

end SessionVault.Utf8
