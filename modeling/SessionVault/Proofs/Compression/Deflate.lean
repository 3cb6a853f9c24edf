import Mathlib.Tactic.Linarith
import Mathlib.Tactic.Ring
import SessionVault.Compression.Deflate
import SessionVault.Proofs.Compression.Bits
import SessionVault.Proofs.Compression.Pieces
/-!
# Deflate streams give back their data

`Deflate.decode` reads what `Deflate.encode` writes, and it stops exactly behind it, whatever bytes
follow.  The writer uses only the fixed code.  A word of a canonical code leads to a place in the
list of symbols (`CanonicalCode.indexFrom`); for the fixed code the places of all words are
computed, and the symbols at these places are read off the ranges that make up the list.
-/

namespace SessionVault

/-! ## Words of a canonical code -/

namespace CanonicalCode

/-- The place in the list of symbols that a word leads to, with the bits after the word. -/
def indexFrom (code first index : Nat) : (counts : List Nat) → List Bool → Option (Nat × List Bool)
  | [], _ => none
  | _ :: _, [] => none
  | count :: rest, b :: bits =>
    let code := 2 * code + b.toNat
    if code < first + count then some (index + (code - first), bits)
    else indexFrom code (2 * (first + count)) (index + count) rest bits

/-- Reading a word gives the symbol at its place. -/
lemma decodeFrom_of_indexFrom {symbols : Array Nat} {code first index i symbol : Nat}
    {counts : List Nat} {word bits : List Bool} {s : BitSource}
    (hword : indexFrom code first index counts word = some (i, []))
    (hsymbol : symbols[i]? = some symbol) (hs : s.Holds (word ++ bits)) :
    ∃ t, decodeFrom symbols code first index counts s = .ok (symbol, t) ∧ t.Holds bits := by
  induction counts generalizing code first index word s with
  | nil => simp [indexFrom] at hword
  | cons count rest ih =>
    cases word with
    | nil => simp [indexFrom] at hword
    | cons b word =>
      obtain ⟨t, htake, ht⟩ := hs.take?
      simp only [indexFrom] at hword
      simp only [decodeFrom, htake]
      split_ifs at hword ⊢ with hlt
      · rw [Option.some.injEq, Prod.mk.injEq] at hword
        obtain ⟨rfl, rfl⟩ := hword
        rw [hsymbol]
        exact ⟨t, rfl, ht⟩
      · exact ih hword ht

end CanonicalCode

namespace Deflate

/-! ## The fixed code -/

/-- The place of a symbol in the fixed code for literals and lengths. -/
def fixedPlace (symbol : Nat) : Nat :=
  if symbol < 144 then 24 + symbol else if symbol < 256 then 32 + symbol
  else if symbol < 280 then symbol - 256 else symbol - 112

/-- The symbols of the fixed code by length: seven bits, eight bits, nine bits. -/
lemma fixedLiterals_symbols : fixedLiterals.symbols.toList =
    List.range' 256 24 ++ (List.range' 0 144 ++ (List.range' 280 8 ++ List.range' 144 112)) := by
  decide +kernel

/-- Every symbol of the fixed code is at its place. -/
lemma getElem?_fixedPlace {symbol : Nat} (h : symbol < 288) :
    fixedLiterals.symbols[fixedPlace symbol]? = some symbol := by
  rw [← Array.getElem?_toList, fixedLiterals_symbols]
  unfold fixedPlace
  split_ifs with h₁ h₂ h₃
  · rw [List.getElem?_append_right (by simp), List.getElem?_append_left (by simp; omega),
      List.getElem?_range' (by simp; omega)]
    simp
  · rw [List.getElem?_append_right (by simp; omega), List.getElem?_append_right (by simp; omega),
      List.getElem?_append_right (by simp; omega), List.getElem?_range' (by simp; omega)]
    simp
    omega
  · rw [List.getElem?_append_left (by simp; omega), List.getElem?_range' (by omega)]
    simp
    omega
  · rw [List.getElem?_append_right (by simp; omega), List.getElem?_append_right (by simp; omega),
      List.getElem?_append_left (by simp; omega), List.getElem?_range' (by simp; omega)]
    simp
    omega

/-- The word of a symbol in the fixed code leads to its place. -/
lemma indexFrom_fixedWord : ∀ symbol < 288,
    CanonicalCode.indexFrom 0 0 0 fixedLiterals.counts (fixedWord symbol) =
      some (fixedPlace symbol, []) := by
  have hcounts : fixedLiterals.counts = [0, 0, 0, 0, 0, 0, 24, 152, 112, 0, 0, 0, 0, 0, 0] := by
    decide +kernel
  rw [hcounts]
  decide +kernel

/-- The word of a symbol in the fixed code is read as that symbol. -/
lemma decode_fixedWord {symbol : Nat} (h : symbol < 288) {s : BitSource} {bits : List Bool}
    (hs : s.Holds (fixedWord symbol ++ bits)) :
    ∃ t, fixedLiterals.decode s = .ok (symbol, t) ∧ t.Holds bits :=
  CanonicalCode.decodeFrom_of_indexFrom (indexFrom_fixedWord symbol h) (getElem?_fixedPlace h) hs

/-- Five bits are read as the distance symbol they spell. -/
lemma decode_fixedDistance {symbol : Nat} (h : symbol < 32) {s : BitSource} {bits : List Bool}
    (hs : s.Holds (highBits 5 symbol ++ bits)) :
    ∃ t, fixedDistances.decode s = .ok (symbol, t) ∧ t.Holds bits := by
  have hplaces : ∀ symbol < 32,
      CanonicalCode.indexFrom 0 0 0 fixedDistances.counts (highBits 5 symbol) =
        some (symbol, []) := by
    decide +kernel
  have hsymbols : ∀ symbol < 32, fixedDistances.symbols.toList[symbol]? = some symbol := by
    decide +kernel
  have hsymbol : fixedDistances.symbols[symbol]? = some symbol := by
    rw [← Array.getElem?_toList, hsymbols symbol h]
  exact CanonicalCode.decodeFrom_of_indexFrom (hplaces symbol h) hsymbol hs

/-- No word of the fixed code is empty. -/
lemma length_fixedWord_pos (symbol : Nat) : 0 < (fixedWord symbol).length := by
  unfold fixedWord
  split_ifs <;> simp [highBits, lowBits]

/-! ## Symbols and copies -/

/-- Bits that were written as a number are read as that number. -/
lemma readBits_lowBits {count n : Nat} (hn : n < 2 ^ count) {s : BitSource} {bits : List Bool}
    (hs : s.Holds (lowBits count n ++ bits)) :
    ∃ t, readBits count s = .ok (n, t) ∧ t.Holds bits := by
  obtain ⟨t, hnumber, ht⟩ := hs.number? hn
  exact ⟨t, by rw [readBits, hnumber], ht⟩

/-- An entry of a table with its extra bits is read as the number they stand for. -/
lemma readEntry_lowBits {table : List (Nat × Nat)} {i least extra n : Nat}
    (hget : table[i]? = some (least, extra)) (hle : least ≤ n) (hlt : n - least < 2 ^ extra)
    {s : BitSource} {bits : List Bool} (hs : s.Holds (lowBits extra (n - least) ++ bits)) :
    ∃ t, readEntry table i s = .ok (n, t) ∧ t.Holds bits := by
  obtain ⟨t, hread, ht⟩ := readBits_lowBits hlt hs
  refine ⟨t, ?_, ht⟩
  simp only [readEntry, hget, hread]
  rw [Nat.add_sub_cancel' hle]

/-- The table of lengths has no gaps. -/
lemma reaches_lengthTable : reaches lengthTable 259 = true := by decide

/-- The table of distances has no gaps. -/
lemma reaches_distanceTable : reaches distanceTable 32769 = true := by decide

/-- One step of reading a block: the bits of a piece are read and carried out. -/
lemma readSymbols_pieceBits {piece : Piece} {size : Nat} {rest : List Piece}
    (hfits : Fits limits size (piece :: rest)) (bound : Nat) (out : Array UInt8) {s : BitSource}
    {bits : List Bool} (hs : s.Holds (pieceBits piece ++ bits)) :
    ∃ t, readSymbols fixedLiterals fixedDistances (bound + 1) out s =
      readSymbols fixedLiterals fixedDistances bound (piece.apply out) t ∧ t.Holds bits := by
  cases piece with
  | literal b =>
    have hb : b.toNat < 256 := b.toNat_lt
    have hsymbol : b.toNat < 288 := Nat.lt_trans hb (by decide)
    rw [pieceBits] at hs
    obtain ⟨t, hread, ht⟩ := decode_fixedWord hsymbol hs
    refine ⟨t, ?_, ht⟩
    rw [readSymbols, hread]
    dsimp only
    rw [if_pos hb, Piece.apply, show b.toNat.toUInt8 = b from UInt8.ofNat_toNat]
  | copy length distance =>
    obtain ⟨⟨hmin, -, hmax⟩, ⟨hpos, -, hfar⟩, -⟩ := hfits
    simp only [limits] at hmin hmax hfar
    obtain ⟨i, least, extra, hi, hget, hle, hlt⟩ := lastEntry_of_reaches (n := length)
      reaches_lengthTable ⟨(3, 0), by simp [lengthTable], hmin⟩ (by omega)
    obtain ⟨j, leastDistance, extraDistance, hj, hgetj, hlej, hltj⟩ :=
      lastEntry_of_reaches (n := distance) reaches_distanceTable
        ⟨(1, 0), by simp [distanceTable], hpos⟩ (by omega)
    have hilt : i < 29 := (List.getElem?_eq_some_iff.1 hget).1
    have hjlt : j < 30 := (List.getElem?_eq_some_iff.1 hgetj).1
    simp only [pieceBits, hi, hj, List.append_assoc] at hs
    have hsymbol : 257 + i < 288 := by omega
    have hdistance : j < 32 := by omega
    obtain ⟨t₁, hread₁, ht₁⟩ := decode_fixedWord hsymbol hs
    obtain ⟨t₂, hread₂, ht₂⟩ := readEntry_lowBits hget hle hlt ht₁
    obtain ⟨t₃, hread₃, ht₃⟩ := decode_fixedDistance hdistance ht₂
    obtain ⟨t₄, hread₄, ht₄⟩ := readEntry_lowBits hgetj hlej hltj ht₃
    have hcopy : readCopy fixedDistances i t₁ = .ok ((length, distance), t₄) := by
      rw [readCopy, hread₂]
      dsimp only
      rw [hread₃]
      dsimp only
      rw [hread₄]
    refine ⟨t₄, ?_, ht₄⟩
    rw [readSymbols, hread₁]
    dsimp only
    rw [if_neg (by omega), if_neg (by omega), Nat.add_sub_cancel_left, hcopy, Piece.apply]

/-- Reading a block carries out its pieces and stops behind the end mark. -/
lemma readSymbols_pieces {pieces : List Piece} {size : Nat} (hfits : Fits limits size pieces)
    {bound : Nat} (hbound : pieces.length < bound) (out : Array UInt8) {s : BitSource}
    {bits : List Bool} (hs : s.Holds (pieces.flatMap pieceBits ++ fixedWord 256 ++ bits)) :
    ∃ t, readSymbols fixedLiterals fixedDistances bound out s =
      .ok (pieces.foldl Piece.apply out, t) ∧ t.Holds bits := by
  induction pieces generalizing size bound out s with
  | nil =>
    obtain ⟨bound, rfl⟩ := Nat.exists_eq_add_of_lt hbound
    have hs : s.Holds (fixedWord 256 ++ bits) := hs
    obtain ⟨t, hread, ht⟩ := decode_fixedWord (by decide) hs
    refine ⟨t, ?_, ht⟩
    rw [readSymbols, hread]
    rfl
  | cons piece rest ih =>
    obtain ⟨bound, rfl⟩ : ∃ n, bound = n + 1 := ⟨bound - 1, by omega⟩
    rw [List.flatMap_cons, List.append_assoc, List.append_assoc] at hs
    obtain ⟨t, hread, ht⟩ := readSymbols_pieceBits hfits bound out hs
    have hrest : ∃ size', Fits limits size' rest := by
      cases piece with
      | literal b => exact ⟨_, hfits⟩
      | copy length distance => exact ⟨_, hfits.2.2⟩
    obtain ⟨size', hfits'⟩ := hrest
    rw [List.length_cons] at hbound
    rw [← List.append_assoc] at ht
    obtain ⟨u, hread', hu⟩ := ih hfits' (Nat.lt_of_succ_lt_succ hbound) (piece.apply out) ht
    exact ⟨u, by rw [hread, hread', List.foldl_cons], hu⟩

/-! ## Streams -/

/-- Every piece takes at least one bit. -/
lemma length_le_length_flatMap_pieceBits (pieces : List Piece) :
    pieces.length ≤ (pieces.flatMap pieceBits).length := by
  induction pieces with
  | nil => exact Nat.le_refl 0
  | cons piece rest ih =>
    have hpos : 0 < (pieceBits piece).length := by
      cases piece with
      | literal b => exact length_fixedWord_pos _
      | copy length distance =>
        have := length_fixedWord_pos (257 + (lastEntry lengthTable length).1)
        simp only [pieceBits, List.length_append]
        omega
    rw [List.flatMap_cons, List.length_append, List.length_cons]
    omega

/-- Reading a stream that was written gives the data and the bytes behind the stream. -/
theorem decode_encode (bytes rest : Bytes) :
    decode (encode bytes ++ rest) = .ok (bytes, rest) := by
  obtain ⟨hexpand, hfits⟩ := expand_toPieces limits bytes
  generalize hpieces : toPieces limits bytes = pieces at hexpand hfits
  obtain ⟨pad, hpad, hpacked⟩ := exists_packBits (blockBits pieces)
  have hencode : encode bytes = packBits (blockBits pieces) := by rw [encode, hpieces]
  have hs : (BitSource.ofBytes (encode bytes ++ rest)).Holds
      (lowBits 1 1 ++ (lowBits 2 1 ++ (pieces.flatMap pieceBits ++ fixedWord 256 ++
        (List.replicate pad false ++ rest.flatMap byteBits)))) := by
    have := BitSource.holds_ofBytes (encode bytes ++ rest)
    rw [List.flatMap_append, hencode, hpacked] at this
    rw [hencode]
    simpa [blockBits, lowBits] using this
  have hlength := length_le_length_flatMap_pieceBits pieces
  have hbits := length_le_length_packBits (blockBits pieces)
  rw [← hencode, blockBits, List.length_append, List.length_append] at hbits
  obtain ⟨t₁, hread₁, ht₁⟩ := readBits_lowBits (by decide) hs
  obtain ⟨t₂, hread₂, ht₂⟩ := readBits_lowBits (by decide) ht₁
  have hbound : pieces.length < 8 * (encode bytes ++ rest).length + 1 := by
    rw [List.length_append]
    omega
  obtain ⟨t₃, hread₃, ht₃⟩ := readSymbols_pieces hfits hbound #[] ht₂
  have halign := ht₃.align (by simpa using hpad)
  simp only [decode, readBlocks, hread₁, hread₂, readBlock, hread₃, if_true, halign]
  rw [← expand, hexpand]

end Deflate

end SessionVault
