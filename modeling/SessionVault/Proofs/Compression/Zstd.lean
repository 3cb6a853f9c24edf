import Mathlib.Tactic.Linarith
import Mathlib.Tactic.Ring
import SessionVault.Compression.Zstd.Writer
import SessionVault.Proofs.Compression.Bits
import SessionVault.Proofs.Compression.Pieces
import SessionVault.Proofs.Steps
/-!
# Frames read back what they were written from

The writer makes one frame of plain blocks and of compressed blocks with a single copy.  The proof
follows the blocks: `readBlock_copyContent` is the step for the content of a compressed block,
`readBlocks_plainBlock` and `readBlocks_copyBlock` are the steps for whole blocks, and
`exists_blocksOnto` carries them along the pieces.  What the steps preserve is `Roomy`: the
buffer always has place for one more block of the largest size.
-/

namespace SessionVault

namespace Zstd

/-! ## Bits stored back to front -/

/-- The highest bit first is the lowest bit first, turned around. -/
lemma highValue_reverse (bits : List Bool) : highValue bits.reverse = bitsValue bits := by
  induction bits with
  | nil => rfl
  | cons b rest ih =>
    unfold highValue at ih ⊢
    rw [List.reverse_cons, List.foldl_append, ih, bitsValue]
    simp only [List.foldl_cons, List.foldl_nil]
    omega

/-- The number with the lowest bits of a small number. -/
lemma bitsValue_lowBits {count n : Nat} (h : n < 2 ^ count) :
    bitsValue (lowBits count n) = n := by
  induction count generalizing n with
  | zero => rw [Nat.lt_one_iff.1 h]; rfl
  | succ count ih =>
    rw [pow_succ] at h
    rw [lowBits, bitsValue, ih (by omega)]
    rcases Nat.mod_two_eq_zero_or_one n with hn | hn
    · rw [hn]
      simp only [Nat.reduceBEq, Bool.toNat_false]
      omega
    · rw [hn]
      simp only [BEq.rfl, Bool.toNat_true]
      omega

/-- There are as many lowest bits as asked for. -/
lemma length_lowBits (count n : Nat) : (lowBits count n).length = count := by
  induction count generalizing n with
  | zero => rfl
  | succ count ih => rw [lowBits, List.length_cons, ih]

/-- Dropping a front part leaves the rest. -/
lemma dropBits_append (front rest : List Bool) :
    dropBits front.length (front ++ rest) = some rest := by
  induction front with
  | nil => cases rest <;> rfl
  | cons b front ih => exact ih

/-- The highest bits of a number are read as the number. -/
lemma readHigh_highBits {count n : Nat} (h : n < 2 ^ count) (rest : List Bool) :
    readHigh count (highBits count n ++ rest) = .ok (n, rest) := by
  have hlength : (highBits count n).length = count := by
    rw [highBits, List.length_reverse, length_lowBits]
  have hdrop := dropBits_append (highBits count n) rest
  rw [hlength] at hdrop
  rw [readHigh, hdrop, List.take_left' hlength, highBits, highValue_reverse, bitsValue_lowBits h]

/-- Cutting the zeros and the mark off a front part leaves the bits behind the mark. -/
lemma drop_mark {pad : Nat} {front back bits : List Bool} (hpad : pad < front.length)
    (h : front ++ back = List.replicate pad false ++ true :: bits) :
    (front.dropWhile (!·)).drop 1 ++ back = bits := by
  induction pad generalizing front with
  | zero =>
    obtain ⟨b, front, rfl⟩ := List.exists_cons_of_length_pos hpad
    obtain ⟨rfl, hbits⟩ := List.cons.inj h
    exact hbits
  | succ pad ih =>
    obtain ⟨b, front, rfl⟩ := List.exists_cons_of_length_pos (Nat.zero_lt_of_lt hpad)
    obtain ⟨rfl, hrest⟩ := List.cons.inj h
    rw [List.length_cons] at hpad
    have hdrop : (front.dropWhile (!·)).drop 1 ++ back = bits := ih (by omega) hrest
    exact hdrop

/-- Bits stored back to front are read in order. -/
lemma backward_packBackward (bits : List Bool) : backward (packBackward bits) = .ok bits := by
  obtain ⟨pad, hpad, hbits⟩ := exists_packBits (bits.reverse ++ [true])
  change (packBackward bits).flatMap byteBits = _ at hbits
  have hreverse : (packBackward bits).reverse.flatMap (fun b => (byteBits b).reverse) =
      List.replicate pad false ++ true :: bits := by
    have hturned := congrArg List.reverse hbits
    rw [List.reverse_flatMap] at hturned
    simpa [Function.comp_def] using hturned
  unfold backward
  cases hbytes : (packBackward bits).reverse with
  | nil =>
    rw [hbytes] at hreverse
    simp at hreverse
  | cons last rest =>
    rw [hbytes, List.flatMap_cons] at hreverse
    have hlast : last ≠ 0 := by
      rintro rfl
      -- The last byte reaches up to the mark, so it is not all zeros.
      have hmark := congrArg (·[pad]?) hreverse
      rw [List.getElem?_append_left (by simpa using hpad)] at hmark
      have hzero : (byteBits 0).reverse = List.replicate 8 false := by decide
      rw [hzero, List.getElem?_replicate, if_pos hpad] at hmark
      simp at hmark
    dsimp only
    rw [if_neg hlast, markedBits, drop_mark (by simpa using hpad) hreverse]

/-! ## Compressed blocks -/

/-- Nothing is refused without a reason. -/
lemma refuseIf_of_not {condition : Prop} [Decidable condition] (h : ¬ condition)
    (fault : CompressionFault) : refuseIf condition fault = .ok () := if_neg h

/-- The table of literal lengths has no gaps. -/
lemma reaches_lengthTable : reaches lengthTable 131072 = true := by decide

/-- The table of copy lengths has no gaps. -/
lemma reaches_copyTable : reaches copyTable 131075 = true := by decide

/-- No symbol has more than sixteen extra bits. -/
lemma extra_le {symbol least extra : Nat}
    (h : lengthTable[symbol]? = some (least, extra) ∨ copyTable[symbol]? = some (least, extra)) :
    extra ≤ 16 := by
  have hlengths : ∀ entry ∈ lengthTable, entry.2 ≤ 16 := by decide
  have hcopies : ∀ entry ∈ copyTable, entry.2 ≤ 16 := by decide
  rcases h with h | h
  · exact hlengths _ (List.mem_of_getElem? h)
  · exact hcopies _ (List.mem_of_getElem? h)

/-- An entry of a table with its extra bits is read as the number they stand for. -/
lemma readEntry_highBits {table : List (Nat × Nat)} {i least extra n : Nat}
    (hget : table[i]? = some (least, extra)) (hle : least ≤ n) (hlt : n - least < 2 ^ extra)
    (rest : List Bool) :
    readEntry table i (highBits extra (n - least) ++ rest) = .ok (n, rest) := by
  rw [readEntry, hget, orCorrupt, ok_bind]
  dsimp only
  rw [readHigh_highBits hlt, ok_bind]
  dsimp only
  rw [Nat.add_sub_cancel' hle]
  rfl

/-- Plain literals with a header of three bytes are read as they are. -/
lemma readLiterals_plain {room : Room} {literals : Bytes} (hlimit : literals.length ≤ room.limit)
    (hfree : literals.length ≤ room.free) (hsize : literals.length < 1048576) (memory : Memory)
    (rest : Bytes) :
    readLiterals room memory (toLittleEndian 3 (12 + 16 * literals.length) ++ literals ++ rest) =
      .ok (⟨literals, overrun ≤ rest.length⟩, memory, rest) := by
  have hplain : readPlain room false 3
      (toLittleEndian 3 (12 + 16 * literals.length) ++ literals ++ rest) =
        .ok (⟨literals, overrun ≤ rest.length⟩, rest) := by
    have hnumber : littleEndian (toLittleEndian 3 (12 + 16 * literals.length)) / 16 =
        literals.length := by
      rw [littleEndian_toLittleEndian (by omega)]
      omega
    rw [readPlain, plainHeader, List.append_assoc]
    dsimp only
    rw [splitBytes?_append (length_toLittleEndian 3 _), orCorrupt, ok_bind]
    dsimp only
    simp only [hnumber]
    rw [refuseIf_of_not (by simp), ok_bind, refuseIf_of_not (by omega), ok_bind,
      refuseIf_of_not (by rw [Room.literals]; omega), ok_bind, if_neg (by simp),
      splitBytes?_append rfl, orCorrupt, ok_bind]
    rfl
  -- The first byte says that the literals are plain and how long the header is.
  have hbyte : ((12 + 16 * literals.length) % 256).toUInt8.toNat =
      (12 + 16 * literals.length) % 256 := by
    rw [UInt8.toNat_ofNat']
    omega
  have hkind : ((12 + 16 * literals.length) % 256).toUInt8.toNat % 4 = 0 := by omega
  have hformat : ((12 + 16 * literals.length) % 256).toUInt8.toNat / 4 % 4 = 3 := by omega
  rw [readLiterals.eq_def]
  simp only [toLittleEndian, List.cons_append, List.nil_append] at hplain ⊢
  rw [hkind, hformat, if_pos (Nat.zero_le 1), decide_eq_false (by decide), hplain, ok_bind]
  rfl

/-- A table of a single symbol is read from the symbol. -/
lemma readTable_single {usual : StateTable} {last : Option StateTable}
    {maxLog maxSymbol symbol : Nat}
    (hmax : symbol ≤ maxSymbol) (hbyte : symbol < 256) (rest : Bytes) :
    readTable 1 usual last maxLog maxSymbol (symbol.toUInt8 :: rest) =
      .ok (.single symbol, rest) := by
  have hnat : symbol.toUInt8.toNat = symbol := by
    rw [UInt8.toNat_ofNat']
    omega
  rw [readTable]
  simp only [hnat]
  rw [if_neg (by omega)]

section Copy

variable {literals copy distance l leastLength extraLength c leastCopy extraCopy : Nat}

/-- The bits of a sequence, behind tables of its symbols alone, are read as the sequence. -/
lemma readSequences_single (hl : lengthTable[l]? = some (leastLength, extraLength))
    (hlengthLe : leastLength ≤ literals) (hlengthLt : literals - leastLength < 2 ^ extraLength)
    (hc : copyTable[c]? = some (leastCopy, extraCopy))
    (hcopyLe : leastCopy ≤ copy) (hcopyLt : copy - leastCopy < 2 ^ extraCopy) :
    readSequences (.single l) (.single (distance + 3).log2) (.single c) 1 0 0 0 []
      (highBits (distance + 3).log2 (distance + 3 - Nat.pow 2 (distance + 3).log2) ++
        highBits extraCopy (copy - leastCopy) ++ highBits extraLength (literals - leastLength)) =
      ([⟨literals, copy, distance + 3⟩], true) := by
  have hlow : 2 ^ (distance + 3).log2 ≤ distance + 3 := Nat.log2_self_le (by omega)
  have hhigh : distance + 3 < 2 ^ ((distance + 3).log2 + 1) := Nat.lt_log2_self
  rw [pow_succ] at hhigh
  have hsequence : readSequence (.single l) (.single (distance + 3).log2) (.single c) 0 0 0
      (highBits (distance + 3).log2 (distance + 3 - Nat.pow 2 (distance + 3).log2) ++
        highBits extraCopy (copy - leastCopy) ++ highBits extraLength (literals - leastLength)) =
      .ok (⟨literals, copy, distance + 3⟩, []) := by
    have hcell : ∀ symbol, ((StateTable.single symbol).cell 0).symbol = symbol := fun _ => rfl
    simp only [readSequence, hcell]
    have hrest := readEntry_highBits hl hlengthLe hlengthLt []
    rw [List.append_nil] at hrest
    rw [List.append_assoc, readHigh_highBits (by change _ - 2 ^ _ < _; omega), ok_bind]
    dsimp only
    rw [readEntry_highBits hc hcopyLe hcopyLt, ok_bind]
    dsimp only
    rw [hrest, ok_bind]
    change Except.ok (Sequence.mk literals copy
      (2 ^ (distance + 3).log2 + (distance + 3 - 2 ^ (distance + 3).log2)), []) = _
    rw [Nat.add_sub_cancel' hlow]
  rw [readSequences, hsequence]
  rfl

/-- One sequence takes all literals and makes its copy. -/
lemma runSequences_one {bytes : Bytes} (free : Nat) (memory : Memory)
    (hfree : bytes.length + copy ≤ free) (hpos : 0 < distance)
    (hback : distance ≤ memory.out.size + bytes.length) :
    ∃ left after, runSequences free [⟨bytes.length, copy, distance + 3⟩] bytes memory =
      .ok (left, [], after) ∧ after.out = copyBack distance copy (memory.out ++ bytes.toArray) := by
  have hresolve : resolve memory.recent ⟨bytes.length, copy, distance + 3⟩ =
      (distance, distance, memory.recent.1, memory.recent.2.1) := by
    rw [resolve]
    dsimp only
    rw [if_pos (by omega), Nat.add_sub_cancel]
  have hsplit : splitBytes? bytes.length bytes = some (bytes, []) := by
    have hsplit := @splitBytes?_append bytes.length bytes [] rfl
    rwa [List.append_nil] at hsplit
  rw [runSequences]
  dsimp only
  rw [refuseIf_of_not (by omega), ok_bind, hsplit, orCorrupt, ok_bind]
  dsimp only
  rw [hresolve]
  dsimp only
  have hsize : (memory.out ++ bytes.toArray).size = memory.out.size + bytes.length := by simp
  rw [refuseIf_of_not (by omega), ok_bind]
  exact ⟨_, _, rfl, rfl⟩

end Copy

/-- Packed bits take at most one byte more than they fill. -/
lemma length_packBackward (bits : List Bool) :
    8 * (packBackward bits).length ≤ bits.length + 8 := by
  obtain ⟨pad, hpad, hbits⟩ := exists_packBits (bits.reverse ++ [true])
  have hlength := congrArg List.length hbits
  rw [length_flatMap_byteBits] at hlength
  simp only [List.length_append, List.length_reverse, List.length_cons, List.length_nil,
    List.length_replicate] at hlength
  rw [packBackward]
  omega

/-- The content of a compressed block is not much longer than its literals. -/
lemma length_copyContent {literals : Bytes} {copy distance : Nat}
    (hliterals : literals.length ≤ maxLiterals) (hmin : 32 ≤ copy) (hmax : copy ≤ 65536)
    (hfar : distance ≤ 1048576) :
    (copyContent literals copy distance).length ≤ literals.length + 16 := by
  rw [maxLiterals] at hliterals
  obtain ⟨l, leastLength, extraLength, hl, hgetl, -, -⟩ := lastEntry_of_reaches
    (n := literals.length) reaches_lengthTable ⟨(0, 0), by simp [lengthTable], by simp⟩ (by omega)
  obtain ⟨c, leastCopy, extraCopy, hc, hgetc, -, -⟩ := lastEntry_of_reaches
    (n := copy) reaches_copyTable ⟨(3, 0), by decide, by dsimp only; omega⟩ (by omega)
  have hextraLength := extra_le (.inl hgetl)
  have hextraCopy := extra_le (.inr hgetc)
  have hcode : (distance + 3).log2 ≤ 20 := by
    have hlt : (distance + 3).log2 < 21 := (Nat.log2_lt (by omega)).2 (by omega)
    omega
  have hpack := length_packBackward (highBits (distance + 3).log2
    (distance + 3 - Nat.pow 2 (distance + 3).log2) ++ highBits extraCopy (copy - leastCopy) ++
      highBits extraLength (literals.length - leastLength))
  simp only [highBits, List.length_append, List.length_reverse, length_lowBits] at hpack
  rw [copyContent, hl, hc]
  simp only [highBits, List.length_append, length_toLittleEndian, List.length_cons,
    List.length_nil] at hpack ⊢
  omega

/-- A section with one sequence behind tables of single symbols is carried out. -/
lemma readSequenceSection_single {room : Room} {memory : Memory} {literals : Bytes}
    {copy distance l code c : Nat} {bits : List Bool} (inPlace : Bool)
    (hwhole : room.whole = false) (hfree : literals.length + copy ≤ room.free)
    (hroom : 0 < room.free) (hl : l ≤ 35) (hcode : code ≤ 31) (hc : c ≤ 52) (hpos : 0 < distance)
    (hback : distance ≤ memory.out.size + literals.length)
    (hbits : readSequences (.single l) (.single code) (.single c) 1 0 0 0 [] bits =
      ([⟨literals.length, copy, distance + 3⟩], true)) :
    ∃ after, readSequenceSection room ⟨literals, inPlace⟩ memory
        (0x01 :: 0x54 :: l.toUInt8 :: code.toUInt8 :: c.toUInt8 :: packBackward bits) = .ok after ∧
      after.out = copyBack distance copy (memory.out ++ literals.toArray) := by
  have hspace : room.sequences literals.length inPlace = room.free := by
    rw [Room.sequences, hwhole]
    exact if_neg (by simp)
  have hcount : ∀ rest, readCount (0x01 :: rest) = .ok (1, rest) := fun _ => rfl
  have hstart : ∀ symbol bits, (StateTable.single symbol).start bits = .ok (0, bits) :=
    fun _ _ => rfl
  have hmodes : (0x54 : UInt8).toNat / 64 = 1 ∧ (0x54 : UInt8).toNat / 16 % 4 = 1 ∧
      (0x54 : UInt8).toNat / 4 % 4 = 1 := by decide
  obtain ⟨left, after, hrun, hout⟩ := runSequences_one room.free
    { memory with
      lengths := some (.single l), distances := some (.single code), copies := some (.single c) }
    hfree hpos hback
  rw [readSequenceSection, hcount, ok_bind]
  dsimp only
  rw [if_neg (by decide), refuseIf_of_not (by simp), ok_bind, hmodes.1, hmodes.2.1,
    hmodes.2.2, readTable_single hl (by omega), ok_bind]
  dsimp only
  rw [readTable_single hcode (by omega), ok_bind]
  dsimp only
  rw [readTable_single hc (by omega), ok_bind]
  dsimp only
  rw [refuseIf_of_not (by omega), ok_bind, backward_packBackward, ok_bind, hstart, ok_bind]
  dsimp only
  rw [hstart, ok_bind]
  dsimp only
  rw [hstart, ok_bind]
  dsimp only
  rw [hbits, hspace]
  dsimp only
  rw [hrun, ok_bind]
  dsimp only
  rw [refuseIf_of_not (by simp), ok_bind, takeLast, refuseIf_of_not (by simp), ok_bind]
  refine ⟨_, rfl, ?_⟩
  rw [← hout]
  simp

/-- The content of a compressed block is carried out: its literals are taken, its copy is made. -/
lemma readBlock_copyContent (room : Room) (memory : Memory) {literals : Bytes} {copy distance : Nat}
    (hwhole : room.whole = false) (hlimit : literals.length ≤ room.limit)
    (hfree : literals.length + copy ≤ room.free) (hliterals : literals.length ≤ maxLiterals)
    (hmin : 32 ≤ copy) (hmax : copy ≤ 65536) (hpos : 0 < distance) (hfar : distance ≤ 1048576)
    (hback : distance ≤ memory.out.size + literals.length) :
    ∃ after, readBlock room memory (copyContent literals copy distance) = .ok after ∧
      after.out = copyBack distance copy (memory.out ++ literals.toArray) := by
  rw [maxLiterals] at hliterals
  obtain ⟨l, leastLength, extraLength, hl, hgetl, hlle, hllt⟩ := lastEntry_of_reaches
    (n := literals.length) reaches_lengthTable ⟨(0, 0), by simp [lengthTable], by simp⟩ (by omega)
  obtain ⟨c, leastCopy, extraCopy, hc, hgetc, hcle, hclt⟩ := lastEntry_of_reaches
    (n := copy) reaches_copyTable ⟨(3, 0), by decide, by dsimp only; omega⟩ (by omega)
  have hlsize : l < 36 := (List.getElem?_eq_some_iff.1 hgetl).1
  have hcsize : c < 53 := (List.getElem?_eq_some_iff.1 hgetc).1
  have hcode : (distance + 3).log2 < 21 := (Nat.log2_lt (by omega)).2 (by omega)
  rw [copyContent, hl, hc]
  dsimp only
  rw [readBlock, List.append_assoc, List.append_assoc, ← List.append_assoc (toLittleEndian _ _),
    readLiterals_plain hlimit (by omega) (by omega), ok_bind]
  dsimp only
  exact readSequenceSection_single _ hwhole hfree (by omega) (by omega) (by omega) (by omega) hpos
    hback (readSequences_single hgetl hlle hllt hgetc hcle hclt)

/-! ## Blocks of a frame -/

/-- The header that is written before every frame. -/
def usualHeader : FrameHeader := ⟨4194304, none, false⟩

/-- There is place for one more block of the largest size. -/
def Roomy (buffer : Buffer) : Prop := buffer.start + maxBlock ≤ buffer.size

/-- The buffer keeps place for one more block. -/
lemma Roomy.advance {buffer : Buffer} (h : Roomy buffer) (count : Nat) :
    Roomy (buffer.advance usualHeader count) := by
  have hblock : usualHeader.maxBlock = maxBlock := by decide
  unfold Roomy at h ⊢
  rw [Buffer.advance]
  split
  · dsimp only
    omega
  · rename_i hstays
    simp only [usualHeader, Option.all_none, true_and] at hstays
    change ¬ buffer.size < buffer.start + count + usualHeader.maxBlock at hstays
    rw [hblock] at hstays
    dsimp only
    omega

/-- A block's header is read as it was written. -/
lemma readBlockHeader_blockHeader {last : Bool} {kind size : Nat} (hkind : kind < 3)
    (hsize : size < 2097152) (rest : Bytes) :
    readBlockHeader (blockHeader last kind size ++ rest) = .ok (⟨last, kind, size⟩, rest) := by
  have hlast : last.toNat < 2 := last.toNat_lt
  have hnumber : littleEndian (blockHeader last kind size) = last.toNat + 2 * kind + 8 * size := by
    rw [blockHeader, littleEndian_toLittleEndian (by omega)]
  have hlength : (blockHeader last kind size).length = 3 := length_toLittleEndian 3 _
  rw [readBlockHeader, need, splitBytes?_append hlength, ok_bind]
  simp only [hnumber]
  rw [refuseIf_of_not (by omega), ok_bind, show (last.toNat + 2 * kind + 8 * size) / 2 % 4 = kind by
    omega, show (last.toNat + 2 * kind + 8 * size) / 8 = size by omega]
  have hbit : decide ((last.toNat + 2 * kind + 8 * size) % 2 = 1) = last := by
    cases last with
    | false => exact decide_eq_false (by simp only [Bool.toNat_false]; omega)
    | true => exact decide_eq_true (by simp only [Bool.toNat_true]; omega)
  rw [hbit]
  rfl

/-- The space that a block is decoded into. -/
def roomOf (buffer : Buffer) : Room := ⟨maxBlock, buffer.size - buffer.start, false⟩

/-- One step of reading a frame: a block whose content can be carried out. -/
lemma readBlocks_of_readContent {buffer : Buffer} (hroomy : Roomy buffer) {memory after : Memory}
    {last : Bool} {kind : Nat} (hkind : kind = 0 ∨ kind = 2) {content : Bytes}
    (hpos : 0 < content.length) (hmax : content.length ≤ maxBlock)
    (hread : readContent ⟨last, kind, content.length⟩ (roomOf buffer) memory content = .ok after)
    (hcount : after.out.size - memory.out.size ≤ maxBlock) (bound : Nat) (rest : Bytes) :
    readBlocks usualHeader (bound + 1) buffer memory
        (blockHeader last kind content.length ++ content ++ rest) =
      if last then .ok (after, rest)
      else readBlocks usualHeader bound
        (buffer.advance usualHeader (after.out.size - memory.out.size)) after rest := by
  have hblock : usualHeader.maxBlock = maxBlock := by decide
  have hmaxBlock : maxBlock = 131072 := rfl
  have hstored : (BlockHeader.mk last kind content.length).stored = content.length :=
    if_neg (by dsimp only; omega)
  have hneed : needContent ⟨last, kind, content.length⟩ (roomOf buffer) (content ++ rest) =
      .ok (content, rest) := by
    have hfree :
        ¬ (kind = 0 ∧ (roomOf buffer).free < min content.length (content ++ rest).length) := by
      unfold Roomy at hroomy
      rw [roomOf, List.length_append]
      dsimp only
      omega
    rw [needContent, refuseIf_of_not hfree, ok_bind, need, hstored, splitBytes?_append rfl]
  rw [readBlocks, List.append_assoc, readBlockHeader_blockHeader (by omega) (by omega), ok_bind]
  dsimp only
  rw [hstored, hblock, refuseIf_of_not (by omega), ok_bind, if_neg (by omega),
    show (⟨maxBlock, buffer.size - buffer.start, false⟩ : Room) = roomOf buffer from rfl, hneed,
    ok_bind]
  dsimp only
  rw [hread, ok_bind, refuseIf_of_not (by omega), ok_bind]
  cases last with
  | false => rfl
  | true => rfl

/-- A plain block is carried out by appending its bytes. -/
lemma readContent_plain {buffer : Buffer} (hroomy : Roomy buffer) (memory : Memory) (last : Bool)
    {bytes : Bytes} (hmax : bytes.length ≤ maxBlock) :
    readContent ⟨last, 0, bytes.length⟩ (roomOf buffer) memory bytes =
      .ok { memory with out := memory.out ++ bytes.toArray } := by
  unfold Roomy at hroomy
  rw [readContent]
  dsimp only
  rw [refuseIf_of_not (by rw [roomOf]; dsimp only; omega), ok_bind]
  rfl

/-- A plain block before the last is read by appending its bytes. -/
lemma readBlocks_plainBlock {buffer : Buffer} (hroomy : Roomy buffer) (memory : Memory)
    (bytes : Bytes) (hpos : 0 < bytes.length) (hmax : bytes.length ≤ maxBlock) (bound : Nat)
    (rest : Bytes) :
    ∃ buffer' after, Roomy buffer' ∧ after.out = memory.out ++ bytes.toArray ∧
      readBlocks usualHeader (bound + 1) buffer memory (plainBlock false bytes ++ rest) =
        readBlocks usualHeader bound buffer' after rest := by
  have hread := readContent_plain hroomy memory false hmax
  refine ⟨buffer.advance usualHeader ((memory.out ++ bytes.toArray).size - memory.out.size),
    { memory with out := memory.out ++ bytes.toArray }, hroomy.advance _, rfl, ?_⟩
  rw [plainBlock, readBlocks_of_readContent hroomy (.inl rfl) hpos hmax hread (by simpa using hmax)]
  rfl

/-- The last block is plain; it may be empty. -/
lemma readBlocks_last {buffer : Buffer} (hroomy : Roomy buffer) (memory : Memory)
    (bytes : Bytes) (hmax : bytes.length ≤ maxBlock) (bound : Nat) (rest : Bytes) :
    ∃ after, after.out = memory.out ++ bytes.toArray ∧
      readBlocks usualHeader (bound + 1) buffer memory (plainBlock true bytes ++ rest) =
        .ok (after, rest) := by
  rcases Nat.eq_zero_or_pos bytes.length with hnil | hpos
  · obtain rfl := List.eq_nil_of_length_eq_zero hnil
    refine ⟨memory, by simp, ?_⟩
    rw [plainBlock, List.append_nil, readBlocks, List.length_nil,
      readBlockHeader_blockHeader (by decide) (by decide), ok_bind]
    rfl
  · have hread := readContent_plain hroomy memory true hmax
    refine ⟨{ memory with out := memory.out ++ bytes.toArray }, rfl, ?_⟩
    rw [plainBlock, readBlocks_of_readContent hroomy (.inl rfl) hpos hmax hread
      (by simpa using hmax)]
    rfl

/-- A copy makes the data longer by its length. -/
lemma size_copyBack (distance count : Nat) (out : Array UInt8) :
    (copyBack distance count out).size = out.size + count := by
  induction count generalizing out with
  | zero => rfl
  | succ count ih =>
    rw [copyBack, ih, Array.size_push]
    omega

/-- A compressed block is read by taking its literals and making its copy. -/
lemma readBlocks_copyBlock {buffer : Buffer} (hroomy : Roomy buffer) (memory : Memory)
    (literals : Bytes) {copy distance : Nat} (hliterals : literals.length ≤ maxLiterals)
    (hmin : 32 ≤ copy) (hmax : copy ≤ 65536) (hpos : 0 < distance) (hfar : distance ≤ 1048576)
    (hback : distance ≤ memory.out.size + literals.length) (bound : Nat) (rest : Bytes) :
    ∃ buffer' after, Roomy buffer' ∧
      after.out = copyBack distance copy (memory.out ++ literals.toArray) ∧
      readBlocks usualHeader (bound + 1) buffer memory
          (copyBlock literals copy distance ++ rest) =
        readBlocks usualHeader bound buffer' after rest := by
  have hmaxBlock : maxBlock = 131072 := rfl
  have hmaxLiterals : maxLiterals = 32768 := rfl
  have hspace := hroomy
  unfold Roomy at hspace
  obtain ⟨after, hread, hout⟩ := readBlock_copyContent (roomOf buffer) memory
    rfl (by rw [roomOf]; dsimp only; omega) (by rw [roomOf]; dsimp only; omega)
    hliterals hmin hmax hpos hfar hback
  have hlength := length_copyContent hliterals hmin hmax hfar
  have hcontent : 0 < (copyContent literals copy distance).length := by
    simp only [copyContent, List.length_append, length_toLittleEndian]
    omega
  have hsize : after.out.size = memory.out.size + literals.length + copy := by
    rw [hout, size_copyBack, Array.size_append]
    rfl
  refine ⟨buffer.advance usualHeader (after.out.size - memory.out.size), after,
    hroomy.advance _, hout, ?_⟩
  rw [copyBlock, readBlocks_of_readContent hroomy (.inr rfl) hcontent (by omega) hread (by omega)]
  rfl

/-- Blocks that are read, after anything read before, as the pieces they were written for;
`literals` are those that the blocks take before the pieces, newest first. -/
def ReadAs (blocks : List Bytes) (literals : Bytes) (size : Nat) (pieces : List Piece) : Prop :=
  blocks.length ≤ blocks.flatten.length ∧
    ∀ (buffer : Buffer) (memory : Memory) (bound : Nat) (rest : Bytes), Roomy buffer →
      size = memory.out.size + literals.length → blocks.length ≤ bound →
      ∃ after, readBlocks usualHeader bound buffer memory (blocks.flatten ++ rest) =
          .ok (after, rest) ∧
        after.out = pieces.foldl Piece.apply (memory.out ++ literals.reverse.toArray)

/-- One more block in front of blocks that are read as pieces: it is enough to carry it out. -/
lemma ReadAs.cons {blocks : List Bytes} {literals newLiterals : Bytes} {size newSize : Nat}
    {pieces newPieces : List Piece} (h : ReadAs blocks literals size pieces) {block : Bytes}
    (hblock : 0 < block.length)
    (hstep : ∀ (buffer : Buffer) (memory : Memory) (bound : Nat) (rest : Bytes), Roomy buffer →
      newSize = memory.out.size + newLiterals.length →
      ∃ buffer' after, Roomy buffer' ∧ size = after.out.size + literals.length ∧
        pieces.foldl Piece.apply (after.out ++ literals.reverse.toArray) =
          newPieces.foldl Piece.apply (memory.out ++ newLiterals.reverse.toArray) ∧
        readBlocks usualHeader (bound + 1) buffer memory (block ++ rest) =
          readBlocks usualHeader bound buffer' after rest) :
    ReadAs (block :: blocks) newLiterals newSize newPieces := by
  refine ⟨?_, fun buffer memory bound rest hroomy hsize hbound => ?_⟩
  · have := h.1
    rw [List.flatten_cons, List.length_append, List.length_cons]
    omega
  · obtain ⟨bound, rfl⟩ : ∃ n, bound = n + 1 :=
      ⟨bound - 1, by rw [List.length_cons] at hbound; omega⟩
    rw [List.length_cons] at hbound
    obtain ⟨buffer', after, hroomy', hsize', hpieces, hread⟩ :=
      hstep buffer memory bound (blocks.flatten ++ rest) hroomy hsize
    obtain ⟨last, hlast, hout⟩ := h.2 buffer' after bound rest hroomy' hsize' (by omega)
    refine ⟨last, ?_, hout.trans hpieces⟩
    rw [List.flatten_cons, List.append_assoc, hread, hlast]

/-- The blocks that are written for pieces are read as these pieces. -/
lemma exists_blocksOnto {pieces : List Piece} {size : Nat} (hfits : Fits limits size pieces)
    (acc : List Bytes) (literals : Bytes) (hliterals : literals.length ≤ maxLiterals) :
    ∃ blocks, blocksOnto acc literals literals.length pieces = blocks.reverse ++ acc ∧
      ReadAs blocks literals size pieces := by
  have hmaxBlock : maxBlock = 131072 := rfl
  have hmaxLiterals : maxLiterals = 32768 := rfl
  have hheader : ∀ last kind size, (blockHeader last kind size).length = 3 :=
    fun _ _ _ => length_toLittleEndian 3 _
  induction pieces generalizing size acc literals with
  | nil =>
    refine ⟨[plainBlock true literals.reverse], rfl, ?_, ?_⟩
    · rw [List.flatten_cons, List.length_append, plainBlock, List.length_append, hheader]
      simp only [List.length_cons, List.length_nil]
      omega
    · intro buffer memory bound rest hroomy _ hbound
      obtain ⟨bound, rfl⟩ : ∃ n, bound = n + 1 := ⟨bound - 1, by simp at hbound; omega⟩
      obtain ⟨after, hout, hread⟩ := readBlocks_last hroomy memory
        literals.reverse (by rw [List.length_reverse]; omega) bound rest
      refine ⟨after, ?_, hout⟩
      rw [List.flatten_cons, List.flatten_nil, List.append_nil, hread]
  | cons piece rest ih =>
    cases piece with
    | literal b =>
      have hrest : Fits limits (size + 1) rest := hfits
      rw [blocksOnto]
      by_cases hroom : literals.length < maxLiterals
      · rw [if_pos hroom]
        obtain ⟨blocks, hblocks, hlength, hread⟩ := ih hrest acc (b :: literals)
          (by rw [List.length_cons]; omega)
        refine ⟨blocks, hblocks, hlength, fun buffer memory bound rest hroomy hsize hbound => ?_⟩
        obtain ⟨after, hafter, hout⟩ := hread buffer memory bound rest hroomy
          (by rw [List.length_cons]; omega) hbound
        refine ⟨after, hafter, ?_⟩
        rw [hout, List.foldl_cons]
        simp [Piece.apply]
      · rw [if_neg hroom]
        obtain ⟨blocks, hblocks, hread⟩ := ih hrest
          (plainBlock false literals.reverse :: acc) [b] (by simp [maxLiterals])
        refine ⟨plainBlock false literals.reverse :: blocks, by simpa using hblocks,
          hread.cons (by rw [plainBlock, List.length_append, hheader]; omega) ?_⟩
        intro buffer memory bound rest hroomy hsize
        obtain ⟨buffer', after, hroomy', hout, hstep⟩ := readBlocks_plainBlock hroomy memory
          literals.reverse (by rw [List.length_reverse]; omega)
          (by rw [List.length_reverse]; omega) bound rest
        refine ⟨buffer', after, hroomy', ?_, ?_, hstep⟩
        · rw [hout]
          simp
          omega
        · rw [hout, List.foldl_cons]
          simp [Piece.apply]
    | copy length distance =>
      obtain ⟨⟨hmin, -, hmax⟩, ⟨hpos, hback, hfar⟩, hrest⟩ := hfits
      simp only [limits] at hmin hmax hfar
      rw [blocksOnto]
      obtain ⟨blocks, hblocks, hread⟩ := ih hrest
        (copyBlock literals.reverse length distance :: acc) [] (by simp)
      refine ⟨copyBlock literals.reverse length distance :: blocks, by simpa using hblocks,
        hread.cons (by rw [copyBlock]; simp only [List.length_append, hheader]; omega) ?_⟩
      intro buffer memory bound rest hroomy hsize
      obtain ⟨buffer', after, hroomy', hout, hstep⟩ := readBlocks_copyBlock hroomy memory
        literals.reverse (by rw [List.length_reverse]; omega) hmin hmax hpos hfar
        (by rw [List.length_reverse]; omega) bound rest
      refine ⟨buffer', after, hroomy', ?_, ?_, hstep⟩
      · rw [hout, size_copyBack]
        simp
        omega
      · rw [hout, List.foldl_cons]
        simp [Piece.apply]

/-! ## Frames -/

/-- The header of a frame is read as it was written. -/
lemma readFrameHeader_usual (rest : Bytes) :
    readFrameHeader ([0x00, 0x60] ++ rest) = .ok (usualHeader, rest) := by
  have hnone : ∀ bytes, need 0 bytes = .ok ([], bytes) := fun _ => rfl
  have hdescriptor : need 1 ([0x00, 0x60] ++ rest) = .ok ([0x00], 0x60 :: rest) := rfl
  have hwindow : need 1 (0x60 :: rest) = .ok ([0x60], rest) := rfl
  have hzero : littleEndian [0x00] = 0 := rfl
  have hsize : littleEndian [0x60] = 96 := rfl
  rw [readFrameHeader, hdescriptor, ok_bind]
  simp only [hzero, Nat.zero_testBit, Bool.false_eq_true, if_false, hwindow, ok_bind, hsize]
  simp only [Nat.zero_mod, hnone, ok_bind]
  rfl

/-- Reading a frame that was written gives the data. -/
theorem decode_encode (bytes : Bytes) : decode (encode bytes) = .ok bytes := by
  obtain ⟨hexpand, hfits⟩ := expand_toPieces limits bytes
  obtain ⟨blocks, hblocks, hlength, hread⟩ := exists_blocksOnto hfits [] [] (by simp)
  have hencode : encode bytes = magic ++ ([0x00, 0x60] ++ blocks.flatten) := by
    rw [encode, show (0 : Nat) = ([] : Bytes).length from rfl, hblocks, List.append_nil,
      List.reverse_reverse, frameHeader, List.append_assoc]
  obtain ⟨after, hafter, hout⟩ := hread usualHeader.buffer .initial (blocks.flatten.length + 1) []
    (by unfold Roomy; decide) rfl (by omega)
  rw [List.append_nil] at hafter
  have hframe : readFrame ([0x00, 0x60] ++ blocks.flatten) = .ok (bytes, []) := by
    rw [readFrame, readFrameHeader_usual, ok_bind]
    dsimp only
    rw [readFrameBlocks, if_neg (by simp [decodedAtOnce, usualHeader]), if_neg (by decide), hafter,
      ok_bind]
    dsimp only
    rw [hout, if_neg (by decide)]
    change Except.ok ((expand (toPieces limits bytes)).toList, []) = _
    rw [hexpand]
  have htake : ∀ rest : Bytes, (magic ++ rest).take 4 = magic := fun _ => rfl
  have hdrop : ∀ rest : Bytes, (magic ++ rest).drop 4 = rest := fun _ => rfl
  rw [decode, hencode, readFrames]
  dsimp only
  rw [htake, hdrop, if_pos (by decide), if_neg (by decide), if_pos (by decide), hframe, ok_bind]
  change Except.ok (bytes ++ []) = _
  rw [List.append_nil]

end Zstd

end SessionVault
