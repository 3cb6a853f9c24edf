import Mathlib.Tactic.Lemma
import SessionVault.Proofs.Text.Utf8
import SessionVault.Share.Token
/-!
# Tokens carry their bytes

`Token.toBytes` undoes `Token.ofBytes`.  Between bytes and characters stand the six-bit numbers of
the bytes, here `sextets`: the writer spells them by `symbol`, and the reader finds them again by
`value?` and joins them.  The liberties of the reader do not touch a token that was written, since
no symbol is white space, padding, or a character of the other alphabet.
-/

namespace SessionVault.Token

/-! ## Six-bit numbers -/

/-- The six-bit numbers of bytes, the last one filled up with zeros. -/
def sextets : Bytes → List Nat
  | [] => []
  | [a] => [a.toNat / 4, a.toNat % 4 * 16]
  | [a, b] => [a.toNat / 4, a.toNat % 4 * 16 + b.toNat / 16, b.toNat % 16 * 4]
  | a :: b :: c :: rest =>
    a.toNat / 4 :: (a.toNat % 4 * 16 + b.toNat / 16) :: (b.toNat % 16 * 4 + c.toNat / 64) ::
      c.toNat % 64 :: sextets rest

/-- Six bits are a number below 64. -/
lemma lt_of_mem_sextets {bytes : Bytes} {n : Nat} (h : n ∈ sextets bytes) : n < 64 := by
  induction bytes using sextets.induct with
  | case1 => simp [sextets] at h
  | case2 a =>
    have := a.toNat_lt
    simp only [sextets, List.mem_cons, List.not_mem_nil, or_false] at h
    omega
  | case3 a b =>
    have := a.toNat_lt
    have := b.toNat_lt
    simp only [sextets, List.mem_cons, List.not_mem_nil, or_false] at h
    omega
  | case4 a b c rest ih =>
    have := a.toNat_lt
    have := b.toNat_lt
    have := c.toNat_lt
    simp only [sextets, List.mem_cons] at h
    rcases h with h | h | h | h | h
    · omega
    · omega
    · omega
    · omega
    · exact ih h

/-- No bytes leave a single number over. -/
lemma length_sextets_mod (bytes : Bytes) : (sextets bytes).length % 4 ≠ 1 := by
  induction bytes using sextets.induct with
  | case1 => decide
  | case2 a => simp [sextets]
  | case3 a b => simp [sextets]
  | case4 a b c rest ih =>
    simp only [sextets, List.length_cons]
    omega

/-- Writing spells the numbers in order. -/
lemma spellOnto_eq (acc : List Char) (bytes : Bytes) :
    spellOnto acc bytes = ((sextets bytes).map symbol).reverse ++ acc := by
  induction bytes using sextets.induct generalizing acc with
  | case1 => rfl
  | case2 a => rfl
  | case3 a b => rfl
  | case4 a b c rest ih =>
    rw [spellOnto, ih]
    simp [sextets]

/-- A token is the spelling of the numbers of its bytes. -/
lemma toList_ofBytes (bytes : Bytes) :
    (ofBytes bytes).toList = (sextets bytes).map symbol := by
  rw [ofBytes, spellOnto_eq]
  simp

/-! ## Symbols -/

/-- What makes a symbol safe: it is no character that the reader changes or drops, and it stands
for its number. -/
lemma symbol_facts : ∀ n < 64, (symbol n).toNat < 0x80 ∧ isBlank (symbol n) = false ∧
    symbol n ≠ '=' ∧ addressSafe (symbol n) = symbol n ∧ value? (ascii (symbol n)) = some n := by
  decide

/-- The values of spelled numbers are these numbers. -/
lemma values_symbols (offset : Nat) {ns : List Nat} (h : ∀ n ∈ ns, n < 64) :
    values offset (ns.map fun n => ascii (symbol n)) =
      .ok (ns.map fun n => (ascii (symbol n), n)) := by
  induction ns generalizing offset with
  | nil => rfl
  | cons n ns ih =>
    have hn := (symbol_facts n (h n List.mem_cons_self)).2.2.2.2
    rw [List.map_cons, values, hn, ih (offset + 1) fun m hm => h m (List.mem_cons_of_mem _ hm)]
    rfl

/-- Joining the numbers of bytes gives the bytes, newest first. -/
lemma joinOnto_sextets (label : Nat → UInt8) (offset : Nat) (acc bytes : Bytes) :
    joinOnto offset acc ((sextets bytes).map fun n => (label n, n)) =
      .ok (bytes.reverse ++ acc) := by
  have hbyte : ∀ (b : UInt8) (n : Nat), n = b.toNat → n.toUInt8 = b := by
    rintro b n rfl
    exact UInt8.ofNat_toNat
  induction bytes using sextets.induct generalizing offset acc with
  | case1 => rfl
  | case2 a =>
    have := a.toNat_lt
    simp only [sextets, List.map_cons, List.map_nil, joinOnto]
    rw [if_pos (by omega), hbyte a _ (by omega)]
    rfl
  | case3 a b =>
    have := a.toNat_lt
    have := b.toNat_lt
    simp only [sextets, List.map_cons, List.map_nil, joinOnto]
    rw [if_pos (by omega), hbyte b _ (by omega), hbyte a _ (by omega)]
    rfl
  | case4 a b c rest ih =>
    have := a.toNat_lt
    have := b.toNat_lt
    have := c.toNat_lt
    simp only [sextets, List.map_cons, joinOnto]
    rw [hbyte c _ (by omega), hbyte b _ (by omega), hbyte a _ (by omega), ih]
    simp

/-! ## Normal form -/

/-- Nothing is dropped from characters that are all to stay. -/
lemma dropWhile_eq_self {p : Char → Bool} {cs : List Char} (h : ∀ c ∈ cs, p c = false) :
    cs.dropWhile p = cs := by
  cases cs with
  | nil => rfl
  | cons c cs => simp [h c List.mem_cons_self]

/-- Trimming leaves characters alone that are not white space. -/
lemma trim_eq_self {cs : List Char} (h : ∀ c ∈ cs, isBlank c = false) : trim cs = cs := by
  unfold trim trimStart
  rw [dropWhile_eq_self h, dropWhile_eq_self fun c hc => h c (List.mem_reverse.1 hc),
    List.reverse_reverse]

/-- Characters that are neither white space nor padding are kept but for their alphabet, and the
padding behind them is not. -/
lemma normalize_padded {cs : List Char} (h : ∀ c ∈ cs, isBlank c = false ∧ c ≠ '=') (k : Nat) :
    normalize (String.ofList (cs ++ List.replicate k '=')) =
      String.ofList (cs.map addressSafe) := by
  have htrim : trim (cs ++ List.replicate k '=') = cs ++ List.replicate k '=' := by
    refine trim_eq_self fun c hc => ?_
    rcases List.mem_append.1 hc with hc | hc
    · exact (h c hc).1
    · rw [List.eq_of_mem_replicate hc]
      decide
  have hunpadded : (cs ++ List.replicate k '=').reverse.dropWhile (· == '=') = cs.reverse := by
    rw [List.reverse_append, List.reverse_replicate, List.dropWhile_append_of_pos]
    · exact dropWhile_eq_self fun c hc => beq_false_of_ne (h c (List.mem_reverse.1 hc)).2
    · intro c hc
      rw [List.eq_of_mem_replicate hc]
      rfl
  rw [normalize, String.toList_ofList, htrim, hunpadded, List.reverse_reverse]

/-- A token that was written is made of symbols. -/
lemma exists_symbol_of_mem_ofBytes {bytes : Bytes} {c : Char} (h : c ∈ (ofBytes bytes).toList) :
    ∃ n < 64, symbol n = c := by
  rw [toList_ofBytes] at h
  obtain ⟨n, hn, rfl⟩ := List.mem_map.1 h
  exact ⟨n, lt_of_mem_sextets hn, rfl⟩

/-- No white space is trimmed off a token that was written. -/
lemma trim_ofBytes (bytes : Bytes) : trim (ofBytes bytes).toList = (ofBytes bytes).toList := by
  refine trim_eq_self fun c hc => ?_
  obtain ⟨n, hn, rfl⟩ := exists_symbol_of_mem_ofBytes hc
  exact (symbol_facts n hn).2.1

/-- A token that was written is in normal form. -/
lemma normalize_ofBytes (bytes : Bytes) : normalize (ofBytes bytes) = ofBytes bytes := by
  have hkept : ∀ c ∈ (ofBytes bytes).toList, isBlank c = false ∧ c ≠ '=' := by
    intro c hc
    obtain ⟨n, hn, rfl⟩ := exists_symbol_of_mem_ofBytes hc
    exact ⟨(symbol_facts n hn).2.1, (symbol_facts n hn).2.2.1⟩
  have hsafe : (ofBytes bytes).toList.map addressSafe = (ofBytes bytes).toList := by
    refine (List.map_congr_left fun c hc => ?_).trans (List.map_id _)
    obtain ⟨n, hn, rfl⟩ := exists_symbol_of_mem_ofBytes hc
    exact (symbol_facts n hn).2.2.2.1
  have hnormal := normalize_padded hkept 0
  rwa [List.replicate_zero, List.append_nil, hsafe, String.ofList_toList] at hnormal

/-- The bytes of a token that was written are those of the symbols of its numbers. -/
lemma encode_ofBytes (bytes : Bytes) :
    Utf8.encode (ofBytes bytes) = (sextets bytes).map fun n => ascii (symbol n) := by
  unfold Utf8.encode
  rw [toList_ofBytes, Utf8.flatMap_encodeChar_ascii, List.map_map]
  · rfl
  · intro c hc
    obtain ⟨n, hn, rfl⟩ := List.mem_map.1 hc
    exact (symbol_facts n (lt_of_mem_sextets hn)).1

/-- Reading a token undoes writing it. -/
theorem toBytes_ofBytes (bytes : Bytes) : toBytes (ofBytes bytes) = .ok bytes := by
  unfold toBytes
  rw [normalize_ofBytes, encode_ofBytes]
  simp only [List.length_map, length_sextets_mod, if_false,
    values_symbols 0 fun n hn => lt_of_mem_sextets hn, joinOnto_sextets]
  simp

end SessionVault.Token
