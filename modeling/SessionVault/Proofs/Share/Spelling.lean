import SessionVault.Proofs.Share.Token
import SessionVault.Share.Envelope
/-!
# Bytes have one spelling

A text is read as a token exactly if its normal form is what `Token.ofBytes` writes.  Reading goes
through two steps, each of which is undone here: a byte that has a value is that of the symbol for
the value (`ascii_symbol_of_value?`), and numbers that can be joined are the six-bit numbers of the
bytes that come out (`exists_sextets_of_joinOnto`).  The second is where the bits count that a last
symbol has too many: they must be zero as they are in `sextets`.
-/

namespace SessionVault.Token

/-! ## Symbols of bytes -/

/-- Only the byte of a symbol has a value, and it is the number of that symbol. -/
lemma ascii_symbol_of_value? {b : UInt8} {n : Nat} (h : value? b = some n) :
    n < 64 ∧ ascii (symbol n) = b := by
  have hall : ∀ m < 256, ∀ n ∈ value? (UInt8.ofNat m),
      n < 64 ∧ ascii (symbol n) = UInt8.ofNat m := by
    decide +kernel
  have hb := hall b.toNat b.toNat_lt n
  rw [UInt8.ofNat_toNat] at hb
  exact hb h

/-- Bytes that all have values are the symbols of these values. -/
lemma map_fst_of_values {offset : Nat} {bytes : Bytes} {symbols : List (UInt8 × Nat)}
    (h : values offset bytes = .ok symbols) :
    symbols.map Prod.fst = bytes ∧
      ∀ s ∈ symbols, s.2 < 64 ∧ ascii (symbol s.2) = s.1 := by
  induction bytes generalizing offset symbols with
  | nil =>
    cases h
    exact ⟨rfl, by simp⟩
  | cons b bytes ih =>
    rw [values] at h
    split at h
    · cases h
    · next n hn =>
      split at h
      · next more hmore =>
        cases h
        obtain ⟨hbytes, hsymbols⟩ := ih hmore
        refine ⟨by rw [List.map_cons, hbytes], ?_⟩
        rintro s (_ | ⟨_, hs⟩)
        · exact ascii_symbol_of_value? hn
        · exact hsymbols s hs
      · cases h

/-! ## Bytes of six-bit numbers -/

/-- A number below 256 is that of its byte. -/
lemma toNat_toUInt8 {n : Nat} (h : n < 256) : n.toUInt8.toNat = n := Utf8.toNat_ofNat_of_lt h

/-- Four numbers are those of the three bytes that they are joined to. -/
lemma sextets_three {w x y z : Nat} (hw : w < 64) (hx : x < 64) (hy : y < 64) (hz : z < 64)
    (rest : Bytes) :
    sextets ((w * 4 + x / 16).toUInt8 :: (x % 16 * 16 + y / 4).toUInt8 ::
      (y % 4 * 64 + z).toUInt8 :: rest) = w :: x :: y :: z :: sextets rest := by
  have hw' : (w * 4 + x / 16) / 4 = w := by omega
  have hx' : (w * 4 + x / 16) % 4 * 16 + (x % 16 * 16 + y / 4) / 16 = x := by omega
  have hy' : (x % 16 * 16 + y / 4) % 16 * 4 + (y % 4 * 64 + z) / 64 = y := by omega
  have hz' : (y % 4 * 64 + z) % 64 = z := by omega
  rw [sextets, toNat_toUInt8 (by omega), toNat_toUInt8 (by omega), toNat_toUInt8 (by omega),
    hw', hx', hy', hz']

/-- Three numbers of which the last has no bits too many are those of two bytes. -/
lemma sextets_two {w x y : Nat} (hw : w < 64) (hx : x < 64) (hy : y < 64) (hspare : y % 4 = 0) :
    sextets [(w * 4 + x / 16).toUInt8, (x % 16 * 16 + y / 4).toUInt8] = [w, x, y] := by
  have hw' : (w * 4 + x / 16) / 4 = w := by omega
  have hx' : (w * 4 + x / 16) % 4 * 16 + (x % 16 * 16 + y / 4) / 16 = x := by omega
  have hy' : (x % 16 * 16 + y / 4) % 16 * 4 = y := by omega
  rw [sextets, toNat_toUInt8 (by omega), toNat_toUInt8 (by omega), hw', hx', hy']

/-- Two numbers of which the last has no bits too many are those of one byte. -/
lemma sextets_one {w x : Nat} (hw : w < 64) (hx : x < 64) (hspare : x % 16 = 0) :
    sextets [(w * 4 + x / 16).toUInt8] = [w, x] := by
  have hw' : (w * 4 + x / 16) / 4 = w := by omega
  have hx' : (w * 4 + x / 16) % 4 * 16 = x := by omega
  rw [sextets, toNat_toUInt8 (by omega), hw', hx']

/-- Numbers that can be joined, and of which none is left over, are those of the bytes that come
out. -/
lemma exists_sextets_of_joinOnto {offset : Nat} {acc out : Bytes} {symbols : List (UInt8 × Nat)}
    (h : joinOnto offset acc symbols = .ok out) (hlength : symbols.length % 4 ≠ 1)
    (hlt : ∀ s ∈ symbols, s.2 < 64) :
    ∃ bytes, out = bytes.reverse ++ acc ∧ symbols.map Prod.snd = sextets bytes := by
  fun_induction joinOnto offset acc symbols with
  | case1 offset acc _ w _ x _ y _ z rest ih =>
    simp only [List.forall_mem_cons] at hlt
    obtain ⟨hw, hx, hy, hz, hrest⟩ := hlt
    simp only [List.length_cons] at hlength
    obtain ⟨bytes, rfl, hbytes⟩ := ih h (by omega) hrest
    refine ⟨(w * 4 + x / 16).toUInt8 :: (x % 16 * 16 + y / 4).toUInt8 :: (y % 4 * 64 + z).toUInt8 ::
      bytes, by simp, ?_⟩
    rw [sextets_three hw hx hy hz, ← hbytes]
    rfl
  | case2 offset acc _ w _ x b y hspare =>
    cases h
    simp only [List.forall_mem_cons] at hlt
    obtain ⟨hw, hx, hy, -⟩ := hlt
    exact ⟨_, rfl, (sextets_two hw hx hy hspare).symm⟩
  | case3 => cases h
  | case4 offset acc _ w b x hspare =>
    cases h
    simp only [List.forall_mem_cons] at hlt
    obtain ⟨hw, hx, -⟩ := hlt
    exact ⟨_, rfl, (sextets_one hw hx hspare).symm⟩
  | case5 => cases h
  | case6 symbols offset acc hfour hthree htwo =>
    cases h
    -- one number or none is all that can be left, and one is excluded
    match symbols with
    | [] => exact ⟨[], rfl, rfl⟩
    | [_] => exact absurd rfl hlength
    | [(a, w), (b, x)] => exact absurd rfl (htwo a w b x)
    | [(a, w), (b, x), (c, y)] => exact absurd rfl (hthree a w b x c y)
    | (a, w) :: (b, x) :: (c, y) :: (d, z) :: rest => exact absurd rfl (hfour a w b x c y d z rest)

/-! ## Accepted texts -/

/-- Texts with the same bytes are the same. -/
lemma eq_of_encode_eq {s t : String} (h : Utf8.encode s = Utf8.encode t) : s = t := by
  have hdecode := congrArg Utf8.decode h
  rw [Utf8.decode_encode, Utf8.decode_encode] at hdecode
  exact Except.ok.inj hdecode

/-- The normal form of a text that is read as bytes is the token of the bytes. -/
lemma normalize_of_toBytes {token : String} {bytes : Bytes} (h : toBytes token = .ok bytes) :
    normalize token = ofBytes bytes := by
  unfold toBytes at h
  dsimp only at h
  split at h
  · cases h
  · next hlength =>
    split at h
    · cases h
    · next symbols hsymbols =>
      split at h
      · next out hout =>
        cases h
        obtain ⟨hbytes, hvalues⟩ := map_fst_of_values hsymbols
        rw [← hbytes, List.length_map] at hlength
        obtain ⟨bytes, rfl, hsextets⟩ :=
          exists_sextets_of_joinOnto hout hlength fun s hs => (hvalues s hs).1
        apply eq_of_encode_eq
        rw [List.append_nil, List.reverse_reverse, encode_ofBytes, ← hsextets, ← hbytes,
          List.map_map]
        exact List.map_congr_left fun s hs => (hvalues s hs).2.symm
      · cases h

/-- Only the normal form of a text counts. -/
lemma toBytes_eq_of_normalize {token other : String} (h : normalize token = normalize other) :
    toBytes token = toBytes other := by
  unfold toBytes
  rw [h]

/-- A text whose normal form is the token of bytes is read as these bytes. -/
lemma toBytes_of_normalize {token : String} {bytes : Bytes} (h : normalize token = ofBytes bytes) :
    toBytes token = .ok bytes := by
  rw [toBytes_eq_of_normalize (h.trans (normalize_ofBytes bytes).symm), toBytes_ofBytes]

/-! ## The standard alphabet -/

/-- The character of the standard alphabet that stands for the same six bits as a symbol. -/
def standardSymbol (c : Char) : Char := if c = '-' then '+' else if c = '_' then '/' else c

/-- The spelling of bytes in the standard alphabet, padded to a multiple of four characters. -/
def standard (bytes : Bytes) : String :=
  let spelled := (ofBytes bytes).toList.map standardSymbol
  String.ofList (spelled ++ List.replicate ((4 - spelled.length % 4) % 4) '=')

/-- A standard symbol is neither white space nor padding, and it is read as the symbol. -/
lemma standardSymbol_facts : ∀ n < 64, isBlank (standardSymbol (symbol n)) = false ∧
    standardSymbol (symbol n) ≠ '=' ∧ addressSafe (standardSymbol (symbol n)) = symbol n := by
  decide

/-- The normal form of the standard spelling is the token. -/
lemma normalize_standard (bytes : Bytes) : normalize (standard bytes) = ofBytes bytes := by
  have hkept : ∀ c ∈ (ofBytes bytes).toList.map standardSymbol, isBlank c = false ∧ c ≠ '=' := by
    intro c hc
    obtain ⟨d, hd, rfl⟩ := List.mem_map.1 hc
    obtain ⟨n, hn, rfl⟩ := exists_symbol_of_mem_ofBytes hd
    exact ⟨(standardSymbol_facts n hn).1, (standardSymbol_facts n hn).2.1⟩
  have hsafe : ((ofBytes bytes).toList.map standardSymbol).map addressSafe =
      (ofBytes bytes).toList := by
    rw [List.map_map]
    refine (List.map_congr_left fun c hc => ?_).trans (List.map_id _)
    obtain ⟨n, hn, rfl⟩ := exists_symbol_of_mem_ofBytes hc
    exact (standardSymbol_facts n hn).2.2
  rw [standard, normalize_padded hkept, hsafe, String.ofList_toList]

/-- **A text is read as bytes exactly if its normal form is their token.**  A text whose normal form
is no token at all is refused as an invalid one, also where an envelope is asked for.  So every
token is read as its bytes, the padded spelling in the standard alphabet is read as the same bytes,
and texts with different normal forms are never read as the same bytes. -/
theorem toBytes_eq_ok_iff :
    (∀ (token : String) (bytes : Bytes),
      toBytes token = .ok bytes ↔ normalize token = ofBytes bytes) ∧
    (∀ token, (∀ bytes, normalize token ≠ ofBytes bytes) →
      ∃ fault, toBytes token = .error fault ∧
        Envelope.payload token = .error (.invalidToken fault)) ∧
    (∀ bytes, toBytes (ofBytes bytes) = .ok bytes) ∧
    (∀ bytes, toBytes (standard bytes) = .ok bytes) ∧
    ∀ token other : String, normalize token ≠ normalize other →
      ∀ bytes, ¬(toBytes token = .ok bytes ∧ toBytes other = .ok bytes) := by
  refine ⟨fun token bytes => ⟨normalize_of_toBytes, toBytes_of_normalize⟩, ?_, toBytes_ofBytes,
    fun bytes => toBytes_of_normalize (normalize_standard bytes), ?_⟩
  · intro token hnone
    cases hread : toBytes token with
    | ok bytes => exact absurd (normalize_of_toBytes hread) (hnone bytes)
    | error fault =>
      refine ⟨fault, rfl, ?_⟩
      unfold Envelope.payload
      rw [hread]
      rfl
  · rintro token other hne bytes ⟨htoken, hother⟩
    exact hne ((normalize_of_toBytes htoken).trans (normalize_of_toBytes hother).symm)

/-- Two bytes in both alphabets, and a text that would spell the same two bytes but for a bit behind
them. -/
theorem toBytes_spellings :
    toBytes " /+8=\n" = .ok [0xFF, 0xEF] ∧ toBytes (standard [0xFF, 0xEF]) = .ok [0xFF, 0xEF] ∧
      (∀ bytes, normalize "_-9" ≠ ofBytes bytes) ∧
      (∃ fault, toBytes "_-9" = .error fault ∧
        Envelope.payload "_-9" = .error (.invalidToken fault)) ∧
      normalize "_-8" ≠ normalize "_-9" ∧
      ¬(toBytes "_-8" = .ok [0xFF, 0xEF] ∧ toBytes "_-9" = .ok [0xFF, 0xEF]) := by
  obtain ⟨hread, hrefused, -, hstandard, hapart⟩ := toBytes_eq_ok_iff
  have hspelled : normalize " /+8=\n" = ofBytes [0xFF, 0xEF] := by decide +kernel
  have hfault : toBytes "_-9" = .error (.lastSymbol 0x39 2) := by rfl
  have hnone : ∀ bytes, normalize "_-9" ≠ ofBytes bytes := by
    intro bytes hnormal
    have hbytes := (hread "_-9" bytes).2 hnormal
    rw [hfault] at hbytes
    cases hbytes
  have hne : normalize "_-8" ≠ normalize "_-9" := by decide +kernel
  exact ⟨(hread _ _).2 hspelled, hstandard _, hnone, hrefused _ hnone, hne, hapart _ _ hne _⟩

end SessionVault.Token
