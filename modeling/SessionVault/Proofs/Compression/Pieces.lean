import Mathlib.Data.List.Induction
import Mathlib.Tactic.Linarith
import Mathlib.Tactic.Ring
import SessionVault.Compression.Pieces
/-!
# Pieces describe the data they were found in

`expand` undoes `toPieces`, whatever positions the table proposes: a copy is only made as long as
the data were seen to agree.  The invariant of the search at position `i` is that the pieces found
so far describe the first `i` bytes.

The formats need more of the pieces than that: a copy must be one that they can express, and it
must not reach before the start of the data.  `Fits` says so for pieces that follow a given number
of bytes.
-/

namespace SessionVault

/-- Pieces that follow `size` bytes have only copies that a format can express, of bytes that are
there. -/
def Fits (limits : CopyLimits) : (size : Nat) → List Piece → Prop
  | _, [] => True
  | size, .literal _ :: rest => Fits limits (size + 1) rest
  | size, .copy length distance :: rest =>
    (limits.minLength ≤ length ∧ 0 < length ∧ length ≤ limits.maxLength) ∧
      (0 < distance ∧ distance ≤ size ∧ distance ≤ limits.maxDistance) ∧
      Fits limits (size + length) rest

/-! ## Agreeing bytes -/

/-- The count of agreeing bytes: so many are there at both places and agree, and it keeps to the
limit. -/
lemma exists_agreeOnto (data : Array UInt8) (acc limit i j : Nat) :
    ∃ n ≤ limit, agreeOnto data acc limit i j = acc + n ∧
      ∀ k < n, ∃ b, data[i + k]? = some b ∧ data[j + k]? = some b := by
  induction limit generalizing acc i j with
  | zero => exact ⟨0, Nat.le_refl 0, rfl, fun k hk => absurd hk (Nat.not_lt_zero k)⟩
  | succ limit ih =>
    have hstop : ∃ n ≤ limit + 1, acc = acc + n ∧
        ∀ k < n, ∃ b, data[i + k]? = some b ∧ data[j + k]? = some b :=
      ⟨0, Nat.zero_le _, rfl, fun k hk => absurd hk (Nat.not_lt_zero k)⟩
    rw [agreeOnto]
    split
    · rename_i a b ha hb
      split_ifs with hab
      · subst hab
        obtain ⟨n, hn, heq, hagree⟩ := ih (acc + 1) (i + 1) (j + 1)
        refine ⟨n + 1, Nat.succ_le_succ hn, by rw [heq]; omega, fun k hk => ?_⟩
        cases k with
        | zero => exact ⟨a, ha, hb⟩
        | succ k =>
          obtain ⟨c, hi, hj⟩ := hagree k (Nat.lt_of_succ_lt_succ hk)
          exact ⟨c, by rw [← hi]; congr 1; omega, by rw [← hj]; congr 1; omega⟩
      · exact hstop
    · exact hstop

/-! ## Copies -/

/-- A byte of the data completes the bytes before it. -/
lemma push_extract {data : Array UInt8} {i : Nat} {b : UInt8} (h : data[i]? = some b) :
    (data.extract 0 i).push b = data.extract 0 (i + 1) := by
  obtain ⟨hi, rfl⟩ := Array.getElem?_eq_some_iff.1 h
  exact Array.push_extract_getElem hi

/-- The byte that a copy takes from the data read so far. -/
lemma byteBack_extract {data : Array UInt8} {i distance : Nat} {b : UInt8} (hi : i ≤ data.size)
    (hpos : 0 < distance) (hle : distance ≤ i) (h : data[i - distance]? = some b) :
    byteBack (data.extract 0 i) distance = b := by
  have hsize : (data.extract 0 i).size = i := by simp [hi]
  unfold byteBack
  obtain ⟨hlt, rfl⟩ := Array.getElem?_eq_some_iff.1 h
  rw [hsize, if_pos hle, Array.getElem?_extract_of_lt (by omega)]
  simp

/-- Copying bytes that agree goes on with the data. -/
lemma copyBack_extract {data : Array UInt8} {distance : Nat} (hpos : 0 < distance) (n i : Nat)
    (hi : i ≤ data.size) (hle : distance ≤ i)
    (hagree : ∀ k < n, ∃ b, data[i + k]? = some b ∧ data[i - distance + k]? = some b) :
    copyBack distance n (data.extract 0 i) = data.extract 0 (i + n) := by
  induction n generalizing i with
  | zero => rfl
  | succ n ih =>
    obtain ⟨b, hb, hback⟩ := hagree 0 (Nat.succ_pos n)
    rw [Nat.add_zero] at hb hback
    have hlt : i < data.size := (Array.getElem?_eq_some_iff.1 hb).1
    rw [copyBack, byteBack_extract hi hpos hle hback, push_extract hb,
      ih (i + 1) hlt (by omega) fun k hk => ?_]
    · congr 1
      omega
    · obtain ⟨c, hc, hcback⟩ := hagree (k + 1) (Nat.succ_lt_succ hk)
      exact ⟨c, by rw [← hc]; congr 1; omega, by rw [← hcback]; congr 1; omega⟩

/-! ## The search -/

/-- The search finds pieces that go on from the first `i` bytes to all of them. -/
lemma exists_piecesOnto (limits : CopyLimits) (data : Array UInt8) (fuel i : Nat)
    (recent : Array Nat) (acc : List Piece) (hi : i ≤ data.size) (hfuel : data.size ≤ i + fuel) :
    ∃ pieces, piecesOnto limits data fuel i recent acc = pieces.reverse ++ acc ∧
      pieces.foldl Piece.apply (data.extract 0 i) = data ∧ Fits limits i pieces := by
  induction fuel generalizing i recent acc with
  | zero =>
    have hall : data.extract 0 i = data := by
      rw [Nat.le_antisymm hi hfuel]
      exact Array.extract_size
    exact ⟨[], rfl, hall, trivial⟩
  | succ fuel ih =>
    rw [piecesOnto]
    split
    · rename_i hnone
      have hall : data.extract 0 i = data := by
        rw [Nat.le_antisymm hi (Array.getElem?_eq_none_iff.1 hnone)]
        exact Array.extract_size
      exact ⟨[], rfl, hall, trivial⟩
    · rename_i b hb
      have hlt : i < data.size := (Array.getElem?_eq_some_iff.1 hb).1
      dsimp only
      generalize recent.setIfInBounds (recentSlot data i) (i + 1) = recent'
      generalize recent[recentSlot data i]?.getD 0 = proposed
      have hliteral : ∃ pieces, piecesOnto limits data fuel (i + 1) recent' (.literal b :: acc) =
          pieces.reverse ++ acc ∧ pieces.foldl Piece.apply (data.extract 0 i) = data ∧
          Fits limits i pieces := by
        obtain ⟨pieces, hpieces, hdata, hfits⟩ := ih (i + 1) recent' (.literal b :: acc) hlt
          (by omega)
        refine ⟨.literal b :: pieces, by rw [hpieces]; simp, ?_, hfits⟩
        rw [List.foldl_cons, Piece.apply, push_extract hb]
        exact hdata
      by_cases hcopy : 0 < proposed ∧ proposed ≤ i ∧ i + 1 - proposed ≤ limits.maxDistance
      · -- the proposed position is in the window: the agreeing bytes are counted
        obtain ⟨n, hn, heq, hagree⟩ := exists_agreeOnto data 0 limits.maxLength i (proposed - 1)
        rw [if_pos hcopy, heq, Nat.zero_add]
        split_ifs with hworth
        · obtain ⟨c, hc, -⟩ := hagree (n - 1) (by omega)
          have hend : i + (n - 1) < data.size := (Array.getElem?_eq_some_iff.1 hc).1
          obtain ⟨pieces, hpieces, hdata, hfits⟩ := ih (i + n) recent'
            (.copy n (i + 1 - proposed) :: acc) (by omega) (by omega)
          refine ⟨.copy n (i + 1 - proposed) :: pieces, by rw [hpieces]; simp, ?_, ?_⟩
          · rw [List.foldl_cons, Piece.apply, copyBack_extract (by omega) n i hi (by omega)]
            · exact hdata
            · intro k hk
              obtain ⟨d, hd, hback⟩ := hagree k hk
              exact ⟨d, hd, by rw [← hback]; congr 1; omega⟩
          · exact ⟨⟨hworth.1, hworth.2, hn⟩, ⟨by omega, by omega, hcopy.2.2⟩, hfits⟩
        · exact hliteral
      · rw [if_neg hcopy, if_neg (by omega)]
        exact hliteral

/-- The pieces found in data describe the data, and all of them fit. -/
theorem expand_toPieces (limits : CopyLimits) (bytes : Bytes) :
    (expand (toPieces limits bytes)).toList = bytes ∧ Fits limits 0 (toPieces limits bytes) := by
  obtain ⟨pieces, hpieces, hdata, hfits⟩ := exists_piecesOnto limits bytes.toArray
    bytes.toArray.size 0 (Array.replicate 4096 0) [] (Nat.zero_le _) (by omega)
  have hfound : toPieces limits bytes = pieces := by
    rw [toPieces, hpieces]
    simp
  rw [hfound]
  refine ⟨?_, hfits⟩
  rw [expand, show (#[] : Array UInt8) = bytes.toArray.extract 0 0 by simp, hdata]

/-! ## Tables of lengths and distances -/

/-- The last entry is looked at first. -/
lemma lastEntry_append_singleton (table : List (Nat × Nat)) (entry : Nat × Nat) (n : Nat) :
    lastEntry (table ++ [entry]) n =
      if entry.1 ≤ n then (table.length, entry.1, entry.2) else lastEntry table n := by
  unfold lastEntry
  rw [List.zipIdx_append, List.foldl_append]
  simp

/-- The entry that is found does not exceed the number, and all later entries do. -/
lemma lastEntry_spec {table : List (Nat × Nat)} {n : Nat} (h : ∃ entry ∈ table, entry.1 ≤ n) :
    ∃ i least extra, lastEntry table n = (i, least, extra) ∧ table[i]? = some (least, extra) ∧
      least ≤ n ∧ ∀ entry, table[i + 1]? = some entry → n < entry.1 := by
  induction table using List.reverseRecOn with
  | nil => simp at h
  | append_singleton table last ih =>
    rw [lastEntry_append_singleton]
    split_ifs with hlast
    · refine ⟨table.length, last.1, last.2, rfl, by simp, hlast, fun entry hentry => ?_⟩
      have hout : (table ++ [last])[table.length + 1]? = none := by simp
      rw [hout] at hentry
      cases hentry
    · obtain ⟨entry, hmem, hle⟩ := h
      have hmem : entry ∈ table := by
        rcases List.mem_append.1 hmem with hmem | hmem
        · exact hmem
        · rw [List.mem_singleton.1 hmem] at hle
          exact absurd hle hlast
      obtain ⟨i, least, extra, hfound, hget, hle, hnext⟩ := ih ⟨entry, hmem, hle⟩
      have hi : i < table.length := (List.getElem?_eq_some_iff.1 hget).1
      refine ⟨i, least, extra, hfound, ?_, hle, fun next hget' => ?_⟩
      · rw [List.getElem?_append_left hi]
        exact hget
      · rcases Nat.lt_or_ge (i + 1) table.length with hi' | hi'
        · rw [List.getElem?_append_left hi'] at hget'
          exact hnext next hget'
        · rw [List.getElem?_append_right hi', show i + 1 - table.length = 0 by omega] at hget'
          cases hget'
          exact Nat.lt_of_not_le hlast

/-- Every entry of a table reaches up to the next one with its extra bits, and the last one up to a
bound. -/
def reaches (table : List (Nat × Nat)) (bound : Nat) : Bool :=
  (table.zip (table.drop 1 ++ [(bound, 0)])).all fun (entry, next) =>
    next.1 ≤ entry.1 + 2 ^ entry.2

/-- In a table without gaps the extra bits of the entry that is found hold what the entry lacks. -/
lemma lastEntry_of_reaches {table : List (Nat × Nat)} {bound n : Nat}
    (hreaches : reaches table bound = true) (hleast : ∃ entry ∈ table, entry.1 ≤ n)
    (hbound : n < bound) :
    ∃ i least extra, lastEntry table n = (i, least, extra) ∧ table[i]? = some (least, extra) ∧
      least ≤ n ∧ n - least < 2 ^ extra := by
  obtain ⟨i, least, extra, hfound, hget, hle, hnext⟩ := lastEntry_spec hleast
  have hi : i < table.length := (List.getElem?_eq_some_iff.1 hget).1
  refine ⟨i, least, extra, hfound, hget, hle, ?_⟩
  obtain ⟨next, hafter, hlt⟩ :
      ∃ next, (table.drop 1 ++ [(bound, 0)])[i]? = some next ∧ n < next.1 := by
    rcases Nat.lt_or_ge (i + 1) table.length with hi' | hi'
    · refine ⟨table[i + 1], ?_, hnext _ (List.getElem?_eq_getElem hi')⟩
      rw [List.getElem?_append_left (by rw [List.length_drop]; omega), List.getElem?_drop,
        Nat.add_comm 1 i, List.getElem?_eq_getElem hi']
    · refine ⟨(bound, 0), ?_, hbound⟩
      rw [List.getElem?_append_right (by rw [List.length_drop]; omega), List.length_drop,
        show i - (table.length - 1) = 0 by omega]
      rfl
  have hpair : ((least, extra), next) ∈ table.zip (table.drop 1 ++ [(bound, 0)]) :=
    List.mem_of_getElem? (List.getElem?_zip_eq_some.2 ⟨hget, hafter⟩)
  have hle' := List.all_eq_true.1 hreaches _ hpair
  rw [decide_eq_true_iff] at hle'
  have hgap : next.1 ≤ least + 2 ^ extra := hle'
  omega

end SessionVault
