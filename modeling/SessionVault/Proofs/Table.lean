import Mathlib.Data.List.Induction
import Mathlib.Data.List.Nodup
import SessionVault.Table
/-!
# Entry lists in key order

What binding the entries of a list in turn gives: every key of the list is bound, to the last of
its entries, and a list that is in key order already comes out as it is.  In an ordered list a key
is bound to the value it stands with.
-/

namespace SessionVault.Assoc

universe u v

variable {κ : Type u} {α : Type v} [Ord κ]

/-- A key past all the others is bound at the end. -/
lemma insert_of_forall_lt [Std.OrientedOrd κ] {key : κ} (value : α) {entries : List (κ × α)}
    (h : ∀ entry ∈ entries, compare entry.1 key = .lt) :
    insert key value entries = entries ++ [(key, value)] := by
  induction entries with
  | nil => rfl
  | cons head rest ih =>
    obtain ⟨k, a⟩ := head
    have hgt : compare key k = .gt := Std.OrientedCmp.gt_of_lt (h (k, a) List.mem_cons_self)
    rw [insert, hgt, List.cons_append,
      ← ih fun entry hentry => h entry (List.mem_cons_of_mem _ hentry)]

/-- Entries past all the others are bound behind them. -/
lemma foldl_insert_of_ordered [Std.OrientedOrd κ] {todo acc : List (κ × α)}
    (h : Ordered (acc ++ todo)) :
    todo.foldl (fun acc entry => insert entry.1 entry.2 acc) acc = acc ++ todo := by
  induction todo generalizing acc with
  | nil => rw [List.foldl_nil, List.append_nil]
  | cons head rest ih =>
    have hlt : ∀ entry ∈ acc, compare entry.1 head.1 = .lt := fun entry hentry =>
      (List.pairwise_append.1 h).2.2 entry hentry head List.mem_cons_self
    rw [List.foldl_cons, insert_of_forall_lt head.2 hlt, ih (by simpa using h), List.append_assoc,
      List.singleton_append]

/-- Entries in key order are bound as they stand. -/
lemma ofList_of_ordered [Std.OrientedOrd κ] {entries : List (κ × α)} (h : Ordered entries) :
    ofList entries = entries :=
  foldl_insert_of_ordered (by exact h)

/-- What is bound in turn was there before or is among the entries. -/
lemma mem_foldl_insert {todo acc : List (κ × α)} {entry : κ × α}
    (h : entry ∈ todo.foldl (fun acc entry => insert entry.1 entry.2 acc) acc) :
    entry ∈ acc ∨ entry ∈ todo := by
  induction todo generalizing acc with
  | nil => exact .inl h
  | cons head rest ih =>
    rcases ih h with h | h
    · rcases mem_insert h with rfl | h
      · exact .inr List.mem_cons_self
      · exact .inl h
    · exact .inr (List.mem_cons_of_mem _ h)

/-- Only entries of the list are bound. -/
lemma mem_of_mem_ofList {entries : List (κ × α)} {entry : κ × α} (h : entry ∈ ofList entries) :
    entry ∈ entries := by
  rcases mem_foldl_insert h with h | h
  · cases h
  · exact h

/-- Changing all values changes the value that a key is bound to. -/
lemma get?_map {β : Type} {f : α → β} {key : κ} {entries : List (κ × α)} :
    get? key (entries.map fun entry => (entry.1, f entry.2)) = (get? key entries).map f := by
  induction entries with
  | nil => rfl
  | cons head rest ih =>
    rw [List.map_cons, get?, ih, get?]
    split <;> rfl

variable [Std.LawfulEqOrd κ]

/-- Binding a key keeps the other keys. -/
lemma mem_keys_insert_iff {key k : κ} {value : α} {entries : List (κ × α)} :
    k ∈ (insert key value entries).map (·.1) ↔ k = key ∨ k ∈ entries.map (·.1) := by
  induction entries with
  | nil => simp [insert]
  | cons head rest ih =>
    obtain ⟨k', a⟩ := head
    rw [insert]
    split
    · simp
    · next heq =>
      obtain rfl := Std.LawfulEqCmp.eq_of_compare heq
      simp
    · rw [List.map_cons, List.mem_cons, ih, List.map_cons, List.mem_cons, or_left_comm]

/-- Every key of the list is bound. -/
lemma mem_keys_ofList_iff {k : κ} {entries : List (κ × α)} :
    k ∈ (ofList entries).map (·.1) ↔ k ∈ entries.map (·.1) := by
  have hfold : ∀ todo acc : List (κ × α),
      k ∈ (todo.foldl (fun acc entry => insert entry.1 entry.2 acc) acc).map (·.1) ↔
        k ∈ acc.map (·.1) ∨ k ∈ todo.map (·.1) := by
    intro todo
    induction todo with
    | nil => simp
    | cons head rest ih =>
      intro acc
      rw [List.foldl_cons, ih, mem_keys_insert_iff, List.map_cons, List.mem_cons, or_assoc,
        or_left_comm]
  rw [ofList, hfold, List.map_nil, or_iff_right List.not_mem_nil]

/-- A key that is not there is not bound. -/
lemma get?_eq_none_iff {key : κ} {entries : List (κ × α)} :
    get? key entries = none ↔ key ∉ entries.map (·.1) := by
  induction entries with
  | nil => simp [get?]
  | cons head rest ih =>
    obtain ⟨k, a⟩ := head
    rw [get?, List.map_cons, List.mem_cons, not_or]
    split
    · next heq => simp [Std.LawfulEqCmp.eq_of_compare heq]
    · next hne => rw [ih, and_iff_right (mt Std.LawfulEqCmp.compare_eq_iff_eq.2 hne)]

/-- Keys in order are told apart. -/
lemma Ordered.nodup_keys {entries : List (κ × α)} (h : Ordered entries) :
    (entries.map (·.1)).Nodup := by
  rw [List.Nodup, List.pairwise_map]
  refine List.Pairwise.imp (fun {a b} hlt heq => ?_) h
  have hequal : compare a.1 b.1 = .eq := Std.LawfulEqCmp.compare_eq_iff_eq.2 heq
  rw [hequal] at hlt
  cases hlt

/-- A key is bound to a value it stands with. -/
lemma mem_of_get?_eq_some {key : κ} {value : α} {entries : List (κ × α)}
    (h : get? key entries = some value) : (key, value) ∈ entries := by
  induction entries with
  | nil => cases h
  | cons head rest ih =>
    obtain ⟨k, a⟩ := head
    rw [get?] at h
    split at h
    · next heq =>
      obtain rfl := Std.LawfulEqCmp.eq_of_compare heq
      obtain rfl := Option.some.inj h
      exact List.mem_cons_self
    · exact List.mem_cons_of_mem _ (ih h)

/-- Where keys are told apart, binding the entries in turn binds each of them. -/
lemma get?_ofList_of_mem {key : κ} {value : α} {entries : List (κ × α)}
    (hnodup : (entries.map (·.1)).Nodup) (hmem : (key, value) ∈ entries) :
    get? key (ofList entries) = some value := by
  have hkey : key ∈ (ofList entries).map (·.1) :=
    mem_keys_ofList_iff.2 (List.mem_map.2 ⟨_, hmem, rfl⟩)
  rcases hget : get? key (ofList entries) with _ | found
  · exact absurd hkey (get?_eq_none_iff.1 hget)
  · have hfound := mem_of_mem_ofList (mem_of_get?_eq_some hget)
    have hequal := List.inj_on_of_nodup_map hnodup hfound hmem rfl
    rw [(Prod.mk.inj hequal).2]

/-- Binding a key changes what that key is bound to and nothing else. -/
lemma get?_insert [DecidableEq κ] {key k : κ} {value : α} {entries : List (κ × α)} :
    get? k (insert key value entries) = if k = key then some value else get? k entries := by
  induction entries with
  | nil => simp [insert, get?]
  | cons head rest ih =>
    obtain ⟨k', a⟩ := head
    rw [insert]
    split
    · simp [get?]
    · next heq =>
      obtain rfl := Std.LawfulEqCmp.eq_of_compare heq
      by_cases hk : k = key <;> simp [get?, hk]
    · next hgt =>
      have hne : key ≠ k' := by
        rintro rfl
        simp at hgt
      rw [get?, ih, get?]
      by_cases hk : k = k'
      · rw [if_pos (Std.LawfulEqCmp.compare_eq_iff_eq.2 hk), if_neg (hk ▸ hne.symm),
          if_pos (Std.LawfulEqCmp.compare_eq_iff_eq.2 hk)]
      · rw [if_neg (mt Std.LawfulEqCmp.eq_of_compare hk),
          if_neg (mt Std.LawfulEqCmp.eq_of_compare hk)]

/-- Binding a key twice is binding it once, to the second value. -/
lemma insert_insert {key : κ} {first second : α} {entries : List (κ × α)} :
    insert key second (insert key first entries) = insert key second entries := by
  have hself : compare key key = .eq := Std.ReflCmp.compare_self
  induction entries with
  | nil => simp only [insert, hself]
  | cons head rest ih =>
    obtain ⟨k, a⟩ := head
    rw [insert, insert]
    cases hk : compare key k with
    | lt =>
      dsimp only
      rw [insert, hself]
    | eq =>
      dsimp only
      rw [insert, hself]
    | gt =>
      dsimp only
      rw [insert, hk, ih]

/-- Dropping the binding of a key from an ordered list leaves that key unbound and changes no other
key. -/
lemma get?_erase [DecidableEq κ] {key k : κ} {entries : List (κ × α)} (h : Ordered entries) :
    get? k (erase key entries) = if k = key then none else get? k entries := by
  induction entries with
  | nil => simp [erase, get?]
  | cons head rest ih =>
    obtain ⟨k', a⟩ := head
    have hrest := List.pairwise_cons.1 h
    rw [erase]
    split
    · next heq =>
      obtain rfl := Std.LawfulEqCmp.eq_of_compare heq
      by_cases hk : k = key
      · rw [if_pos hk, hk]
        exact get?_eq_none_iff.2 (List.nodup_cons.1 h.nodup_keys).1
      · rw [if_neg hk, get?, if_neg (mt Std.LawfulEqCmp.eq_of_compare hk)]
    · next hne =>
      rw [get?, ih hrest.2, get?]
      by_cases hk : k = k'
      · have hkey : k ≠ key := by
          rintro rfl
          exact hne (Std.LawfulEqCmp.compare_eq_iff_eq.2 hk)
        rw [if_pos (Std.LawfulEqCmp.compare_eq_iff_eq.2 hk), if_neg hkey,
          if_pos (Std.LawfulEqCmp.compare_eq_iff_eq.2 hk)]
      · rw [if_neg (mt Std.LawfulEqCmp.eq_of_compare hk),
          if_neg (mt Std.LawfulEqCmp.eq_of_compare hk)]

/-- An entry of an ordered list is what its key is bound to. -/
lemma Ordered.get?_of_mem {key : κ} {value : α} {entries : List (κ × α)} (h : Ordered entries)
    (hmem : (key, value) ∈ entries) : get? key entries = some value := by
  rcases hget : get? key entries with _ | found
  · exact absurd (List.mem_map.2 ⟨_, hmem, rfl⟩) (get?_eq_none_iff.1 hget)
  · have hequal := List.inj_on_of_nodup_map h.nodup_keys (mem_of_get?_eq_some hget) hmem rfl
    rw [(Prod.mk.inj hequal).2]

/-- Ordered lists that bind every key alike are the same. -/
lemma Ordered.eq_of_get? [Std.OrientedOrd κ] {a b : List (κ × α)} (ha : Ordered a)
    (hb : Ordered b) (h : ∀ key, get? key a = get? key b) : a = b := by
  have hmem : ∀ entry, entry ∈ a ↔ entry ∈ b := by
    intro entry
    constructor
    · intro hentry
      exact mem_of_get?_eq_some ((h _).symm.trans (ha.get?_of_mem hentry))
    · intro hentry
      exact mem_of_get?_eq_some ((h _).trans (hb.get?_of_mem hentry))
  have hperm : a.Perm b :=
    (List.perm_ext_iff_of_nodup (List.Nodup.of_map _ ha.nodup_keys)
      (List.Nodup.of_map _ hb.nodup_keys)).2 hmem
  refine hperm.eq_of_pairwise ?_ ha hb
  intro x y _ _ hxy hyx
  rw [Std.OrientedCmp.gt_of_lt hxy] at hyx
  cases hyx

/-- The value of the last entry for a key. -/
def last? [DecidableEq κ] (key : κ) (entries : List (κ × α)) : Option α :=
  (entries.filter (·.1 = key)).getLast?.map (·.2)

omit [Ord κ] [Std.LawfulEqOrd κ] in
/-- An entry behind others is the last for its key, and changes nothing for other keys. -/
lemma last?_concat [DecidableEq κ] {key : κ} {entries : List (κ × α)} {entry : κ × α} :
    last? key (entries ++ [entry]) = if key = entry.1 then some entry.2 else last? key entries := by
  rw [last?, List.filter_append]
  split_ifs with hkey
  · rw [List.filter_cons_of_pos (by simpa using hkey.symm)]
    simp
  · rw [List.filter_cons_of_neg (by simpa using Ne.symm hkey), List.filter_nil, List.append_nil]
    rfl

/-- Of the entries for a key, binding them in turn keeps the last. -/
lemma get?_ofList [DecidableEq κ] {key : κ} {entries : List (κ × α)} :
    get? key (ofList entries) = last? key entries := by
  induction entries using List.reverseRecOn with
  | nil => rfl
  | append_singleton entries entry ih =>
    rw [ofList, List.foldl_append, List.foldl_cons, List.foldl_nil, get?_insert, last?_concat, ← ih]
    rfl

end SessionVault.Assoc

namespace SessionVault.Table

universe u v

variable {κ : Type u} {α : Type v} [Ord κ] [Std.LawfulEqOrd κ]

/-- Tables that bind every key alike are the same. -/
lemma ext_get? [Std.OrientedOrd κ] {a b : Table κ α} (h : ∀ key, a.get? key = b.get? key) :
    a = b :=
  ext (a.ordered.eq_of_get? b.ordered h)

/-- Binding a key changes what that key is bound to and nothing else. -/
lemma get?_insert [Std.TransOrd κ] [DecidableEq κ] (t : Table κ α) (key k : κ) (value : α) :
    (t.insert key value).get? k = if k = key then some value else t.get? k :=
  Assoc.get?_insert

/-- Dropping the binding of a key leaves that key unbound and changes no other key. -/
lemma get?_erase [DecidableEq κ] (t : Table κ α) (key k : κ) :
    (t.erase key).get? k = if k = key then none else t.get? k :=
  Assoc.get?_erase t.ordered

/-- The last entry of a table for a key is the one that the key is bound to. -/
lemma last?_entries [Std.OrientedOrd κ] [DecidableEq κ] (t : Table κ α) (key : κ) :
    Assoc.last? key t.entries = t.get? key := by
  rw [← Assoc.get?_ofList, Assoc.ofList_of_ordered t.ordered]
  rfl

/-- The values of a table are what its keys are bound to. -/
lemma mem_values_iff [DecidableEq κ] {t : Table κ α} {value : α} :
    value ∈ t.values ↔ ∃ key, t.get? key = some value := by
  constructor
  · intro hmem
    obtain ⟨⟨key, _⟩, hentry, rfl⟩ := List.mem_map.1 hmem
    exact ⟨key, t.ordered.get?_of_mem hentry⟩
  · rintro ⟨key, hget⟩
    exact List.mem_map.2 ⟨(key, value), Assoc.mem_of_get?_eq_some hget, rfl⟩

end SessionVault.Table
