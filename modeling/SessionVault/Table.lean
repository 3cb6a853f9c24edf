/-!
# Tables

A finite map is kept as a list of entries in strictly increasing key order, so that two tables
with the same bindings are the same table.  `Assoc` has the operations on entry lists; `Table`
packs a list with the proof that it is ordered.
-/

namespace SessionVault

universe u v w

namespace Assoc

variable {κ : Type u} {α : Type v} [Ord κ]

/-- The value bound to `key`. -/
def get? (key : κ) : List (κ × α) → Option α
  | [] => none
  | (k, a) :: rest => if compare key k = .eq then some a else get? key rest

/-- Binds `key` to `value`, replacing an earlier binding and keeping the key order. -/
def insert (key : κ) (value : α) : List (κ × α) → List (κ × α)
  | [] => [(key, value)]
  | (k, a) :: rest =>
    match compare key k with
    | .lt => (key, value) :: (k, a) :: rest
    | .eq => (key, value) :: rest
    | .gt => (k, a) :: insert key value rest

/-- Drops the binding of `key`. -/
def erase (key : κ) : List (κ × α) → List (κ × α)
  | [] => []
  | (k, a) :: rest => if compare key k = .eq then rest else (k, a) :: erase key rest

/-- Binds the entries of a list in turn: of two entries for one key the later one stays. -/
def ofList (entries : List (κ × α)) : List (κ × α) :=
  entries.foldl (fun acc entry => insert entry.1 entry.2 acc) []

/-- Keys increase strictly along the list. -/
def Ordered (entries : List (κ × α)) : Prop :=
  entries.Pairwise fun a b => compare a.1 b.1 = .lt

theorem mem_insert {key : κ} {value : α} {entries : List (κ × α)} {entry : κ × α}
    (h : entry ∈ insert key value entries) : entry = (key, value) ∨ entry ∈ entries := by
  induction entries with
  | nil => simpa [insert] using h
  | cons head rest ih =>
    obtain ⟨k, a⟩ := head
    simp only [insert] at h
    split at h <;> simp only [List.mem_cons] at h ⊢
    · exact h
    · rcases h with h | h
      · exact .inl h
      · exact .inr (.inr h)
    · rcases h with h | h
      · exact .inr (.inl h)
      · rcases ih h with h | h
        · exact .inl h
        · exact .inr (.inr h)

theorem mem_of_mem_erase {key : κ} {entries : List (κ × α)} {entry : κ × α}
    (h : entry ∈ erase key entries) : entry ∈ entries := by
  induction entries with
  | nil => simp [erase] at h
  | cons head rest ih =>
    obtain ⟨k, a⟩ := head
    simp only [erase] at h
    split at h
    · exact List.mem_cons_of_mem _ h
    · rcases List.mem_cons.1 h with h | h
      · exact h ▸ List.mem_cons_self
      · exact List.mem_cons_of_mem _ (ih h)

theorem Ordered.insert [Std.TransOrd κ] {entries : List (κ × α)} (h : Ordered entries)
    (key : κ) (value : α) : Ordered (Assoc.insert key value entries) := by
  induction entries with
  | nil => simp [Assoc.insert, Ordered]
  | cons head rest ih =>
    obtain ⟨k, a⟩ := head
    have hrest := List.pairwise_cons.1 h
    simp only [Assoc.insert]
    split
    · rename_i hk
      refine List.pairwise_cons.2 ⟨fun entry hentry => ?_, h⟩
      rcases List.mem_cons.1 hentry with rfl | hentry
      · exact hk
      · exact Std.TransCmp.lt_trans hk (hrest.1 entry hentry)
    · rename_i hk
      refine List.pairwise_cons.2 ⟨fun entry hentry => ?_, hrest.2⟩
      exact Std.TransCmp.lt_of_eq_of_lt hk (hrest.1 entry hentry)
    · rename_i hk
      refine List.pairwise_cons.2 ⟨fun entry hentry => ?_, ih hrest.2⟩
      rcases mem_insert hentry with rfl | hentry
      · exact Std.OrientedCmp.lt_of_gt hk
      · exact hrest.1 entry hentry

theorem Ordered.erase {entries : List (κ × α)} (h : Ordered entries) (key : κ) :
    Ordered (Assoc.erase key entries) := by
  induction entries with
  | nil => exact h
  | cons head rest ih =>
    obtain ⟨k, a⟩ := head
    have hrest := List.pairwise_cons.1 h
    simp only [Assoc.erase]
    split
    · exact hrest.2
    · exact List.pairwise_cons.2
        ⟨fun entry hentry => hrest.1 entry (mem_of_mem_erase hentry), ih hrest.2⟩

theorem ordered_ofList [Std.TransOrd κ] (entries : List (κ × α)) : Ordered (ofList entries) := by
  have key : ∀ (todo acc : List (κ × α)), Ordered acc →
      Ordered (todo.foldl (fun acc entry => Assoc.insert entry.1 entry.2 acc) acc) := by
    intro todo
    induction todo with
    | nil => intro acc h; exact h
    | cons head rest ih => intro acc h; exact ih _ (h.insert _ _)
  exact key entries [] List.Pairwise.nil

end Assoc

/-- A finite map, its entries in key order. -/
structure Table (κ : Type u) (α : Type v) [Ord κ] where
  /-- The bindings, smallest key first. -/
  entries : List (κ × α)
  /-- The keys increase strictly. -/
  ordered : Assoc.Ordered entries

namespace Table

variable {κ : Type u} {α : Type v} [Ord κ]

@[ext]
theorem ext {a b : Table κ α} (h : a.entries = b.entries) : a = b := by
  cases a; cases b; cases h; rfl

instance [DecidableEq κ] [DecidableEq α] : DecidableEq (Table κ α) := fun a b =>
  if h : a.entries = b.entries then .isTrue (ext h) else .isFalse fun e => h (e ▸ rfl)

/-- The table with no bindings. -/
def empty : Table κ α := ⟨[], List.Pairwise.nil⟩

instance : EmptyCollection (Table κ α) := ⟨empty⟩

instance : Inhabited (Table κ α) := ⟨empty⟩

/-- The value bound to a key. -/
def get? (t : Table κ α) (key : κ) : Option α := Assoc.get? key t.entries

/-- Whether a key is bound. -/
def contains (t : Table κ α) (key : κ) : Bool := (t.get? key).isSome

/-- The number of bindings. -/
def size (t : Table κ α) : Nat := t.entries.length

/-- Whether nothing is bound. -/
def isEmpty (t : Table κ α) : Bool := t.entries.isEmpty

/-- The keys in increasing order. -/
def keys (t : Table κ α) : List κ := t.entries.map (·.1)

/-- The values in key order. -/
def values (t : Table κ α) : List α := t.entries.map (·.2)

/-- Binds a key, replacing an earlier binding. -/
def insert [Std.TransOrd κ] (t : Table κ α) (key : κ) (value : α) : Table κ α :=
  ⟨Assoc.insert key value t.entries, t.ordered.insert key value⟩

/-- Drops the binding of a key. -/
def erase (t : Table κ α) (key : κ) : Table κ α :=
  ⟨Assoc.erase key t.entries, t.ordered.erase key⟩

/-- The table that binds the entries of a list in turn, so that later entries win. -/
def ofList [Std.TransOrd κ] (entries : List (κ × α)) : Table κ α :=
  ⟨Assoc.ofList entries, Assoc.ordered_ofList entries⟩

/-- Changes every value and keeps the keys. -/
def map {β : Type w} (f : α → β) (t : Table κ α) : Table κ β :=
  ⟨t.entries.map fun entry => (entry.1, f entry.2), by
    have h := t.ordered
    simp only [Assoc.Ordered, List.pairwise_map] at h ⊢
    exact h⟩

end Table

end SessionVault
