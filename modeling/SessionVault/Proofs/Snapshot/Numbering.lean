import Mathlib.Data.List.Nodup
import Mathlib.Tactic.Linarith
import Mathlib.Tactic.Ring
import SessionVault.Snapshot.Migration
import SessionVault.Proofs.Steps
/-!
# The ids that a migration hands out

Migration numbers devices and occupants in one traversal, a device before its occupants.  Here the
traversal is described without its counter: `fill first own` keeps the ids that are there and fills
the gaps with `first`, `first + 1` and so on.  `numberDevices_spec` says that numbering either runs
out of ids or fills the traversal in this way, and which of the two happens depends only on the
number of gaps.

The consequences are about the numbered devices alone: given ids are kept (`Filled.eq_of_mem`), the
new ones are consecutive (`Filled.newIds_toNat`), and so new ids collide neither with each other nor
with any id that is not above the counter's start.
-/

namespace SessionVault.Migration

/-! ## Filling gaps -/

/-- The id slots of a device in traversal order: its own, then those of its occupants. -/
def ownIds (device : Split.Device) : List (Option ObjectId) :=
  device.id :: (occupantsOf device).map (·.id)

/-- The number of devices and occupants without an id. -/
def missingIds (devices : List Split.Device) : Nat := (devices.flatMap ownIds).count none

/-- Keeps the ids that are there and fills the gaps with `first`, `first + 1` and so on. -/
def fill (first : Nat) : List (Option ObjectId) → List ObjectId
  | [] => []
  | some id :: rest => id :: fill first rest
  | none :: rest => UInt32.ofNat first :: fill (first + 1) rest

/-- Filling two parts in turn: the second starts after the gaps of the first. -/
lemma fill_append (first : Nat) (left right : List (Option ObjectId)) :
    fill first (left ++ right) = fill first left ++ fill (first + left.count none) right := by
  induction left generalizing first with
  | nil => simp [fill]
  | cons own rest ih =>
    cases own with
    | some id => simp [fill, ih]
    | none =>
      rw [List.cons_append, fill, ih, fill, List.cons_append, List.count_cons_self]
      congr 3
      omega

/-- A list of own ids and final ids in which the gaps are filled from `first` on. -/
def Filled (first : Nat) (entries : List (Option ObjectId × ObjectId)) : Prop :=
  entries.map (·.2) = fill first (entries.map (·.1))

/-- A filled list keeps the ids that are there. -/
lemma Filled.eq_of_mem {first : Nat} {entries : List (Option ObjectId × ObjectId)}
    (h : Filled first entries) {own id : ObjectId} (hmem : (some own, id) ∈ entries) :
    id = own := by
  induction entries generalizing first with
  | nil => simp at hmem
  | cons entry rest ih =>
    obtain ⟨entryOwn, entryId⟩ := entry
    cases entryOwn with
    | some given =>
      simp only [Filled, List.map_cons, fill, List.cons.injEq] at h
      rcases List.mem_cons.1 hmem with heq | hmem
      · cases heq
        exact h.1
      · exact ih h.2 hmem
    | none =>
      simp only [Filled, List.map_cons, fill, List.cons.injEq] at h
      rcases List.mem_cons.1 hmem with heq | hmem
      · cases heq
      · exact ih h.2 hmem

/-- The ids that fill gaps. -/
def newIds (entries : List (Option ObjectId × ObjectId)) : List ObjectId :=
  (entries.filter (·.1.isNone)).map (·.2)

/-- As long as ids do not run out, the gaps of a filled list receive consecutive ids. -/
lemma Filled.newIds_toNat {first : Nat} {entries : List (Option ObjectId × ObjectId)}
    (h : Filled first entries) (hroom : first + (entries.map (·.1)).count none ≤ lastId.toNat) :
    (newIds entries).map UInt32.toNat = List.range' first ((entries.map (·.1)).count none) := by
  have hlast : lastId.toNat = 4294967295 := rfl
  induction entries generalizing first with
  | nil => rfl
  | cons entry rest ih =>
    obtain ⟨entryOwn, entryId⟩ := entry
    cases entryOwn with
    | some given =>
      simp only [Filled, List.map_cons, fill, List.cons.injEq] at h
      have hcount : (some given :: rest.map (·.1)).count none = (rest.map (·.1)).count none := by
        simp
      simp only [List.map_cons, hcount] at hroom ⊢
      have hrest := ih h.2 hroom
      simpa [newIds] using hrest
    | none =>
      simp only [Filled, List.map_cons, fill, List.cons.injEq] at h
      simp only [List.map_cons, List.count_cons_self] at hroom ⊢
      have hrest := ih h.2 (by omega)
      have hid : entryId.toNat = first := by
        rw [h.1, UInt32.toNat_ofNat']
        omega
      simp only [newIds, Option.isNone_none, List.filter_cons_of_pos, List.map_cons] at hrest ⊢
      rw [hid, hrest, List.range'_succ]

/-! ## Numbering -/

/-- The next id is one larger, unless there is none. -/
lemma nextId_spec (id : ObjectId) :
    (id.toNat < lastId.toNat → ∃ next, nextId id = .ok next ∧ next.toNat = id.toNat + 1) ∧
      (lastId.toNat ≤ id.toNat → nextId id = .error .idsExhausted) := by
  have hlast : lastId.toNat = 4294967295 := rfl
  constructor
  · intro h
    have hne : id ≠ lastId := by
      rintro rfl
      omega
    refine ⟨id + 1, by rw [nextId, if_neg hne], ?_⟩
    rw [UInt32.toNat_add]
    have hone : (1 : UInt32).toNat = 1 := rfl
    omega
  · intro h
    have hlt := id.toNat_lt
    have heq : id = lastId := UInt32.toNat_inj.1 (by omega)
    rw [nextId, if_pos heq]

/-- What becomes of one id slot: an own id stays, a gap takes the next id if there is one. -/
lemma assign_spec (own : Option ObjectId) (next : ObjectId) :
    (next.toNat + [own].count none ≤ lastId.toNat →
      ∃ id after, assign own next = .ok (id, after) ∧
        after.toNat = next.toNat + [own].count none ∧ Filled next.toNat [(own, id)]) ∧
      (lastId.toNat < next.toNat + [own].count none →
        assign own next = .error .idsExhausted) := by
  cases own with
  | some id =>
    refine ⟨fun _ => ⟨id, next, rfl, by simp, rfl⟩, fun h => absurd h ?_⟩
    have hlast : lastId.toNat = 4294967295 := rfl
    have hlt := next.toNat_lt
    rw [List.count_singleton, if_neg (by simp)]
    omega
  | none =>
    simp only [List.count_singleton_self]
    constructor
    · intro h
      obtain ⟨after, hafter, hnat⟩ := (nextId_spec next).1 (by omega)
      refine ⟨next, after, by rw [assign, hafter]; rfl, hnat, ?_⟩
      simp [Filled, fill]
    · intro h
      rw [assign, (nextId_spec next).2 (by omega)]
      rfl

/-- The own and final ids of numbered slots. -/
def slotEntries (slots : List NumberedSlot) : List (Option ObjectId × ObjectId) :=
  (slots.filterMap (·.occupant)).map fun o => (o.occupant.id, o.id)

/-- The slots that were numbered. -/
def plainSlots (slots : List NumberedSlot) : List Split.Slot :=
  slots.map fun slot => ⟨slot.typ, slot.occupant.map (·.occupant)⟩

/-- The own and final ids of numbered devices in traversal order. -/
def deviceEntries (devices : List NumberedDevice) : List (Option ObjectId × ObjectId) :=
  devices.flatMap fun d => (d.device.id, d.id) :: slotEntries d.slots

/-- The own ids among the entries of numbered slots. -/
lemma map_fst_slotEntries (slots : List NumberedSlot) :
    (slotEntries slots).map (·.1) = ((plainSlots slots).filterMap (·.occupant)).map (·.id) := by
  induction slots with
  | nil => rfl
  | cons slot rest ih =>
    obtain ⟨typ, occupant⟩ := slot
    cases occupant with
    | none => exact ih
    | some occupant => exact congrArg (occupant.occupant.id :: ·) ih

/-- Two filled parts make a filled whole when the second starts after the gaps of the first. -/
lemma Filled.append {first : Nat} {left right : List (Option ObjectId × ObjectId)}
    (hleft : Filled first left) (hright : Filled (first + (left.map (·.1)).count none) right) :
    Filled first (left ++ right) := by
  unfold Filled at *
  rw [List.map_append, List.map_append, fill_append, hleft, hright]

/-- Numbering slots fills the gaps among their occupants, or runs out of ids when there are more
gaps than ids left. -/
lemma numberSlots_spec (next : ObjectId) (slots : List Split.Slot) :
    (next.toNat + ((slots.filterMap (·.occupant)).map (·.id)).count none ≤ lastId.toNat →
      ∃ numbered after, numberSlots next slots = .ok (numbered, after) ∧
        after.toNat = next.toNat + ((slots.filterMap (·.occupant)).map (·.id)).count none ∧
        plainSlots numbered = slots ∧ Filled next.toNat (slotEntries numbered)) ∧
      (lastId.toNat < next.toNat + ((slots.filterMap (·.occupant)).map (·.id)).count none →
        numberSlots next slots = .error .idsExhausted) := by
  induction slots generalizing next with
  | nil =>
    have hlast : lastId.toNat = 4294967295 := rfl
    have hlt := next.toNat_lt
    refine ⟨fun _ => ⟨[], next, rfl, rfl, rfl, rfl⟩, fun h => absurd h ?_⟩
    simp only [List.filterMap_nil, List.map_nil, List.count_nil]
    omega
  | cons slot rest ih =>
    obtain ⟨typ, occupant⟩ := slot
    cases occupant with
    | none =>
      simp only [List.filterMap_cons_none, numberSlots]
      constructor
      · intro h
        obtain ⟨numbered, after, hrun, hafter, hplain, hfilled⟩ := (ih next).1 h
        refine ⟨⟨typ, none⟩ :: numbered, after, by rw [hrun]; rfl, hafter, ?_, hfilled⟩
        rw [← hplain]
        rfl
      · intro h
        rw [(ih next).2 h]
        rfl
    | some occupant =>
      have hcount : ((List.filterMap (·.occupant) (⟨typ, some occupant⟩ :: rest)).map (·.id)).count
          none = [occupant.id].count none +
            ((rest.filterMap (·.occupant)).map (·.id)).count none := by
        rw [← List.count_append]
        rfl
      rw [hcount, ← Nat.add_assoc]
      simp only [numberSlots]
      constructor
      · intro h
        obtain ⟨id, middle, hassign, hmiddle, hhead⟩ := (assign_spec occupant.id next).1 (by omega)
        obtain ⟨numbered, after, hrun, hafter, hplain, hfilled⟩ := (ih middle).1 (by omega)
        refine ⟨⟨typ, some ⟨id, occupant⟩⟩ :: numbered, after, ?_, by omega, ?_, ?_⟩
        · rw [hassign, ok_bind, hrun]
          rfl
        · rw [← hplain]
          rfl
        · rw [hmiddle] at hfilled
          exact hhead.append hfilled
      · intro h
        by_cases hhead : next.toNat + [occupant.id].count none ≤ lastId.toNat
        · obtain ⟨id, middle, hassign, hmiddle, -⟩ := (assign_spec occupant.id next).1 hhead
          rw [hassign, ok_bind, (ih middle).2 (by omega)]
          rfl
        · rw [(assign_spec occupant.id next).2 (by omega)]
          rfl

/-- Devices numbered from `first` on: the same devices with the same slots, their traversal
filled. -/
structure Numbering (first : Nat) (devices : List Split.Device)
    (numbered : List NumberedDevice) : Prop where
  devices_eq : numbered.map (·.device) = devices
  slots_eq : ∀ d ∈ numbered, plainSlots d.slots = d.device.slots
  filled : Filled first (deviceEntries numbered)

/-- Numbering devices fills the gaps of their traversal, or runs out of ids when there are more
gaps than ids left. -/
lemma numberDevices_spec (next : ObjectId) (devices : List Split.Device) :
    (next.toNat + missingIds devices ≤ lastId.toNat →
      ∃ numbered after, numberDevices next devices = .ok (numbered, after) ∧
        Numbering next.toNat devices numbered) ∧
      (lastId.toNat < next.toNat + missingIds devices →
        numberDevices next devices = .error .idsExhausted) := by
  induction devices generalizing next with
  | nil =>
    have hlast : lastId.toNat = 4294967295 := rfl
    have hlt := next.toNat_lt
    refine ⟨fun _ => ⟨[], next, rfl, rfl, by simp, rfl⟩, fun h => absurd h ?_⟩
    simp only [missingIds, List.flatMap_nil, List.count_nil]
    omega
  | cons device rest ih =>
    -- The traversal of the first device is its own slot, then those of its occupants.
    have hcount : missingIds (device :: rest) = [device.id].count none +
        ((device.slots.filterMap (·.occupant)).map (·.id)).count none + missingIds rest := by
      have hown : ownIds device =
          [device.id] ++ (device.slots.filterMap (·.occupant)).map (·.id) := rfl
      rw [missingIds, List.flatMap_cons, List.count_append, hown, List.count_append]
      rfl
    rw [hcount, ← Nat.add_assoc, ← Nat.add_assoc]
    simp only [numberDevices]
    constructor
    · intro h
      obtain ⟨id, second, hassign, hsecond, hhead⟩ := (assign_spec device.id next).1 (by omega)
      obtain ⟨slots, third, hslots, hthird, hplain, hmiddle⟩ :=
        (numberSlots_spec second device.slots).1 (by omega)
      obtain ⟨numbered, after, hrun, hrest⟩ := (ih third).1 (by omega)
      refine ⟨⟨id, device, slots⟩ :: numbered, after, ?_, ?_, ?_, ?_⟩
      · simp only [hassign, ok_bind, hslots, hrun]
        rfl
      · rw [List.map_cons, hrest.devices_eq]
      · intro d hd
        rcases List.mem_cons.1 hd with rfl | hd
        · exact hplain
        · exact hrest.slots_eq d hd
      · have hdevice : Filled next.toNat ([(device.id, id)] ++ slotEntries slots) := by
          refine hhead.append ?_
          rw [hsecond] at hmiddle
          exact hmiddle
        refine hdevice.append ?_
        rw [List.map_append, List.count_append, map_fst_slotEntries, hplain, ← Nat.add_assoc]
        have hfilled := hrest.filled
        rw [hthird, hsecond] at hfilled
        exact hfilled
    · intro h
      by_cases hhead : next.toNat + [device.id].count none ≤ lastId.toNat
      · obtain ⟨id, second, hassign, hsecond, -⟩ := (assign_spec device.id next).1 hhead
        rw [hassign, ok_bind]
        by_cases hmiddle : second.toNat +
            ((device.slots.filterMap (·.occupant)).map (·.id)).count none ≤ lastId.toNat
        · obtain ⟨slots, third, hslots, hthird, -, -⟩ :=
            (numberSlots_spec second device.slots).1 hmiddle
          simp only [hslots, ok_bind, (ih third).2 (by omega)]
          rfl
        · simp only [(numberSlots_spec second device.slots).2 (by omega)]
          rfl
      · rw [(assign_spec device.id next).2 (by omega)]
        rfl

/-! ## What numbering keeps and adds -/

section Numbering

variable {first : Nat} {devices : List Split.Device} {numbered : List NumberedDevice}

/-- The occupants of a numbered device are those of the device. -/
lemma Numbering.map_occupants (h : Numbering first devices numbered) {d : NumberedDevice}
    (hd : d ∈ numbered) : d.occupants.map (·.occupant) = occupantsOf d.device := by
  rw [occupantsOf, ← h.slots_eq d hd, NumberedDevice.occupants, plainSlots, List.filterMap_map,
    List.map_filterMap]
  rfl

/-- The own ids among the entries of numbered devices are those of the traversal. -/
lemma Numbering.map_fst_entries (h : Numbering first devices numbered) :
    (deviceEntries numbered).map (·.1) = devices.flatMap ownIds := by
  rw [← h.devices_eq, deviceEntries, List.map_flatMap, List.flatMap_map]
  refine List.flatMap_congr fun d hd => ?_
  rw [List.map_cons, ownIds, ← h.map_occupants hd, slotEntries, List.map_map, List.map_map]
  rfl

/-- A device keeps the id it has. -/
lemma Numbering.device_id (h : Numbering first devices numbered) {d : NumberedDevice}
    (hd : d ∈ numbered) {id : ObjectId} (hid : d.device.id = some id) : d.id = id := by
  refine h.filled.eq_of_mem (List.mem_flatMap.2 ⟨d, hd, ?_⟩)
  rw [← hid]
  exact List.mem_cons_self

/-- The new ids are consecutive. -/
lemma Numbering.newIds_toNat (h : Numbering first devices numbered)
    (hroom : first + missingIds devices ≤ lastId.toNat) :
    (newIds (deviceEntries numbered)).map UInt32.toNat =
      List.range' first (missingIds devices) := by
  have hcount : ((deviceEntries numbered).map (·.1)).count none = missingIds devices := by
    rw [h.map_fst_entries]
    rfl
  rw [h.filled.newIds_toNat (by rw [hcount]; exact hroom), hcount]

/-- No new id is used twice. -/
lemma Numbering.nodup_newIds (h : Numbering first devices numbered)
    (hroom : first + missingIds devices ≤ lastId.toNat) :
    (newIds (deviceEntries numbered)).Nodup := by
  refine List.Nodup.of_map UInt32.toNat ?_
  rw [h.newIds_toNat hroom]
  exact List.nodup_range'

/-- New ids lie above the ids before `first`. -/
lemma Numbering.le_of_mem_newIds (h : Numbering first devices numbered)
    (hroom : first + missingIds devices ≤ lastId.toNat) {id : ObjectId}
    (hid : id ∈ newIds (deviceEntries numbered)) : first ≤ id.toNat := by
  have hmem : id.toNat ∈ (newIds (deviceEntries numbered)).map UInt32.toNat :=
    List.mem_map_of_mem hid
  rw [h.newIds_toNat hroom] at hmem
  exact (List.mem_range'_1.1 hmem).1

end Numbering

end SessionVault.Migration
