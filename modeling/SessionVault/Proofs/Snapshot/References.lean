import SessionVault.Machine
import SessionVault.Proofs.Snapshot.Outcome
/-!
# The references of a migrated snapshot

Objects of the current revision refer to each other by id: holders name objects, housings name
circuits, slots name occupants.  `Sound s v` collects what these references must satisfy when `v`
stands for the first-revision snapshot `s`, and `sound_of_migrate` proves it of every migration that
gives a result.

The proofs look at the objects through `filter_objects`: a property of devices that circuits and
occupants lack selects from the built objects the same as from the devices alone.
-/

namespace SessionVault.Migration

/-! ## What a result is built from -/

/-- A migration that gives a result has paired circuits, enough ids, and distinct ones. -/
lemma migrate_eq_ok {s : Split.Snapshot} {v : Snapshot} (h : migrate s = .ok v) :
    Paired s.devices s.circuits ∧ topId s + 1 + missingIds s.devices ≤ lastId.toNat ∧
      ∃ numbered, Numbering (topId s + 1) s.devices numbered ∧ v = built s numbered ∧
        (v.objects.map (·.id)).Nodup := by
  have hle := topId_le s
  have htop : topId s ≠ lastId.toNat := fun htop => by
    rw [migrate_of_top htop] at h
    cases h
  have hlt : topId s < lastId.toNat := by omega
  have hpaired : Paired s.devices s.circuits := by
    by_contra hnot
    obtain ⟨_, _, _, _, _, _, _, hrun⟩ := migrate_of_not_paired hlt hnot
    rw [hrun] at h
    cases h
  obtain ⟨hfull, hroom⟩ := migrate_of_paired hlt hpaired
  have hgaps : topId s + missingIds s.devices < lastId.toNat := by
    by_contra hnot
    rw [hfull (by omega)] at h
    cases h
  obtain ⟨numbered, hnumbering, hrun⟩ := hroom hgaps
  cases hrepeated : repeatedId? [] (objects s.circuits numbered) with
  | some id =>
    rw [hrun, hrepeated] at h
    cases h
  | none =>
    rw [hrun, hrepeated] at h
    cases h
    exact ⟨hpaired, by omega, numbered, hnumbering, rfl,
      ((repeatedId?_eq_none_iff [] _).1 hrepeated).1⟩

/-- A property that circuits and occupants lack selects from the built objects what it selects from
the devices. -/
lemma filter_objects {p : Object → Bool}
    (hview : ∀ (object : Object) values, p { object with logicValues := values } = p object)
    (hcircuit : ∀ c, p (circuitObject c) = false)
    (hoccupant : ∀ o, p (occupantObject o) = false)
    (circuits : List Split.Circuit) (numbered : List NumberedDevice) :
    (objects circuits numbered).filter p = (numbered.map (deviceObject circuits)).filter p := by
  have hkept : ∀ o ∈ (numbered.flatMap (·.occupants)).foldl keepFields
      (circuits.map circuitObject), p o = false := by
    intro o ho
    have hmem := List.mem_map_of_mem (f := p) ho
    rw [map_foldl_keepFields p hview, List.map_map] at hmem
    obtain ⟨c, -, hc⟩ := List.mem_map.1 hmem
    rw [← hc]
    exact hcircuit c
  rw [objects, List.filter_append, List.filter_eq_nil_iff.2 (fun o ho => by simp [hkept o ho]),
    List.nil_append, List.filter_flatMap, List.map_eq_flatMap, List.filter_flatMap]
  refine List.flatMap_congr fun d _ => ?_
  rw [deviceObjects, List.filter_append, List.filter_eq_nil_iff.2, List.nil_append]
  intro o ho
  obtain ⟨occupant, -, rfl⟩ := List.mem_map.1 ho
  simp [hoccupant occupant]

/-- The objects with slots are the devices. -/
lemma filter_slots_objects (circuits : List Split.Circuit) (numbered : List NumberedDevice) :
    (objects circuits numbered).filter (·.slots.isSome) =
      numbered.map (deviceObject circuits) := by
  rw [filter_objects (fun _ _ => rfl) (fun _ => rfl) (fun _ => rfl), List.filter_eq_self]
  intro o ho
  obtain ⟨d, -, rfl⟩ := List.mem_map.1 ho
  rfl

/-- The device that houses a circuit, found through the pairing. -/
lemma housed?_eq_some_iff {devices : List Split.Device} {circuits : List Split.Circuit}
    (h : Paired devices circuits) {device : Split.Device} {c : Split.Circuit} :
    housed? circuits device = some c ↔ c ∈ circuits ∧ device.id = some c.device := by
  unfold housed?
  cases hid : device.id with
  | none => simp
  | some id =>
    simp only [Option.some.injEq]
    constructor
    · intro hfind
      have hdevice : c.device = id := by simpa using List.find?_some hfind
      exact ⟨List.mem_of_find?_eq_some hfind, hdevice.symm⟩
    · rintro ⟨hc, rfl⟩
      obtain ⟨first, hfind⟩ : ∃ first, circuits.find? (·.device = c.device) = some first := by
        rw [← Option.isSome_iff_exists, List.find?_isSome]
        exact ⟨c, hc, by simp⟩
      have hdevice : first.device = c.device := by simpa using List.find?_some hfind
      rw [hfind, List.inj_on_of_nodup_map h.2 (List.mem_of_find?_eq_some hfind) hc hdevice]

/-! ## Soundness -/

/-- The ids of an object and of what its slots hold, in traversal order. -/
def heldIds (object : Object) : List ObjectId :=
  object.id :: (object.slots.getD []).filterMap (·.occupant)

/-- The id slots of a first-revision snapshot beside the ids of the objects with slots, both in
traversal order. -/
def traversal (s : Split.Snapshot) (v : Snapshot) : List (Option ObjectId × ObjectId) :=
  (s.devices.flatMap ownIds).zip ((v.objects.filter (·.slots.isSome)).flatMap heldIds)

/-- The references of `v` are sound, and they are those of `s`. -/
structure Sound (s : Split.Snapshot) (v : Snapshot) : Prop where
  /-- No two objects share an id. -/
  distinct : (v.objects.map (·.id)).Nodup
  programHolders_eq : v.programHolders = s.circuits.map (·.id)
  /-- Every program holder names an object with a circuit and the program's text. -/
  program : ∀ c ∈ s.circuits, ∃ o ∈ v.objects,
    o.id = c.id ∧ o.circuit.isSome ∧ o.sourceCode = some c.code
  /-- Exactly one object houses a circuit, and it is the device that the circuit names. -/
  housing : ∀ c ∈ s.circuits,
    (v.objects.filter (·.socketedCircuit = some c.id)).map (·.id) = [c.device]
  /-- The circuit holders are the objects that house a circuit. -/
  circuitHolders_eq : v.circuitHolders = (v.objects.filter (·.socketedCircuit.isSome)).map (·.id)
  circuitHolders_nodup : v.circuitHolders.Nodup
  /-- There is one circuit holder for each circuit. -/
  circuitHolders_perm : v.circuitHolders.Perm (s.circuits.map (·.device))
  /-- What a slot holds is there. -/
  occupant : ∀ o ∈ v.objects, ∀ slots, o.slots = some slots → ∀ slot ∈ slots, ∀ id,
    slot.occupant = some id → v.contains id
  /-- Objects with slots correspond to devices, slot by slot. -/
  aligned : (v.objects.filter (·.slots.isSome)).map
      (fun o => (o.slots.getD []).map fun slot => (slot.typ, slot.occupant.isSome)) =
    s.devices.map fun d => d.slots.map fun slot => (slot.typ, slot.occupant.isSome)
  /-- Ids that are given are kept. -/
  kept : ∀ own id, (some own, id) ∈ traversal s v → id = own
  /-- The others follow the largest id one by one. -/
  numbered : (newIds (traversal s v)).map UInt32.toNat =
    List.range' (topId s + 1) (missingIds s.devices)

/-- A snapshot contains the ids of its objects. -/
lemma contains_iff {v : Snapshot} {id : ObjectId} :
    v.contains id ↔ id ∈ v.objects.map (·.id) := by
  rw [Snapshot.contains, Snapshot.object?, List.find?_isSome]
  simp

/-- A list without repetitions whose only element is `a`. -/
lemma eq_singleton_of_nodup {a : ObjectId} {ids : List ObjectId} (hnodup : ids.Nodup)
    (hmem : a ∈ ids) (hall : ∀ id ∈ ids, id = a) : ids = [a] := by
  rw [← List.perm_singleton, List.perm_ext_iff_of_nodup hnodup (List.nodup_singleton a)]
  intro id
  rw [List.mem_singleton]
  exact ⟨hall id, fun h => h ▸ hmem⟩

section Built

variable {s : Split.Snapshot} {first : Nat} {numbered : List NumberedDevice}

/-- The objects of circuits carry circuits and programs. -/
lemma exists_circuitObject {c : Split.Circuit} (hc : c ∈ s.circuits) :
    ∃ o ∈ objects s.circuits numbered,
      o.id = c.id ∧ o.circuit.isSome ∧ o.sourceCode = some c.code := by
  have hmem := List.mem_map_of_mem
    (f := fun o : Object => (o.id, o.circuit.isSome, o.sourceCode))
    (List.mem_map_of_mem (f := circuitObject) hc)
  rw [← map_foldl_keepFields _ (fun _ _ => rfl) (numbered.flatMap (·.occupants))] at hmem
  obtain ⟨o, ho, hview⟩ := List.mem_map.1 hmem
  simp only [Prod.mk.injEq] at hview
  exact ⟨o, List.mem_append_left _ ho, hview.1, hview.2.1, hview.2.2⟩

/-- Some numbered device has the id that a paired circuit names. -/
lemma exists_housing (hpaired : Paired s.devices s.circuits)
    (h : Numbering first s.devices numbered) {c : Split.Circuit} (hc : c ∈ s.circuits) :
    ∃ d ∈ numbered, d.id = c.device ∧ housed? s.circuits d.device = some c := by
  obtain ⟨device, hdevice, hid⟩ := List.mem_map.1 (hpaired.1 c hc)
  rw [← h.devices_eq] at hdevice
  obtain ⟨d, hd, rfl⟩ := List.mem_map.1 hdevice
  exact ⟨d, hd, h.device_id hd hid, (housed?_eq_some_iff hpaired).2 ⟨hc, hid⟩⟩

/-- A numbered device that houses a circuit has the id that the circuit names. -/
lemma id_eq_of_housed (hpaired : Paired s.devices s.circuits)
    (h : Numbering first s.devices numbered) {d : NumberedDevice} (hd : d ∈ numbered)
    {c : Split.Circuit} (hhoused : housed? s.circuits d.device = some c) : d.id = c.device :=
  h.device_id hd ((housed?_eq_some_iff hpaired).1 hhoused).2

/-- The circuit holders of a built snapshot are the objects that house a circuit. -/
lemma circuitHolders_built (s : Split.Snapshot) (numbered : List NumberedDevice) :
    (built s numbered).circuitHolders =
      ((built s numbered).objects.filter (·.socketedCircuit.isSome)).map (·.id) := by
  change numbered.filterMap _ = ((objects s.circuits numbered).filter _).map _
  rw [filter_objects (fun _ _ => rfl) (fun _ => rfl) (fun _ => rfl)]
  induction numbered with
  | nil => rfl
  | cons d rest ih =>
    rw [List.map_cons]
    cases hhoused : housed? s.circuits d.device with
    | none =>
      rw [List.filterMap_cons_none (by rw [hhoused]; rfl), ih,
        List.filter_cons_of_neg (by simp [deviceObject, hhoused])]
    | some c =>
      rw [List.filterMap_cons_some (by rw [hhoused]; rfl), ih,
        List.filter_cons_of_pos (by simp [deviceObject, hhoused])]
      rfl

/-- What a numbered device's slots hold is among the built objects. -/
lemma mem_objects_of_occupant {d : NumberedDevice} (hd : d ∈ numbered) {o : NumberedOccupant}
    (ho : o ∈ d.occupants) : o.id ∈ (objects s.circuits numbered).map (·.id) := by
  rw [map_id_objects, List.mem_append]
  by_cases hcircuit : o.id ∈ s.circuits.map (·.id)
  · exact .inl hcircuit
  · refine .inr (List.mem_flatMap.2 ⟨d, hd, List.mem_append_left _ ?_⟩)
    refine List.mem_filter.2 ⟨?_, by simpa using hcircuit⟩
    rw [slotEntries, List.map_map]
    exact List.mem_map.2 ⟨o, ho, rfl⟩

/-- The traversal of a built snapshot is that of the numbered devices. -/
lemma traversal_built (h : Numbering first s.devices numbered) :
    traversal s (built s numbered) = deviceEntries numbered := by
  have hheld : ((built s numbered).objects.filter (·.slots.isSome)).flatMap heldIds =
      (deviceEntries numbered).map (·.2) := by
    rw [built, filter_slots_objects, List.flatMap_map, deviceEntries, List.map_flatMap]
    refine List.flatMap_congr fun d _ => ?_
    rw [List.map_cons, slotEntries, List.map_map, List.map_filterMap, heldIds, deviceObject,
      Option.getD_some, List.filterMap_map]
    rfl
  rw [traversal, hheld, ← h.map_fst_entries, List.zip_map']
  exact List.map_id _

end Built

section Sound

variable {s : Split.Snapshot} {first : Nat} {numbered : List NumberedDevice}

/-- The circuits of a snapshot whose built objects have distinct ids have distinct ids. -/
lemma nodup_circuitIds (hnodup : ((objects s.circuits numbered).map (·.id)).Nodup) :
    (s.circuits.map (·.id)).Nodup := by
  rw [map_id_objects] at hnodup
  exact (List.nodup_append.1 hnodup).1

/-- Exactly one built object houses a circuit. -/
lemma housing_built (hpaired : Paired s.devices s.circuits)
    (h : Numbering first s.devices numbered)
    (hnodup : ((objects s.circuits numbered).map (·.id)).Nodup)
    {c : Split.Circuit} (hc : c ∈ s.circuits) :
    ((objects s.circuits numbered).filter (·.socketedCircuit = some c.id)).map (·.id) =
      [c.device] := by
  have hsub : ((objects s.circuits numbered).filter (·.socketedCircuit = some c.id)).map
      (·.id) |>.Nodup := hnodup.sublist (List.filter_sublist.map _)
  rw [filter_objects (fun _ _ => rfl) (fun _ => rfl) (fun _ => rfl)] at hsub ⊢
  refine eq_singleton_of_nodup hsub ?_ ?_
  · obtain ⟨d, hd, hid, hhoused⟩ := exists_housing hpaired h hc
    refine List.mem_map.2 ⟨deviceObject s.circuits d, List.mem_filter.2 ⟨?_, ?_⟩, hid⟩
    · exact List.mem_map_of_mem hd
    · simp [deviceObject, hhoused]
  · intro id hid
    obtain ⟨o, ho, rfl⟩ := List.mem_map.1 hid
    obtain ⟨hmem, hsocket⟩ := List.mem_filter.1 ho
    obtain ⟨d, hd, rfl⟩ := List.mem_map.1 hmem
    obtain ⟨c', hhoused, hid'⟩ : ∃ c', housed? s.circuits d.device = some c' ∧ c'.id = c.id := by
      simpa [deviceObject] using hsocket
    -- Circuits with the same id are the same, so the device is the one that `c` names.
    have heq : c' = c := List.inj_on_of_nodup_map (nodup_circuitIds hnodup)
      ((housed?_eq_some_iff hpaired).1 hhoused).1 hc hid'
    rw [← heq]
    exact id_eq_of_housed hpaired h hd hhoused

/-- The circuit holders are the devices that circuits name, up to order. -/
lemma circuitHolders_perm (hpaired : Paired s.devices s.circuits)
    (h : Numbering first s.devices numbered) (hnodup : (built s numbered).circuitHolders.Nodup) :
    (built s numbered).circuitHolders.Perm (s.circuits.map (·.device)) := by
  rw [List.perm_ext_iff_of_nodup hnodup hpaired.2]
  intro id
  change id ∈ numbered.filterMap _ ↔ _
  rw [List.mem_filterMap, List.mem_map]
  constructor
  · rintro ⟨d, hd, hmap⟩
    obtain ⟨c, hhoused, hid⟩ := Option.map_eq_some_iff.1 hmap
    exact ⟨c, ((housed?_eq_some_iff hpaired).1 hhoused).1,
      (id_eq_of_housed hpaired h hd hhoused).symm.trans hid⟩
  · rintro ⟨c, hc, rfl⟩
    obtain ⟨d, hd, hid, hhoused⟩ := exists_housing hpaired h hc
    exact ⟨d, hd, by rw [hhoused, Option.map_some, hid]⟩

/-- What the slots of a built object hold is there. -/
lemma contains_occupant {o : Object} (ho : o ∈ (built s numbered).objects) {slots : List Slot}
    (hslots : o.slots = some slots) {slot : Slot} (hslot : slot ∈ slots) {id : ObjectId}
    (hid : slot.occupant = some id) : (built s numbered).contains id := by
  have hmem : o ∈ (objects s.circuits numbered).filter (·.slots.isSome) :=
    List.mem_filter.2 ⟨ho, by rw [hslots]; rfl⟩
  rw [filter_slots_objects] at hmem
  obtain ⟨d, hd, rfl⟩ := List.mem_map.1 hmem
  simp only [deviceObject, Option.some.injEq] at hslots
  subst hslots
  obtain ⟨numberedSlot, hnumbered, rfl⟩ := List.mem_map.1 hslot
  obtain ⟨occupant, hoccupant, rfl⟩ := Option.map_eq_some_iff.1 hid
  refine contains_iff.2 (mem_objects_of_occupant hd ?_)
  exact List.mem_filterMap.2 ⟨numberedSlot, hnumbered, hoccupant⟩

/-- The objects with slots have the slots of the devices. -/
lemma aligned_built (h : Numbering first s.devices numbered) :
    ((built s numbered).objects.filter (·.slots.isSome)).map
        (fun o => (o.slots.getD []).map fun slot => (slot.typ, slot.occupant.isSome)) =
      s.devices.map fun d => d.slots.map fun slot => (slot.typ, slot.occupant.isSome) := by
  rw [built, filter_slots_objects, ← h.devices_eq, List.map_map, List.map_map]
  refine List.map_congr_left fun d hd => ?_
  simp only [Function.comp_apply, deviceObject, Option.getD_some, ← h.slots_eq d hd, plainSlots,
    List.map_map]
  refine List.map_congr_left fun slot _ => ?_
  simp

/-- The references of a snapshot built from paired circuits and distinct ids are sound. -/
lemma sound_built (hpaired : Paired s.devices s.circuits)
    (hroom : topId s + 1 + missingIds s.devices ≤ lastId.toNat)
    (h : Numbering (topId s + 1) s.devices numbered)
    (hnodup : ((built s numbered).objects.map (·.id)).Nodup) : Sound s (built s numbered) := by
  have hholders : (built s numbered).circuitHolders.Nodup := by
    rw [circuitHolders_built]
    exact hnodup.sublist (List.filter_sublist.map _)
  exact
    { distinct := hnodup
      programHolders_eq := rfl
      program := fun _ => exists_circuitObject
      housing := fun _ => housing_built hpaired h hnodup
      circuitHolders_eq := circuitHolders_built s numbered
      circuitHolders_nodup := hholders
      circuitHolders_perm := circuitHolders_perm hpaired h hholders
      occupant := fun _ ho _ hslots _ hslot _ => contains_occupant ho hslots hslot
      aligned := aligned_built h
      kept := by
        rw [traversal_built h]
        exact fun _ _ => h.filled.eq_of_mem
      numbered := by
        rw [traversal_built h]
        exact h.newIds_toNat hroom }

end Sound

/-- A machine takes a snapshot whose references are sound, unless it refuses all. -/
lemma restore_of_sound {s : Split.Snapshot} {v : Snapshot} (h : Sound s v) (m : Machine)
    (hwilling : m.refusals.restore = none) : m.restore v = .ok { m with snapshot := v } := by
  have hcontains : ∀ id ∈ v.circuitHolders ++ v.programHolders, v.contains id := by
    intro id hid
    rcases List.mem_append.1 hid with hid | hid
    · rw [h.circuitHolders_eq] at hid
      obtain ⟨o, ho, rfl⟩ := List.mem_map.1 hid
      exact contains_iff.2 (List.mem_map_of_mem (List.mem_filter.1 ho).1)
    · rw [h.programHolders_eq] at hid
      obtain ⟨c, hc, rfl⟩ := List.mem_map.1 hid
      obtain ⟨o, ho, hid, -⟩ := h.program c hc
      exact contains_iff.2 (List.mem_map.2 ⟨o, ho, hid⟩)
  have hdangling : Machine.danglingHolder? v = none := by
    rw [Machine.danglingHolder?, List.find?_eq_none]
    intro id hid
    simp [hcontains id hid]
  rw [Machine.restore, hwilling, hdangling]
  rfl

/-- The references of every migrated snapshot are sound, and a machine takes it. -/
theorem sound_of_migrate {s : Split.Snapshot} {v : Snapshot} (h : migrate s = .ok v) :
    Sound s v ∧ ∀ m : Machine, m.refusals.restore = none →
      m.restore v = .ok { m with snapshot := v } := by
  obtain ⟨hpaired, hroom, numbered, hnumbering, rfl, hnodup⟩ := migrate_eq_ok h
  have hsound := sound_built hpaired hroom hnumbering hnodup
  exact ⟨hsound, fun m => restore_of_sound hsound m⟩

/-- A housing that holds its circuit and a device without an id that holds something without one:
the two receive the ids after the largest. -/
def pairedExample : Split.Snapshot where
  circuits := [{ device := 7, id := 9, registers := [], ip := 0, ic := 0, stack := [] }]
  devices :=
    [{ id := none, name := none, prefab := none, slots := [⟨"Battery", some { id := none }⟩] },
      { id := some 7, name := none, prefab := none,
        slots := [⟨"Circuit", some { id := some 9 }⟩] }]
  defaultNetwork := 0

theorem sound_pairedExample : ∃ v, migrate pairedExample = .ok v ∧ Sound pairedExample v ∧
    ∀ m : Machine, m.refusals.restore = none → m.restore v = .ok { m with snapshot := v } :=
  ⟨_, rfl, sound_of_migrate rfl⟩

end SessionVault.Migration
