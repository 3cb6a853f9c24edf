import SessionVault.Proofs.Snapshot.References
import SessionVault.Proofs.Table
/-!
# What a migration carries over

`Preserved s v` says that the snapshot `v` of the current revision holds what the first-revision
snapshot `s` holds, object by object and field by field: the circuits with their programs and
state, the devices with their connections and slots, what sits in the slots, the pins, and the
networks.  `preserved_of_migrate` proves it of every migration that gives a result.

Two steps of the migration need an argument.  The fields of occupants that are circuits are left
with the circuits one after another, so that the last one with any fields stays
(`foldl_keepFields`).  And whether an occupant is a circuit is decided by its final id, which is
the same as deciding it by its own: a new id is never that of a circuit
(`mem_circuitIds_iff`).
-/

namespace SessionVault.Migration

/-! ## Statement -/

/-- A table of logic values has one value for each field, the field's. -/
def CarriesFields (fields : Table String Split.LogicField)
    (values : Option (Table String Binary64)) : Prop :=
  ∃ table, values = some table ∧ ∀ name, table.get? name = (fields.get? name).map (·.value)

/-- The occupants of all slots, in traversal order. -/
def allOccupants (s : Split.Snapshot) : List Split.Occupant := s.devices.flatMap occupantsOf

/-- The occupants that name a circuit and have fields. -/
def occupantsNaming (s : Split.Snapshot) (id : ObjectId) : List Split.Occupant :=
  (allOccupants s).filter fun o => o.id = some id ∧ ¬ o.fields.isEmpty

/-- An occupant is a circuit of the snapshot. -/
def IsCircuit (s : Split.Snapshot) (own : Option ObjectId) : Prop :=
  ∃ c ∈ s.circuits, own = some c.id

instance (s : Split.Snapshot) (own : Option ObjectId) : Decidable (IsCircuit s own) :=
  inferInstanceAs (Decidable (∃ c ∈ s.circuits, own = some c.id))

/-- The state of a circuit is carried over; of several aliases or defines of one name the last
counts. -/
structure StateKept (c : Split.Circuit) (k : Circuit) : Prop where
  instructionPointer : k.instructionPointer = c.ip
  yieldCount : k.yieldCount = c.ic
  state : k.state = c.state
  registers : k.registers = c.registers
  memory : k.memory = c.stack
  aliases : ∀ name, k.aliases.get? name = Assoc.last? name c.aliases
  defines : ∀ name, k.defines.get? name = Assoc.last? name c.defines

/-- A circuit is carried over as an object.  Its logic values are those of the last occupant that
names it and has fields. -/
structure CircuitKept (s : Split.Snapshot) (c : Split.Circuit) (o : Object) : Prop where
  code : o.sourceCode = some c.code
  state : ∃ k, o.circuit = some k ∧ StateKept c k
  values : ∀ occupant, (occupantsNaming s c.id).getLast? = some occupant →
    CarriesFields occupant.fields o.logicValues
  noValues : occupantsNaming s c.id = [] → o.logicValues = none

/-- A connection is carried over. -/
inductive ConnectionKept : Split.Connection → Connection → Prop
  | cable (network : Option ObjectId) (role : CableRole) :
      ConnectionKept (.cable network role) { role := some role, network }
  | other : ConnectionKept .other { role := none, network := none }

/-- A slot is carried over, and what sits in it, unless a circuit, has an object with its logic
values and nothing else. -/
structure SlotKept (s : Split.Snapshot) (v : Snapshot) (before : Split.Slot) (after : Slot) :
    Prop where
  typ : after.typ = before.typ
  empty : after.occupant = none ↔ before.occupant = none
  own : ∀ occupant id, before.occupant = some occupant → occupant.id = some id →
    after.occupant = some id
  loose : ∀ occupant, before.occupant = some occupant → ¬ IsCircuit s occupant.id →
    ∃ id values, after.occupant = some id ∧ v.object? id = some { id, logicValues := values } ∧
      CarriesFields occupant.fields values

/-- A device is carried over as an object. -/
structure DeviceKept (s : Split.Snapshot) (v : Snapshot) (d : Split.Device) (o : Object) :
    Prop where
  id : ∀ id, d.id = some id → o.id = id
  name : o.name = d.name
  prefab : o.prefab = d.prefab
  values : CarriesFields d.fields o.logicValues
  connections : ∃ connections, o.connections = some connections ∧
    List.Forall₂ ConnectionKept d.connections connections
  slots : ∃ slots, o.slots = some slots ∧ List.Forall₂ (SlotKept s v) d.slots slots

/-- The last pin whose position has the 32-bit number `i` and that is wired, is wired to `p`. -/
def WiredLast (pins : List (Option ObjectId)) (i : UInt32) (p : ObjectId) : Prop :=
  ∃ n : Nat, n.toUInt32 = i ∧ pins[n]? = some (some p) ∧
    ∀ m q, n < m → m.toUInt32 = i → pins[m]? ≠ some (some q)

/-- Pins are carried over by position.  Positions are 32-bit numbers; only beyond these could two
pins share one. -/
structure PinsKept (pins : List (Option ObjectId)) (table : Table UInt32 ObjectId) : Prop where
  wired : pins.length ≤ 2 ^ 32 →
    ∀ i p, table.get? i = some p ↔ pins[i.toNat]? = some (some p)
  last : ∀ i p, table.get? i = some p ↔ WiredLast pins i p

/-- What a first-revision snapshot holds, `v` holds too, and nothing else. -/
structure Preserved (s : Split.Snapshot) (v : Snapshot) : Prop where
  /-- There is one object for each circuit, each device, and each occupant that is no circuit. -/
  size : v.objects.length = s.circuits.length + s.devices.length +
    ((allOccupants s).filter fun o => ¬ IsCircuit s o.id).length
  circuits : ∀ c ∈ s.circuits, ∃ o, v.object? c.id = some o ∧ CircuitKept s c o
  /-- The objects with slots are the devices, in order. -/
  devices : List.Forall₂ (DeviceKept s v) s.devices (v.objects.filter (·.slots.isSome))
  /-- A housing has the pins of its circuit. -/
  pins : ∀ c ∈ s.circuits, ∃ o table, v.object? c.device = some o ∧
    o.devicePins = some table ∧ PinsKept c.pins table
  /-- Nothing else has pins. -/
  noPins : ∀ o ∈ v.objects, o.id ∉ s.circuits.map (·.device) → o.devicePins = none
  networks : v.networks.map (fun n => (n.id, n.devices, n.powerOnly, n.channels)) =
    s.networks.map fun n => (n.id, n.devices, n.powerOnly, n.channels)
  defaultNetwork : v.defaultNetwork = s.defaultNetwork

/-! ## Values, connections and pins -/

/-- The values of fields are carried. -/
lemma carriesFields_logicValues (fields : Table String Split.LogicField) :
    CarriesFields fields (some (logicValues fields)) := by
  refine ⟨logicValues fields, rfl, fun name => ?_⟩
  exact Assoc.get?_map

/-- Retyping carries a connection over. -/
lemma connectionKept_connection (c : Split.Connection) : ConnectionKept c (connection c) := by
  cases c with
  | cable network role => exact .cable network role
  | other => exact .other

/-- One more pin at the end: it is the last with its number if it is wired, and otherwise changes
nothing. -/
lemma wiredLast_append_singleton {pins : List (Option ObjectId)} {pin : Option ObjectId}
    {i : UInt32} {p : ObjectId} :
    WiredLast (pins ++ [pin]) i p ↔
      if pins.length.toUInt32 = i ∧ pin.isSome then pin = some p else WiredLast pins i p := by
  have hold : ∀ n q, (pins ++ [pin])[n]? = some (some q) ↔
      pins[n]? = some (some q) ∨ (n = pins.length ∧ pin = some q) := by
    intro n q
    rcases lt_trichotomy n pins.length with hn | rfl | hn
    · rw [List.getElem?_append_left hn]
      simp [hn.ne]
    · rw [List.getElem?_concat_length, List.getElem?_eq_none le_rfl]
      simp
    · rw [List.getElem?_eq_none (by rw [List.length_append]; exact hn), List.getElem?_eq_none hn.le]
      simp [hn.ne']
  have hlt : ∀ {n q}, pins[n]? = some (some q) → n < pins.length := by
    intro n q h
    exact (List.getElem?_eq_some_iff.1 h).1
  unfold WiredLast
  simp only [ne_eq, hold]
  split
  · next hlast =>
    obtain ⟨hnumber, hsome⟩ := hlast
    obtain ⟨q, rfl⟩ := Option.isSome_iff_exists.1 hsome
    constructor
    · rintro ⟨n, hn, hpin | ⟨-, hpin⟩, hafter⟩
      · exact absurd (.inr ⟨rfl, rfl⟩) (hafter pins.length q (hlt hpin) hnumber)
      · exact hpin
    · intro hpin
      refine ⟨pins.length, hnumber, .inr ⟨rfl, hpin⟩, ?_⟩
      rintro m r hm - (hr | ⟨rfl, -⟩)
      · exact absurd (hlt hr) (by omega)
      · omega
  · next hlast =>
    have hnew : ∀ {n q}, n.toUInt32 = i → n = pins.length → pin = some q → False := by
      rintro n q hn rfl rfl
      exact hlast ⟨hn, rfl⟩
    constructor
    · rintro ⟨n, hn, hpin | ⟨hlength, hpin⟩, hafter⟩
      · exact ⟨n, hn, hpin, fun m q hm hmi hq => hafter m q hm hmi (.inl hq)⟩
      · exact (hnew hn hlength hpin).elim
    · rintro ⟨n, hn, hpin, hafter⟩
      refine ⟨n, hn, .inl hpin, ?_⟩
      rintro m q hm hmi (hq | ⟨hlength, hq⟩)
      · exact hafter m q hm hmi hq
      · exact hnew hmi hlength hq

/-- The table of pins has for each number the last pin that is wired. -/
lemma get?_pinTable {pins : List (Option ObjectId)} {i : UInt32} {p : ObjectId} :
    (pinTable pins).get? i = some p ↔ WiredLast pins i p := by
  change Assoc.get? i (Assoc.ofList _) = some p ↔ _
  rw [Assoc.get?_ofList]
  induction pins using List.reverseRecOn with
  | nil => simp [Assoc.last?, WiredLast]
  | append_singleton pins pin ih =>
    rw [wiredLast_append_singleton, List.zipIdx_append, List.filterMap_append, Assoc.last?,
      List.filter_append]
    cases pin with
    | none =>
      rw [if_neg (by simp), ← ih]
      simp [Assoc.last?]
    | some q =>
      by_cases hnumber : pins.length.toUInt32 = i
      · rw [if_pos ⟨hnumber, rfl⟩]
        simp [hnumber]
      · rw [if_neg (by simp [hnumber]), ← ih]
        simp [Assoc.last?, hnumber]

/-- Where the positions are 32-bit numbers, the last pin with a number is the only one. -/
lemma wiredLast_iff_of_length_le {pins : List (Option ObjectId)} (h : pins.length ≤ 2 ^ 32)
    {i : UInt32} {p : ObjectId} : WiredLast pins i p ↔ pins[i.toNat]? = some (some p) := by
  have hposition : ∀ {n q}, pins[n]? = some (some q) → n.toUInt32 = i → n = i.toNat := by
    rintro n q hn rfl
    have hlt := (List.getElem?_eq_some_iff.1 hn).1
    exact (UInt32.toNat_ofNat_of_lt' (by
      have hsize : UInt32.size = 2 ^ 32 := rfl
      omega)).symm
  constructor
  · rintro ⟨n, hn, hpin, -⟩
    rwa [← hposition hpin hn]
  · intro hpin
    refine ⟨i.toNat, UInt32.ofNat_toNat, hpin, ?_⟩
    intro m q hm hmi hq
    exact absurd (hposition hq hmi) hm.ne'

/-- The table of pins carries the pins over. -/
lemma pinsKept_pinTable (pins : List (Option ObjectId)) : PinsKept pins (pinTable pins) where
  wired h _ _ := get?_pinTable.trans (wiredLast_iff_of_length_le h)
  last _ _ := get?_pinTable

/-! ## Circuits among occupants -/

section Built

variable {s : Split.Snapshot} {numbered : List NumberedDevice}

/-- The final id of a device or an occupant is that of a circuit only if its own is. -/
lemma mem_circuitIds_iff (h : Numbering (topId s + 1) s.devices numbered)
    (hroom : topId s + 1 + missingIds s.devices ≤ lastId.toNat) {own : Option ObjectId}
    {id : ObjectId} (hentry : (own, id) ∈ deviceEntries numbered) {c : Split.Circuit}
    (hc : c ∈ s.circuits) : id = c.id ↔ own = some c.id := by
  cases own with
  | some own =>
    rw [h.filled.eq_of_mem hentry, Option.some.injEq]
  | none =>
    have hnew : id ∈ newIds (deviceEntries numbered) :=
      List.mem_map.2 ⟨(none, id), List.mem_filter.2 ⟨hentry, rfl⟩, rfl⟩
    have hexplicit : c.id ∈ explicitIds s :=
      List.mem_append_left _ (List.mem_append_left _ (List.mem_map_of_mem hc))
    simp only [reduceCtorEq, iff_false]
    rintro rfl
    exact not_mem_explicitIds h hroom hnew hexplicit

/-- The entry of an occupant. -/
lemma mem_deviceEntries_of_occupant {d : NumberedDevice} (hd : d ∈ numbered)
    {o : NumberedOccupant} (ho : o ∈ d.occupants) :
    (o.occupant.id, o.id) ∈ deviceEntries numbered := by
  refine List.mem_flatMap.2 ⟨d, hd, List.mem_cons_of_mem _ ?_⟩
  exact List.mem_map.2 ⟨o, ho, rfl⟩

/-- The numbered occupants are the occupants. -/
lemma map_allOccupants (h : Numbering (topId s + 1) s.devices numbered) :
    (numbered.flatMap (·.occupants)).map (·.occupant) = allOccupants s := by
  rw [allOccupants, ← h.devices_eq, List.flatMap_map, List.map_flatMap]
  exact List.flatMap_congr fun d hd => h.map_occupants hd

/-- Selecting occupants by final ids is selecting them by their own, for a property that the two
share. -/
lemma filter_allOccupants (h : Numbering (topId s + 1) s.devices numbered)
    {p : NumberedOccupant → Bool} {q : Split.Occupant → Bool}
    (hpq : ∀ d ∈ numbered, ∀ o ∈ d.occupants, p o = q o.occupant) :
    ((numbered.flatMap (·.occupants)).filter p).map (·.occupant) = (allOccupants s).filter q := by
  rw [← map_allOccupants h, List.filter_map]
  refine congrArg _ (List.filter_congr fun o ho => ?_)
  obtain ⟨d, hd, ho⟩ := List.mem_flatMap.1 ho
  exact hpq d hd o ho

/-- One object for each circuit, each device and each occupant that is no circuit. -/
lemma length_objects (h : Numbering (topId s + 1) s.devices numbered)
    (hroom : topId s + 1 + missingIds s.devices ≤ lastId.toNat) :
    (objects s.circuits numbered).length = s.circuits.length + s.devices.length +
      ((allOccupants s).filter fun o => ¬ IsCircuit s o.id).length := by
  have hloose := filter_allOccupants h
    (p := fun o => decide (o.id ∉ s.circuits.map (·.id)))
    (q := fun o => decide (¬ IsCircuit s o.id)) (by
      intro d hd o ho
      have hentry := mem_deviceEntries_of_occupant hd ho
      rw [decide_eq_decide, not_iff_not, List.mem_map]
      constructor
      · rintro ⟨c, hc, hid⟩
        exact ⟨c, hc, (mem_circuitIds_iff h hroom hentry hc).1 hid.symm⟩
      · rintro ⟨c, hc, hown⟩
        exact ⟨c, hc, ((mem_circuitIds_iff h hroom hentry hc).2 hown).symm⟩)
  have hcount : (((occupantEntries numbered).map (·.2)).filter
      (· ∉ s.circuits.map (·.id))).length =
        ((allOccupants s).filter fun o => ¬ IsCircuit s o.id).length := by
    rw [← hloose, List.length_map, occupantEntries, List.map_flatMap]
    have hids : (numbered.flatMap fun d => (slotEntries d.slots).map (·.2)) =
        (numbered.flatMap (·.occupants)).map (·.id) := by
      rw [List.map_flatMap]
      refine List.flatMap_congr fun d _ => ?_
      rw [slotEntries, List.map_map]
      rfl
    rw [hids, List.filter_map, List.length_map]
    rfl
  have hdevices : (headEntries numbered).length = s.devices.length := by
    rw [headEntries, List.length_map, ← h.devices_eq, List.length_map]
  have hlength := congrArg List.length (map_id_objects s.circuits numbered)
  have hperm := (perm_looseIds s.circuits numbered).length_eq
  simp only [List.length_map, List.length_append] at hlength hperm hcount
  omega

/-! ## Circuits -/

/-- The logic values that occupants leave with a circuit: those of the last one that has its id and
any fields. -/
def leftValues (occupants : List NumberedOccupant) (id : ObjectId) :
    Option (Table String Binary64) :=
  (occupants.filter fun o => o.id = id ∧ ¬ o.occupant.fields.isEmpty).getLast?.map
    fun o => logicValues o.occupant.fields

/-- Where ids are told apart, changing the first circuit with an id changes the circuit with that
id. -/
lemma updateFirst_map {f : Split.Circuit → Object} (hf : ∀ c, (f c).id = c.id)
    {change : Object → Object} {id : ObjectId} {circuits : List Split.Circuit}
    (hnodup : (circuits.map (·.id)).Nodup) :
    Snapshot.updateFirst id change (circuits.map f) =
      circuits.map fun c => if c.id = id then change (f c) else f c := by
  induction circuits with
  | nil => rfl
  | cons c rest ih =>
    rw [List.map_cons, List.nodup_cons] at hnodup
    rw [List.map_cons, Snapshot.updateFirst, hf, List.map_cons]
    by_cases hid : c.id = id
    · rw [if_pos hid, if_pos hid]
      congr 1
      refine List.map_congr_left fun other hother => ?_
      have hne : other.id ≠ id := by
        rintro rfl
        exact hnodup.1 (hid ▸ List.mem_map_of_mem hother)
      rw [if_neg hne]
    · rw [if_neg hid, if_neg hid, ih hnodup.2]

/-- Leaving the fields of occupants with the circuits one after another keeps the last for each
circuit. -/
lemma foldl_keepFields (hnodup : (s.circuits.map (·.id)).Nodup)
    (occupants : List NumberedOccupant) :
    occupants.foldl keepFields (s.circuits.map circuitObject) =
      s.circuits.map fun c =>
        { circuitObject c with logicValues := leftValues occupants c.id } := by
  induction occupants using List.reverseRecOn with
  | nil => rfl
  | append_singleton occupants o ih =>
    rw [List.foldl_append, List.foldl_cons, List.foldl_nil, ih, keepFields]
    by_cases hempty : o.occupant.fields.isEmpty = true
    · rw [if_pos hempty]
      refine List.map_congr_left fun c _ => ?_
      simp [leftValues, hempty]
    · rw [if_neg hempty, updateFirst_map (fun _ => rfl) hnodup]
      refine List.map_congr_left fun c _ => ?_
      by_cases hid : c.id = o.id
      · rw [if_pos hid]
        simp [leftValues, hempty, hid]
      · rw [if_neg hid]
        simp [leftValues, hempty, Ne.symm hid]

/-- An object that is there is found by its id. -/
lemma object?_of_mem {v : Snapshot} (hnodup : (v.objects.map (·.id)).Nodup) {o : Object}
    (ho : o ∈ v.objects) : v.object? o.id = some o := by
  obtain ⟨found, hfound⟩ := Option.isSome_iff_exists.1
    (contains_iff.2 (List.mem_map_of_mem (f := (·.id)) ho))
  have hid : found.id = o.id := by
    simpa using List.find?_some hfound
  rw [hfound, List.inj_on_of_nodup_map hnodup (List.mem_of_find?_eq_some hfound) ho hid]

/-- What occupants leave with a circuit is what the occupants that name it have. -/
lemma leftValues_eq (h : Numbering (topId s + 1) s.devices numbered)
    (hroom : topId s + 1 + missingIds s.devices ≤ lastId.toNat) {c : Split.Circuit}
    (hc : c ∈ s.circuits) :
    leftValues (numbered.flatMap (·.occupants)) c.id =
      (occupantsNaming s c.id).getLast?.map fun o => logicValues o.fields := by
  have hnaming := filter_allOccupants h
    (p := fun o => decide (o.id = c.id ∧ ¬ o.occupant.fields.isEmpty))
    (q := fun o => decide (o.id = some c.id ∧ ¬ o.fields.isEmpty)) (by
      intro d hd o ho
      rw [decide_eq_decide, mem_circuitIds_iff h hroom (mem_deviceEntries_of_occupant hd ho) hc])
  rw [leftValues, occupantsNaming, ← hnaming, List.getLast?_map, Option.map_map]
  rfl

/-- The object of a circuit carries it over. -/
lemma circuitKept_built (h : Numbering (topId s + 1) s.devices numbered)
    (hroom : topId s + 1 + missingIds s.devices ≤ lastId.toNat)
    (hnodup : ((built s numbered).objects.map (·.id)).Nodup) {c : Split.Circuit}
    (hc : c ∈ s.circuits) :
    ∃ o, (built s numbered).object? c.id = some o ∧ CircuitKept s c o := by
  let o : Object := { circuitObject c with
    logicValues := leftValues (numbered.flatMap (·.occupants)) c.id }
  have ho : o ∈ (built s numbered).objects := by
    refine List.mem_append_left _ ?_
    rw [foldl_keepFields (nodup_circuitIds hnodup)]
    exact List.mem_map.2 ⟨c, hc, rfl⟩
  refine ⟨o, object?_of_mem hnodup ho, ?_⟩
  have hvalues : o.logicValues =
      (occupantsNaming s c.id).getLast?.map fun o => logicValues o.fields :=
    leftValues_eq h hroom hc
  constructor
  · rfl
  · exact ⟨_, rfl, rfl, rfl, rfl, rfl, rfl, fun _ => Assoc.get?_ofList, fun _ => Assoc.get?_ofList⟩
  · intro occupant hoccupant
    rw [hvalues, hoccupant]
    exact carriesFields_logicValues occupant.fields
  · intro hnone
    rw [hvalues, hnone]
    rfl

/-! ## Devices -/

/-- A slot of a device is carried over. -/
lemma slotKept_built (h : Numbering (topId s + 1) s.devices numbered)
    (hroom : topId s + 1 + missingIds s.devices ≤ lastId.toNat)
    (hnodup : ((built s numbered).objects.map (·.id)).Nodup) {d : NumberedDevice}
    (hd : d ∈ numbered) {slot : NumberedSlot} (hslot : slot ∈ d.slots) :
    SlotKept s (built s numbered) ⟨slot.typ, slot.occupant.map (·.occupant)⟩
      ⟨slot.typ, slot.occupant.map (·.id)⟩ := by
  have hentry : ∀ {o}, slot.occupant = some o → o ∈ d.occupants := by
    intro o ho
    exact List.mem_filterMap.2 ⟨slot, hslot, ho⟩
  constructor
  · rfl
  · simp
  · intro occupant id hoccupant hid
    obtain ⟨o, ho, rfl⟩ := Option.map_eq_some_iff.1 hoccupant
    have hmem := mem_deviceEntries_of_occupant hd (hentry ho)
    rw [hid] at hmem
    change slot.occupant.map (·.id) = _
    rw [ho, Option.map_some, h.filled.eq_of_mem hmem]
  · intro occupant hoccupant hloose
    obtain ⟨o, ho, rfl⟩ := Option.map_eq_some_iff.1 hoccupant
    have hmem := mem_deviceEntries_of_occupant hd (hentry ho)
    have hobject : occupantObject o ∈ (built s numbered).objects := by
      refine List.mem_append_right _ (List.mem_flatMap.2 ⟨d, hd, List.mem_append_left _ ?_⟩)
      refine List.mem_map.2 ⟨o, List.mem_filter.2 ⟨hentry ho, ?_⟩, rfl⟩
      rw [Bool.not_eq_true', List.any_eq_false]
      intro c hc hid
      have hid : c.id = o.id := by simpa using hid
      exact hloose ⟨c, hc, (mem_circuitIds_iff h hroom hmem hc).1 hid.symm⟩
    refine ⟨o.id, some (logicValues o.occupant.fields), ?_, ?_, ?_⟩
    · change slot.occupant.map (·.id) = _
      rw [ho, Option.map_some]
    · exact object?_of_mem hnodup hobject
    · exact carriesFields_logicValues o.occupant.fields

/-- The object of a device carries it over. -/
lemma deviceKept_built (h : Numbering (topId s + 1) s.devices numbered)
    (hroom : topId s + 1 + missingIds s.devices ≤ lastId.toNat)
    (hnodup : ((built s numbered).objects.map (·.id)).Nodup) {d : NumberedDevice}
    (hd : d ∈ numbered) :
    DeviceKept s (built s numbered) d.device (deviceObject s.circuits d) := by
  constructor
  · intro id hid
    exact h.device_id hd hid
  · rfl
  · rfl
  · exact carriesFields_logicValues d.device.fields
  · refine ⟨_, rfl, ?_⟩
    rw [List.forall₂_map_right_iff, List.forall₂_same]
    exact fun c _ => connectionKept_connection c
  · refine ⟨_, rfl, ?_⟩
    rw [← h.slots_eq d hd, plainSlots, List.forall₂_map_left_iff, List.forall₂_map_right_iff,
      List.forall₂_same]
    exact fun slot hslot => slotKept_built h hroom hnodup hd hslot

/-- A housing carries the pins of its circuit over. -/
lemma pinsKept_built (hpaired : Paired s.devices s.circuits)
    (h : Numbering (topId s + 1) s.devices numbered)
    (hnodup : ((built s numbered).objects.map (·.id)).Nodup) {c : Split.Circuit}
    (hc : c ∈ s.circuits) :
    ∃ o table, (built s numbered).object? c.device = some o ∧ o.devicePins = some table ∧
      PinsKept c.pins table := by
  obtain ⟨d, hd, hid, hhoused⟩ := exists_housing hpaired h hc
  have hobject : deviceObject s.circuits d ∈ (built s numbered).objects :=
    List.mem_append_right _
      (List.mem_flatMap.2 ⟨d, hd, List.mem_append_right _ List.mem_cons_self⟩)
  refine ⟨deviceObject s.circuits d, pinTable c.pins, ?_, ?_, pinsKept_pinTable c.pins⟩
  · rw [← hid]
    exact object?_of_mem hnodup hobject
  · simp [deviceObject, hhoused]

/-- An object that no circuit names as its housing has no pins. -/
lemma devicePins_eq_none (hpaired : Paired s.devices s.circuits)
    (h : Numbering (topId s + 1) s.devices numbered) {o : Object}
    (ho : o ∈ (built s numbered).objects) (hid : o.id ∉ s.circuits.map (·.device)) :
    o.devicePins = none := by
  by_contra hpins
  have hmem : o ∈ (objects s.circuits numbered).filter (·.devicePins.isSome) :=
    List.mem_filter.2 ⟨ho, Option.isSome_iff_ne_none.2 hpins⟩
  rw [filter_objects (fun _ _ => rfl) (fun _ => rfl) (fun _ => rfl)] at hmem
  obtain ⟨hmap, hsome⟩ := List.mem_filter.1 hmem
  obtain ⟨d, hd, rfl⟩ := List.mem_map.1 hmap
  obtain ⟨c, hhoused⟩ : ∃ c, housed? s.circuits d.device = some c := by
    rw [← Option.isSome_iff_exists]
    simpa [deviceObject] using hsome
  have hc := ((housed?_eq_some_iff hpaired).1 hhoused).1
  exact hid (List.mem_map.2 ⟨c, hc, (id_eq_of_housed hpaired h hd hhoused).symm⟩)

end Built

/-- Every migrated snapshot holds what the snapshot it comes from holds, and nothing else. -/
theorem preserved_of_migrate {s : Split.Snapshot} {v : Snapshot} (h : migrate s = .ok v) :
    Preserved s v := by
  obtain ⟨hpaired, hroom, numbered, hnumbering, rfl, hnodup⟩ := migrate_eq_ok h
  constructor
  · exact length_objects hnumbering hroom
  · exact fun c hc => circuitKept_built hnumbering hroom hnodup hc
  · have hslots : (built s numbered).objects.filter (·.slots.isSome) =
        numbered.map (deviceObject s.circuits) := filter_slots_objects s.circuits numbered
    rw [hslots, ← hnumbering.devices_eq, List.forall₂_map_left_iff, List.forall₂_map_right_iff,
      List.forall₂_same]
    exact fun d hd => deviceKept_built hnumbering hroom hnodup hd
  · exact fun c hc => pinsKept_built hpaired hnumbering hnodup hc
  · exact fun o ho hid => devicePins_eq_none hpaired hnumbering ho hid
  · change (s.networks.map network).map _ = _
    rw [List.map_map]
    rfl
  · rfl

/-- A housing with two slots that both name its circuit, of which only the first has fields, an
alias given twice, a pin left open, and a device without an id that holds something without one. -/
def crowdedExample : Split.Snapshot where
  circuits :=
    [{ device := 7, id := 9, registers := [], ip := 3, ic := 1, stack := [.nan],
       aliases := [("gas", .identifier "r0"), ("gas", .identifier "r1")],
       pins := [none, some 7], code := "yield" }]
  devices :=
    [{ id := some 7, name := some "Housing", prefab := none,
       slots := [⟨"Circuit", some { id := some 9, fields := .ofList [("On", ⟨.read, .zero⟩)] }⟩,
         ⟨"Circuit", some { id := some 9 }⟩],
       connections := [.cable (some 4) .data, .other] },
     { id := none, name := none, prefab := some "Box",
       slots := [⟨"Battery", some { id := none }⟩, ⟨"Battery", none⟩] }]
  networks := [{ id := 4, devices := [7] }]
  defaultNetwork := 4

theorem preserved_crowdedExample :
    ∃ v, migrate crowdedExample = .ok v ∧ Preserved crowdedExample v :=
  ⟨_, rfl, preserved_of_migrate rfl⟩

end SessionVault.Migration
