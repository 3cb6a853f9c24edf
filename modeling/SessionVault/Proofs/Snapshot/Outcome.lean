import Mathlib.Data.List.Perm.Basic
import SessionVault.Proofs.Snapshot.Numbering
/-!
# The outcome of a migration

`migrate_outcome` says for every snapshot of the first revision how its migration ends.  Three
things decide: whether the ids suffice for everything that has none, whether circuits and housings
pair up (`Paired`, with the first circuit that breaks it in `HousingFault`), and whether an id is
given twice among those that become objects (`explicitIds`).

The third is where the numbering enters.  Up to order, the ids of the built objects are the
explicit ids and the new ones (`perm_objectIds`), and the new ones are distinct and above all that
are given.  So no new id causes a repetition and none hides one.
-/

namespace SessionVault.Migration

/-! ## The largest id -/

/-- The largest id of a device, a circuit, an occupant or a network, zero if there is none. -/
def topId (s : Split.Snapshot) : Nat := ((givenIds s).map UInt32.toNat).max?.getD 0

/-- The larger of two ids by their numbers. -/
lemma toNat_max (a b : ObjectId) : (max a b).toNat = max a.toNat b.toNat := by
  change (if a ≤ b then b else a).toNat = _
  rw [Nat.max_def]
  by_cases h : a ≤ b
  · rw [if_pos h, if_pos (UInt32.le_iff_toNat_le.1 h)]
  · rw [if_neg h, if_neg (fun hle => h (UInt32.le_iff_toNat_le.2 hle))]

/-- Where the numbering starts from, as a number. -/
lemma largestId_toNat (s : Split.Snapshot) : (largestId s).toNat = topId s := by
  have hfold : ∀ (ids : List ObjectId) (start : ObjectId),
      (ids.foldl max start).toNat = (ids.map UInt32.toNat).foldl max start.toNat := by
    intro ids
    induction ids with
    | nil => exact fun _ => rfl
    | cons id rest ih =>
      intro start
      rw [List.foldl_cons, ih, toNat_max, List.map_cons, List.foldl_cons]
  rw [largestId, hfold, topId]
  cases (givenIds s).map UInt32.toNat with
  | nil => rfl
  | cons n rest =>
    rw [List.max?_cons', Option.getD_some, List.foldl_cons]
    congr 1

/-- No given id is above the largest. -/
lemma toNat_le_topId {s : Split.Snapshot} {id : ObjectId} (h : id ∈ givenIds s) :
    id.toNat ≤ topId s := by
  have hmem : id.toNat ∈ (givenIds s).map UInt32.toNat := List.mem_map_of_mem h
  obtain ⟨top, htop⟩ : ∃ top, ((givenIds s).map UInt32.toNat).max? = some top := by
    cases hmax : ((givenIds s).map UInt32.toNat).max? with
    | none => simp [List.max?_eq_none_iff.1 hmax] at hmem
    | some top => exact ⟨top, rfl⟩
  rw [topId, htop, Option.getD_some]
  exact (List.max?_eq_some_iff.1 htop).2 _ hmem

/-- The largest id is an id. -/
lemma topId_le (s : Split.Snapshot) : topId s ≤ lastId.toNat := by
  have hlt := (largestId s).toNat_lt
  have hlast : lastId.toNat = 4294967295 := rfl
  rw [largestId_toNat] at hlt
  omega

/-! ## Housings -/

/-- Circuits and housings pair up: every circuit names a device that is there, and no two name the
same. -/
def Paired (devices : List Split.Device) (circuits : List Split.Circuit) : Prop :=
  (∀ c ∈ circuits, some c.device ∈ devices.map (·.id)) ∧ (circuits.map (·.device)).Nodup

/-- What is wrong with the housing of a circuit that comes after `before`. -/
inductive HousingFault (devices : List Split.Device) (before : List Split.Circuit)
    (c : Split.Circuit) : MigrationFault → Prop
  | orphaned (h : some c.device ∉ devices.map (·.id)) :
      HousingFault devices before c (.orphanedCircuit c.id c.device)
  | shared (h : some c.device ∈ devices.map (·.id)) (first : Split.Circuit)
      (hfirst : first ∈ before) (hdevice : first.device = c.device) :
      HousingFault devices before c (.sharedHousing c.device first.id c.id)

/-- One more circuit keeps the pairing if its device is there and not taken. -/
lemma paired_append_singleton {devices : List Split.Device} {before : List Split.Circuit}
    {c : Split.Circuit} :
    Paired devices (before ++ [c]) ↔ Paired devices before ∧
      some c.device ∈ devices.map (·.id) ∧ ∀ first ∈ before, first.device ≠ c.device := by
  unfold Paired
  rw [List.map_append, List.nodup_append]
  constructor
  · rintro ⟨hthere, hnodup, -, hdisjoint⟩
    refine ⟨⟨fun c hc => hthere c (List.mem_append_left _ hc), hnodup⟩,
      hthere c (List.mem_append_right _ List.mem_cons_self), fun first hfirst => ?_⟩
    exact hdisjoint _ (List.mem_map_of_mem hfirst) _ List.mem_cons_self
  · rintro ⟨⟨hthere, hnodup⟩, hlast, hfree⟩
    refine ⟨fun d hd => ?_, hnodup, List.nodup_singleton _, fun a ha b hb => ?_⟩
    · rcases List.mem_append.1 hd with hd | hd
      · exact hthere d hd
      · rw [List.mem_singleton.1 hd]
        exact hlast
    · obtain ⟨first, hfirst, rfl⟩ := List.mem_map.1 ha
      rw [List.mem_singleton.1 hb]
      exact hfree first hfirst

/-- A part of paired circuits is paired. -/
lemma Paired.of_append {devices : List Split.Device} {left right : List Split.Circuit}
    (h : Paired devices (left ++ right)) : Paired devices left := by
  refine ⟨fun c hc => h.1 c (List.mem_append_left _ hc), ?_⟩
  have hnodup := h.2
  rw [List.map_append] at hnodup
  exact (List.nodup_append.1 hnodup).1

/-- Checking housings passes on paired circuits and otherwise reports the first circuit that breaks
the pairing. -/
lemma checkHousings_spec {devices : List Split.Device} {before : List Split.Circuit}
    (circuits : List Split.Circuit) (hbefore : Paired devices before) :
    (Paired devices (before ++ circuits) → checkHousings devices before circuits = .ok ()) ∧
      (¬ Paired devices (before ++ circuits) → ∃ fine c rest fault,
        circuits = fine ++ c :: rest ∧ Paired devices (before ++ fine) ∧
        HousingFault devices (before ++ fine) c fault ∧
        checkHousings devices before circuits = .error fault) := by
  induction circuits generalizing before with
  | nil =>
    refine ⟨fun _ => rfl, fun h => absurd ?_ h⟩
    rw [List.append_nil]
    exact hbefore
  | cons c rest ih =>
    have hany : devices.any (·.id = some c.device) = true ↔
        some c.device ∈ devices.map (·.id) := by
      simp [List.any_eq_true, List.mem_map]
    by_cases hthere : some c.device ∈ devices.map (·.id)
    · have hcheck : (!devices.any (·.id = some c.device)) = false := by
        rw [hany.2 hthere]
        rfl
      cases hfind : before.find? (·.device = c.device) with
      | some first =>
        have hdevice : first.device = c.device := by
          simpa using List.find?_some hfind
        have hfirst : first ∈ before := List.mem_of_find?_eq_some hfind
        refine ⟨fun h => absurd hdevice ?_, fun _ =>
          ⟨[], c, rest, .sharedHousing c.device first.id c.id, rfl, ?_, ?_, ?_⟩⟩
        · have hhead : Paired devices (before ++ [c]) := by
            rw [← List.singleton_append, ← List.append_assoc] at h
            exact h.of_append
          exact (paired_append_singleton.1 hhead).2.2 first hfirst
        · rw [List.append_nil]
          exact hbefore
        · rw [List.append_nil]
          exact .shared hthere first hfirst hdevice
        · simp [checkHousings, hcheck, hfind]
      | none =>
        have hfree : ∀ first ∈ before, first.device ≠ c.device := by
          simpa using List.find?_eq_none.1 hfind
        have hstep : checkHousings devices before (c :: rest) =
            checkHousings devices (before ++ [c]) rest := by
          simp [checkHousings, hcheck, hfind]
        obtain ⟨hpass, hfail⟩ := ih (paired_append_singleton.2 ⟨hbefore, hthere, hfree⟩)
        rw [hstep]
        rw [List.append_assoc, List.singleton_append] at hpass hfail
        refine ⟨hpass, fun h => ?_⟩
        obtain ⟨fine, bad, after, fault, hsplit, hfine, hfault, hrun⟩ := hfail h
        rw [List.append_assoc, List.singleton_append] at hfine hfault
        exact ⟨c :: fine, bad, after, fault, by rw [hsplit]; rfl, hfine, hfault, hrun⟩
    · have hcheck : (!devices.any (·.id = some c.device)) = true := by
        rw [Bool.not_eq_true', ← Bool.not_eq_true]
        exact fun h => hthere (hany.1 h)
      refine ⟨fun h => absurd (h.1 c (by simp)) hthere, fun _ =>
        ⟨[], c, rest, .orphanedCircuit c.id c.device, rfl, ?_, ?_, ?_⟩⟩
      · rw [List.append_nil]
        exact hbefore
      · exact .orphaned hthere
      · simp [checkHousings, hcheck]

/-! ## The ids of the built objects -/

/-- Changing the first object with an id keeps every view that the change keeps. -/
lemma map_updateFirst {β : Type} (view : Object → β) {change : Object → Object}
    (hview : ∀ object, view (change object) = view object) (id : ObjectId)
    (objects : List Object) :
    (Snapshot.updateFirst id change objects).map view = objects.map view := by
  induction objects with
  | nil => rfl
  | cons object rest ih =>
    unfold Snapshot.updateFirst
    split
    · rw [List.map_cons, hview, List.map_cons]
    · rw [List.map_cons, ih, List.map_cons]

/-- Leaving the fields of occupants with the circuits keeps every view of the circuits that does
not look at logic values. -/
lemma map_foldl_keepFields {β : Type} (view : Object → β)
    (hview : ∀ (object : Object) values, view { object with logicValues := values } = view object)
    (occupants : List NumberedOccupant) (circuits : List Object) :
    (occupants.foldl keepFields circuits).map view = circuits.map view := by
  induction occupants generalizing circuits with
  | nil => rfl
  | cons occupant rest ih =>
    rw [List.foldl_cons, ih, keepFields]
    split
    · rfl
    · exact map_updateFirst view (fun object => hview object _) _ _

/-- The ids of the occupants of a device that become objects of their own. -/
def looseIds (circuits : List Split.Circuit) (d : NumberedDevice) : List ObjectId :=
  ((slotEntries d.slots).map (·.2)).filter fun id => id ∉ circuits.map (·.id)

/-- The ids of the built objects: those of the circuits, then for every device those of its
occupants and its own. -/
lemma map_id_objects (circuits : List Split.Circuit) (numbered : List NumberedDevice) :
    (objects circuits numbered).map (·.id) =
      circuits.map (·.id) ++ numbered.flatMap fun d => looseIds circuits d ++ [d.id] := by
  rw [objects, List.map_append, map_foldl_keepFields _ (fun _ _ => rfl), List.map_map,
    List.map_flatMap]
  congr 1
  refine List.flatMap_congr fun d _ => ?_
  rw [deviceObjects, List.map_append, List.map_map, looseIds, slotEntries, List.map_map,
    List.filter_map]
  refine congrArg₂ (· ++ ·) (congrArg _ (List.filter_congr fun o _ => ?_)) rfl
  rw [Bool.eq_iff_iff]
  simp

/-- Final ids outside a list are, up to order, the given ids outside it and the new ids, when
given ids are kept and no new id is in the list. -/
lemma perm_given_new (taken : List ObjectId) (entries : List (Option ObjectId × ObjectId))
    (hkept : ∀ own id, (some own, id) ∈ entries → id = own)
    (hnew : ∀ id ∈ newIds entries, id ∉ taken) :
    ((entries.map (·.2)).filter (· ∉ taken)).Perm
      ((entries.filterMap (·.1)).filter (· ∉ taken) ++ newIds entries) := by
  induction entries with
  | nil => exact List.Perm.nil
  | cons entry rest ih =>
    obtain ⟨own, id⟩ := entry
    have hkeptRest : ∀ own id, (some own, id) ∈ rest → id = own :=
      fun own id h => hkept own id (List.mem_cons_of_mem _ h)
    cases own with
    | some own =>
      have hid : id = own := hkept own id List.mem_cons_self
      have hrest := ih hkeptRest hnew
      change ((id :: rest.map (·.2)).filter (· ∉ taken)).Perm
        ((own :: rest.filterMap (·.1)).filter (· ∉ taken) ++ newIds rest)
      rw [hid, List.filter_cons, List.filter_cons]
      split
      · exact hrest.cons own
      · exact hrest
    | none =>
      have hrest := ih hkeptRest fun id h => hnew id (List.mem_cons_of_mem _ h)
      have hfree : id ∉ taken := hnew id List.mem_cons_self
      change ((id :: rest.map (·.2)).filter (· ∉ taken)).Perm
        ((rest.filterMap (·.1)).filter (· ∉ taken) ++ id :: newIds rest)
      rw [List.filter_cons_of_pos (by simpa using hfree)]
      exact (hrest.cons id).trans List.perm_middle.symm

/-- The ids that a snapshot gives to what becomes an object: those of circuits, of devices, and of
occupants that are no circuits. -/
def explicitIds (s : Split.Snapshot) : List ObjectId :=
  s.circuits.map (·.id) ++ s.devices.filterMap (·.id) ++
    ((s.devices.flatMap occupantsOf).filterMap (·.id)).filter fun id => id ∉ s.circuits.map (·.id)

section Numbered

variable {s : Split.Snapshot} {first : Nat} {numbered : List NumberedDevice}

/-- The entries of the devices themselves. -/
def headEntries (numbered : List NumberedDevice) : List (Option ObjectId × ObjectId) :=
  numbered.map fun d => (d.device.id, d.id)

/-- The entries of the occupants. -/
def occupantEntries (numbered : List NumberedDevice) : List (Option ObjectId × ObjectId) :=
  numbered.flatMap fun d => slotEntries d.slots

/-- The entries of devices are, up to order, those of the devices themselves and those of their
occupants. -/
lemma perm_deviceEntries (numbered : List NumberedDevice) :
    (headEntries numbered ++ occupantEntries numbered).Perm (deviceEntries numbered) := by
  rw [headEntries, List.map_eq_flatMap]
  exact List.flatMap_append_perm numbered _ _

/-- The ids of all devices and occupants that become objects, up to order. -/
lemma perm_looseIds (circuits : List Split.Circuit) (numbered : List NumberedDevice) :
    (numbered.flatMap fun d => looseIds circuits d ++ [d.id]).Perm
      ((headEntries numbered).map (·.2) ++
        ((occupantEntries numbered).map (·.2)).filter (· ∉ circuits.map (·.id))) := by
  have hsplit := (List.flatMap_append_perm numbered (looseIds circuits) fun d => [d.id]).symm
  refine hsplit.trans (List.perm_append_comm.trans ?_)
  rw [← List.map_eq_flatMap, headEntries, List.map_map, occupantEntries, List.map_flatMap,
    List.filter_flatMap]
  exact List.Perm.refl _

/-- The new ids are, up to order, those of devices and those of occupants. -/
lemma perm_newIds (numbered : List NumberedDevice) :
    (newIds (headEntries numbered) ++ newIds (occupantEntries numbered)).Perm
      (newIds (deviceEntries numbered)) := by
  rw [newIds, newIds, ← List.map_append, ← List.filter_append]
  exact ((perm_deviceEntries numbered).filter _).map _

/-- The given ids of devices. -/
lemma Numbering.given_headEntries {devices : List Split.Device}
    (h : Numbering first devices numbered) :
    (headEntries numbered).filterMap (·.1) = devices.filterMap (·.id) := by
  rw [← h.devices_eq, headEntries, List.filterMap_map, List.filterMap_map]
  rfl

/-- The given ids of occupants. -/
lemma Numbering.given_occupantEntries {devices : List Split.Device}
    (h : Numbering first devices numbered) :
    (occupantEntries numbered).filterMap (·.1) =
      (devices.flatMap occupantsOf).filterMap (·.id) := by
  rw [← h.devices_eq, occupantEntries, List.flatMap_map, List.filterMap_flatMap,
    List.filterMap_flatMap]
  refine List.flatMap_congr fun d hd => ?_
  rw [← h.map_occupants hd, slotEntries, List.filterMap_map, List.filterMap_map]
  rfl

/-- Up to order, the built objects have the explicit ids and the new ones. -/
lemma perm_objectIds (h : Numbering first s.devices numbered)
    (hnew : ∀ id ∈ newIds (deviceEntries numbered), id ∉ s.circuits.map (·.id)) :
    ((objects s.circuits numbered).map (·.id)).Perm
      (explicitIds s ++ newIds (deviceEntries numbered)) := by
  have hmem : ∀ entry ∈ headEntries numbered ++ occupantEntries numbered,
      entry ∈ deviceEntries numbered := fun entry => (perm_deviceEntries numbered).mem_iff.1
  have hnewMem : ∀ id ∈ newIds (headEntries numbered) ++ newIds (occupantEntries numbered),
      id ∈ newIds (deviceEntries numbered) := fun id => (perm_newIds numbered).mem_iff.1
  -- The devices, none of whose ids is left out.
  have hheads := perm_given_new [] (headEntries numbered)
    (fun own id hentry => h.filled.eq_of_mem (hmem _ (List.mem_append_left _ hentry)))
    (fun id _ => List.not_mem_nil)
  simp only [List.not_mem_nil, not_false_eq_true, decide_true, List.filter_true] at hheads
  rw [h.given_headEntries] at hheads
  -- The occupants, less those that are circuits.
  have hoccupants := perm_given_new (s.circuits.map (·.id)) (occupantEntries numbered)
    (fun own id hentry => h.filled.eq_of_mem (hmem _ (List.mem_append_right _ hentry)))
    (fun id hid => hnew id (hnewMem id (List.mem_append_right _ hid)))
  rw [h.given_occupantEntries] at hoccupants
  rw [map_id_objects, explicitIds]
  refine List.perm_iff_count.2 fun id => ?_
  have hloose := (perm_looseIds s.circuits numbered).count_eq id
  have hnews := (perm_newIds numbered).count_eq id
  have hheadCount := hheads.count_eq id
  have hoccupantCount := hoccupants.count_eq id
  simp only [List.count_append] at *
  omega

end Numbered

/-! ## Repetitions -/

/-- The search for a repeated id finds none exactly if the ids differ from each other and from
those before. -/
lemma repeatedId?_eq_none_iff (before : List ObjectId) (objects : List Object) :
    repeatedId? before objects = none ↔
      (objects.map (·.id)).Nodup ∧ ∀ object ∈ objects, object.id ∉ before := by
  induction objects generalizing before with
  | nil => simp [repeatedId?]
  | cons object rest ih =>
    rw [repeatedId?]
    by_cases hmem : object.id ∈ before
    · simp [hmem]
    · rw [if_neg (by simpa using hmem), ih]
      simp only [List.map_cons, List.nodup_cons, List.mem_map, List.mem_cons, not_or]
      constructor
      · rintro ⟨hnodup, hfree⟩
        refine ⟨⟨?_, hnodup⟩, ?_⟩
        · rintro ⟨other, hother, heq⟩
          exact (hfree other hother).1 heq
        · rintro other (rfl | hother)
          · exact hmem
          · exact (hfree other hother).2
      · rintro ⟨⟨hhead, hnodup⟩, hfree⟩
        refine ⟨hnodup, fun other hother => ⟨fun heq => hhead ⟨other, hother, heq⟩, ?_⟩⟩
        exact hfree other (.inr hother)

/-- Explicit ids are among the given ones. -/
lemma mem_givenIds_of_mem_explicitIds {s : Split.Snapshot} {id : ObjectId}
    (h : id ∈ explicitIds s) : id ∈ givenIds s := by
  unfold explicitIds at h
  unfold givenIds
  rcases List.mem_append.1 h with h | h
  · rcases List.mem_append.1 h with h | h
    · exact List.mem_append_left _ (List.mem_append_left _ (List.mem_append_right _ h))
    · exact List.mem_append_left _ (List.mem_append_left _ (List.mem_append_left _ h))
  · exact List.mem_append_left _ (List.mem_append_right _ (List.mem_filter.1 h).1)

section Outcome

variable {s : Split.Snapshot} {numbered : List NumberedDevice}

/-- New ids are no explicit ids: they lie above everything that is given. -/
lemma not_mem_explicitIds (h : Numbering (topId s + 1) s.devices numbered)
    (hroom : topId s + 1 + missingIds s.devices ≤ lastId.toNat) {id : ObjectId}
    (hid : id ∈ newIds (deviceEntries numbered)) : id ∉ explicitIds s := by
  intro hexplicit
  have habove := h.le_of_mem_newIds hroom hid
  have hbelow := toNat_le_topId (mem_givenIds_of_mem_explicitIds hexplicit)
  omega

/-- The ids of the built objects: the explicit ones and the new ones, up to order. -/
lemma perm_objectIds_of_room (h : Numbering (topId s + 1) s.devices numbered)
    (hroom : topId s + 1 + missingIds s.devices ≤ lastId.toNat) :
    ((objects s.circuits numbered).map (·.id)).Perm
      (explicitIds s ++ newIds (deviceEntries numbered)) :=
  perm_objectIds h fun _ hid hcircuit => not_mem_explicitIds h hroom hid
    (List.mem_append_left _ (List.mem_append_left _ hcircuit))

/-- The built objects have distinct ids exactly if no explicit id is given twice. -/
lemma nodup_objectIds_iff (h : Numbering (topId s + 1) s.devices numbered)
    (hroom : topId s + 1 + missingIds s.devices ≤ lastId.toNat) :
    ((objects s.circuits numbered).map (·.id)).Nodup ↔ (explicitIds s).Nodup := by
  rw [(perm_objectIds_of_room h hroom).nodup_iff, List.nodup_append]
  refine ⟨fun hall => hall.1, fun hexplicit => ⟨hexplicit, h.nodup_newIds hroom, ?_⟩⟩
  rintro id hid _ hnew rfl
  exact not_mem_explicitIds h hroom hnew hid

/-- The snapshot that is built from numbered devices. -/
def built (s : Split.Snapshot) (numbered : List NumberedDevice) : Snapshot where
  objects := objects s.circuits numbered
  circuitHolders := numbered.filterMap fun d => (housed? s.circuits d.device).map fun _ => d.id
  programHolders := s.circuits.map (·.id)
  networks := s.networks.map network
  defaultNetwork := s.defaultNetwork

/-- A migration whose first id is there checks the housings next. -/
lemma migrate_of_lt (htop : topId s < lastId.toNat) :
    ∃ next, next.toNat = topId s + 1 ∧ migrate s = (do
      checkHousings s.devices [] s.circuits
      let (devices, _) ← numberDevices next s.devices
      match repeatedId? [] (objects s.circuits devices) with
      | some id => .error (.duplicateId id)
      | none => return built s devices) := by
  rw [← largestId_toNat] at htop ⊢
  obtain ⟨next, hnext, hnat⟩ := (nextId_spec (largestId s)).1 htop
  refine ⟨next, hnat, ?_⟩
  unfold migrate
  rw [hnext]
  rfl

/-- Without an id after the largest one, nothing can be migrated. -/
lemma migrate_of_top (htop : topId s = lastId.toNat) : migrate s = .error .idsExhausted := by
  rw [← largestId_toNat] at htop
  unfold migrate
  rw [(nextId_spec (largestId s)).2 htop.ge]
  rfl

/-- A broken pairing is reported at the first circuit that breaks it. -/
lemma migrate_of_not_paired (htop : topId s < lastId.toNat) (h : ¬ Paired s.devices s.circuits) :
    ∃ fine c rest fault, s.circuits = fine ++ c :: rest ∧ Paired s.devices fine ∧
      HousingFault s.devices fine c fault ∧ migrate s = .error fault := by
  obtain ⟨next, -, hmigrate⟩ := migrate_of_lt htop
  have hnil : Paired s.devices [] := ⟨by simp, List.nodup_nil⟩
  obtain ⟨fine, c, rest, fault, hsplit, hfine, hfault, hrun⟩ :=
    (checkHousings_spec s.circuits hnil).2 h
  refine ⟨fine, c, rest, fault, hsplit, hfine, hfault, ?_⟩
  rw [hmigrate, hrun]
  rfl

/-- With circuits and housings paired, the number of gaps decides whether the ids suffice. -/
lemma migrate_of_paired (htop : topId s < lastId.toNat) (h : Paired s.devices s.circuits) :
    (lastId.toNat ≤ topId s + missingIds s.devices → migrate s = .error .idsExhausted) ∧
      (topId s + missingIds s.devices < lastId.toNat → ∃ numbered,
        Numbering (topId s + 1) s.devices numbered ∧
        migrate s = match repeatedId? [] (objects s.circuits numbered) with
          | some id => .error (.duplicateId id)
          | none => .ok (built s numbered)) := by
  obtain ⟨next, hnext, hmigrate⟩ := migrate_of_lt htop
  have hnil : Paired s.devices [] := ⟨by simp, List.nodup_nil⟩
  rw [hmigrate, (checkHousings_spec s.circuits hnil).1 h, ok_bind]
  constructor
  · intro hfull
    rw [(numberDevices_spec next s.devices).2 (by omega)]
    rfl
  · intro hroom
    obtain ⟨numbered, after, hrun, hnumbering⟩ := (numberDevices_spec next s.devices).1 (by omega)
    refine ⟨numbered, by rw [← hnext]; exact hnumbering, ?_⟩
    rw [hrun]
    rfl

end Outcome

/-- How a migration ends: ids run out exactly if the largest id is the last one or, with circuits
and housings paired, the gaps leave no id after the last new one; otherwise the first circuit that
breaks the pairing is reported; otherwise an id is reported exactly if one is given twice; and
otherwise there is a result. -/
theorem migrate_outcome (s : Split.Snapshot) :
    (migrate s = .error .idsExhausted ↔ topId s = 2 ^ 32 - 1 ∨
      (Paired s.devices s.circuits ∧ 2 ^ 32 - 1 ≤ topId s + missingIds s.devices)) ∧
    (migrate s ≠ .error .idsExhausted →
      (¬ Paired s.devices s.circuits → ∃ fine c rest fault,
        s.circuits = fine ++ c :: rest ∧ Paired s.devices fine ∧
        HousingFault s.devices fine c fault ∧ migrate s = .error fault) ∧
      (Paired s.devices s.circuits →
        ((∃ id, migrate s = .error (.duplicateId id)) ↔ ¬ (explicitIds s).Nodup) ∧
        ((explicitIds s).Nodup → ∃ v, migrate s = .ok v))) := by
  have hlast : lastId.toNat = 2 ^ 32 - 1 := rfl
  rw [← hlast]
  have hle := topId_le s
  by_cases htop : topId s = lastId.toNat
  · have hrun := migrate_of_top htop
    exact ⟨by simp [hrun, htop], fun h => absurd hrun h⟩
  have hlt : topId s < lastId.toNat := by omega
  by_cases hpaired : Paired s.devices s.circuits
  · obtain ⟨hfull, hroom⟩ := migrate_of_paired hlt hpaired
    by_cases hgaps : lastId.toNat ≤ topId s + missingIds s.devices
    · have hrun := hfull hgaps
      exact ⟨by simp [hrun, hpaired, hgaps], fun h => absurd hrun h⟩
    · obtain ⟨numbered, hnumbering, hrun⟩ := hroom (by omega)
      have hiff := nodup_objectIds_iff hnumbering (by omega)
      have hnone := repeatedId?_eq_none_iff [] (objects s.circuits numbered)
      simp only [List.not_mem_nil, not_false_eq_true, implies_true, and_true] at hnone
      rw [hiff] at hnone
      cases hrepeated : repeatedId? [] (objects s.circuits numbered) with
      | none =>
        have hnodup := hnone.1 hrepeated
        rw [hrepeated] at hrun
        refine ⟨by simp [hrun, htop, hgaps], fun _ => ⟨fun h => absurd hpaired h, fun _ => ?_⟩⟩
        exact ⟨by simp [hrun, hnodup], fun _ => ⟨_, hrun⟩⟩
      | some id =>
        have hnodup : ¬ (explicitIds s).Nodup := fun h => by simp [hnone.2 h] at hrepeated
        rw [hrepeated] at hrun
        refine ⟨by simp [hrun, htop, hgaps], fun _ => ⟨fun h => absurd hpaired h, fun _ => ?_⟩⟩
        exact ⟨by simp [hrun, hnodup], fun h => absurd h hnodup⟩
  · obtain ⟨fine, c, rest, fault, hsplit, hfine, hfault, hrun⟩ :=
      migrate_of_not_paired hlt hpaired
    refine ⟨?_, fun _ => ⟨fun _ => ⟨fine, c, rest, fault, hsplit, hfine, hfault, hrun⟩,
      fun h => absurd h hpaired⟩⟩
    have hne : fault ≠ .idsExhausted := by
      rintro rfl
      cases hfault
    simp [hrun, hne, htop, hpaired]

end SessionVault.Migration
