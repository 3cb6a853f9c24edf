import SessionVault.Proofs.Snapshot.References
/-!
# Generated ids and dangling references

A migration generates ids above those that devices, circuits, occupants and networks carry.  It does
not look at the ids that pins, networks and connections refer to, so a reference to something that
is not there may come to name an object that had no id.  `contains_reference_iff` says which
references do: those to one of the numbers directly above the largest id, as many as there are
devices and occupants without an id.
-/

namespace SessionVault.Migration

/-- The network that a connection refers to. -/
def linkedNetwork? : Split.Connection → Option ObjectId
  | .cable network _ => network
  | .other => none

/-- Every id that a snapshot refers to: what pins are wired to, what networks connect, the networks
of connections, and the default network. -/
def references (s : Split.Snapshot) : List ObjectId :=
  s.circuits.flatMap (fun c => c.pins.filterMap id) ++
    s.networks.flatMap (fun n => n.devices ++ n.powerOnly) ++
    s.devices.flatMap (fun d => d.connections.filterMap linkedNetwork?) ++
    [s.defaultNetwork]

/-- The ids that a migration gives to devices and occupants that had none. -/
def generatedIds (s : Split.Snapshot) (v : Snapshot) : List ObjectId := newIds (traversal s v)

section Fresh

variable {s : Split.Snapshot} {v : Snapshot}

/-- The generated ids are the numbers directly above the largest id. -/
lemma Sound.mem_generatedIds_iff (h : Sound s v) {id : ObjectId} :
    id ∈ generatedIds s v ↔
      topId s < id.toNat ∧ id.toNat ≤ topId s + missingIds s.devices := by
  have hnat : id.toNat ∈ (generatedIds s v).map UInt32.toNat ↔ id ∈ generatedIds s v :=
    List.mem_map_of_injective fun _ _ => UInt32.toNat_inj.1
  rw [← hnat, generatedIds, h.numbered, List.mem_range'_1]
  omega

/-- The objects of a migrated snapshot have the explicit ids and the generated ones. -/
lemma contains_iff_of_migrate (h : migrate s = .ok v) {id : ObjectId} :
    v.contains id ↔ id ∈ explicitIds s ∨ id ∈ generatedIds s v := by
  obtain ⟨-, hroom, numbered, hnumbering, rfl, -⟩ := migrate_eq_ok h
  have hperm := perm_objectIds_of_room hnumbering hroom
  rw [contains_iff, generatedIds, traversal_built hnumbering, ← List.mem_append]
  exact hperm.mem_iff

/-- **Which dangling references come to name an object.**  The ids that a migration generates differ
from every id that a device, a circuit, an occupant or a network carries.  A reference to an id that
nothing carries names an object after the migration exactly if the id is one of the numbers directly
above the largest id, of which the migration uses as many as ids are missing. -/
theorem contains_reference_iff (h : migrate s = .ok v) :
    (∀ id ∈ generatedIds s v, id ∉ givenIds s) ∧
      ∀ id ∈ references s, id ∉ givenIds s →
        (v.contains id ↔ topId s < id.toNat ∧ id.toNat ≤ topId s + missingIds s.devices) := by
  have hsound := (sound_of_migrate h).1
  constructor
  · intro id hgenerated hgiven
    have habove := (hsound.mem_generatedIds_iff.1 hgenerated).1
    have hbelow := toNat_le_topId hgiven
    omega
  · intro id _ hfree
    have hexplicit : id ∉ explicitIds s := fun hmem => hfree (mem_givenIds_of_mem_explicitIds hmem)
    rw [contains_iff_of_migrate h, or_iff_right hexplicit, hsound.mem_generatedIds_iff]

end Fresh

/-- A circuit whose first pin is wired to a device that was removed, and a device without an id. -/
def danglingExample : Split.Snapshot where
  circuits :=
    [{ device := 1, id := 2, registers := [], ip := 0, ic := 0, stack := [], pins := [some 3] }]
  devices :=
    [{ id := some 1, name := some "Housing", prefab := none,
       slots := [⟨"Circuit", some { id := some 2 }⟩] },
     { id := none, name := some "Lamp", prefab := none }]
  defaultNetwork := 0

/-- The pin is wired to nothing, and the number it has is the one after the largest id. -/
theorem contains_reference_danglingExample :
    ∃ v, migrate danglingExample = .ok v ∧
      (∀ id ∈ generatedIds danglingExample v, id ∉ givenIds danglingExample) ∧
      3 ∈ references danglingExample ∧ 3 ∉ givenIds danglingExample ∧
      (v.contains 3 ↔ topId danglingExample < (3 : ObjectId).toNat ∧
        (3 : ObjectId).toNat ≤ topId danglingExample + missingIds danglingExample.devices) := by
  have hreference : 3 ∈ references danglingExample := by decide
  have hfree : 3 ∉ givenIds danglingExample := by decide
  obtain ⟨hgenerated, hreferences⟩ := contains_reference_iff (s := danglingExample) rfl
  exact ⟨_, rfl, hgenerated, hreference, hfree, hreferences 3 hreference hfree⟩

/-- **A generated id may be referred to.**  The lamp without an id receives the id that the pin is
still wired to, and so the circuit's first pin comes to name the lamp. -/
theorem generatedId_mem_references : ∃ v, migrate danglingExample = .ok v ∧
    3 ∈ generatedIds danglingExample v ∧ 3 ∈ references danglingExample ∧
    3 ∉ givenIds danglingExample ∧
    ((v.object? 1).bind (·.devicePins)).bind (·.get? 0) = some 3 ∧
    (v.object? 3).bind (·.name) = some "Lamp" :=
  ⟨_, rfl, by decide, by decide, by decide, by decide, by decide⟩

end SessionVault.Migration
