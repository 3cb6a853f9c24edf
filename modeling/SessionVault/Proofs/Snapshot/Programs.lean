import SessionVault.Proofs.Table
import SessionVault.Snapshot.Unified
/-!
# The programs of a snapshot

The table of programs is read off two lists that nothing ties together: the ids that are called
program holders, and the objects, where the first with an id counts.  `get?_programSources` says
what it binds.  Setting a program changes both lists, each under its own condition, and comes to
binding the id in the table (`programSources_setProgram`): on every snapshot, also where ids are
repeated, where holders are missing, or where the id is that of a housing.  Setting programs one
after another keeps the last text for each id (`get?_programSources_foldl`).

Besides the table, one object changes, and only in its source, or one is added (`SetsSource`); ids
that are distinct stay so, and no holder loses its object.  `BindsProgram` has all of this together.
-/

namespace SessionVault.Snapshot

variable {s : Snapshot} {id key : ObjectId} {code : String}

/-! ## What the table binds -/

/-- A program holder is bound to the source of its object, if that is there; no other id is
bound. -/
lemma get?_programSources :
    s.programSources.get? key =
      if key ∈ s.programHolders then (s.object? key).map fun object => object.sourceCode.getD ""
      else none := by
  have hmem : ∀ text, (key, text) ∈ (s.programHolders.filterMap fun id =>
      (s.object? id).map fun object => (id, object.sourceCode.getD "")) ↔
        key ∈ s.programHolders ∧
          ((s.object? key).map fun object => object.sourceCode.getD "") = some text := by
    intro text
    rw [List.mem_filterMap]
    constructor
    · rintro ⟨id, hid, hentry⟩
      obtain ⟨object, hobject, heq⟩ := Option.map_eq_some_iff.1 hentry
      obtain ⟨rfl, rfl⟩ := Prod.mk.inj heq
      exact ⟨hid, by rw [hobject, Option.map_some]⟩
    · rintro ⟨hkey, htext⟩
      obtain ⟨object, hobject, rfl⟩ := Option.map_eq_some_iff.1 htext
      exact ⟨key, hkey, by rw [hobject, Option.map_some]⟩
  rcases hget : s.programSources.get? key with _ | text
  · -- what is not bound is in none of the entries
    split_ifs with hkey
    · rcases hobject : (s.object? key).map fun object => object.sourceCode.getD "" with _ | text
      · exact hobject.symm
      · have hentry := List.mem_map_of_mem (f := Prod.fst) ((hmem text).2 ⟨hkey, hobject⟩)
        exact absurd (Assoc.mem_keys_ofList_iff.2 hentry) (Assoc.get?_eq_none_iff.1 hget)
    · rfl
  · obtain ⟨hkey, htext⟩ := (hmem text).1 (Assoc.mem_of_mem_ofList (Assoc.mem_of_get?_eq_some hget))
    rw [if_pos hkey, htext]

/-! ## Setting a program -/

/-- Changing the first object with an id changes what is found under that id and nothing else. -/
lemma find?_updateFirst {change : Object → Object}
    (hchange : ∀ object, (change object).id = object.id) (objects : List Object) :
    (updateFirst id change objects).find? (·.id = key) =
      if key = id then (objects.find? (·.id = key)).map change
      else objects.find? (·.id = key) := by
  induction objects with
  | nil =>
    rw [updateFirst, List.find?_nil]
    split_ifs <;> rfl
  | cons object rest ih =>
    by_cases hobject : object.id = id
    · rw [updateFirst, if_pos hobject, List.find?_cons, List.find?_cons, hchange, hobject]
      by_cases hkey : key = id
      · simp [hkey]
      · simp [hkey, Ne.symm hkey]
    · rw [updateFirst, if_neg hobject, List.find?_cons, List.find?_cons, ih]
      by_cases hkey : key = id
      · simp [hkey, hobject]
      · simp [hkey]

/-- After a program has been set, its object is there with the new source, and every other object is
found as before. -/
lemma object?_setProgram :
    (s.setProgram id code).object? key =
      if key = id then
        some { (s.object? id).getD (bareCircuit id code) with sourceCode := some code }
      else s.object? key := by
  have hobjects : (s.setProgram id code).objects =
      if s.contains id then
        updateFirst id (fun object => { object with sourceCode := some code }) s.objects
      else s.objects ++ [bareCircuit id code] := rfl
  unfold object?
  rw [hobjects]
  by_cases hcontains : s.contains id = true
  · rw [if_pos hcontains, find?_updateFirst (by intro object; rfl)]
    obtain ⟨object, hobject⟩ := Option.isSome_iff_exists.1 hcontains
    unfold object? at hobject
    by_cases hkey : key = id
    · rw [if_pos hkey, if_pos hkey, hkey, hobject]
      rfl
    · rw [if_neg hkey, if_neg hkey]
  · rw [if_neg hcontains, List.find?_append]
    have hnone : s.objects.find? (·.id = id) = none := by
      simpa [contains, object?] using hcontains
    by_cases hkey : key = id
    · rw [if_pos hkey, hkey, hnone]
      simp [bareCircuit]
    · rw [if_neg hkey]
      simp [bareCircuit, Ne.symm hkey]

/-- Setting a program adds its object, if it is not there, and drops none. -/
lemma contains_setProgram {other : ObjectId} :
    (s.setProgram id code).contains other ↔ other = id ∨ s.contains other := by
  unfold contains
  rw [object?_setProgram]
  split_ifs with hother
  · simp [hother]
  · simp [hother]

/-- The program holders stay in their order, and the id comes last if it is not among them. -/
lemma programHolders_setProgram :
    (s.setProgram id code).programHolders =
      if id ∈ s.programHolders then s.programHolders else s.programHolders ++ [id] := by
  unfold setProgram
  dsimp only
  simp only [List.contains_iff_mem]

/-- Setting a program makes its object a program holder, and no other. -/
lemma mem_programHolders_setProgram :
    key ∈ (s.setProgram id code).programHolders ↔ key = id ∨ key ∈ s.programHolders := by
  rw [programHolders_setProgram]
  split_ifs with hholder
  · exact ⟨.inr, fun h => h.elim (fun heq => heq ▸ hholder) (fun hkey => hkey)⟩
  · rw [List.mem_append, List.mem_singleton, or_comm]

/-- The holders after a program has been set are those before and perhaps its object. -/
lemma mem_holders_setProgram {holder : ObjectId}
    (h : holder ∈ (s.setProgram id code).circuitHolders ++ (s.setProgram id code).programHolders) :
    holder = id ∨ holder ∈ s.circuitHolders ++ s.programHolders := by
  rw [List.mem_append, mem_programHolders_setProgram] at h
  rw [List.mem_append]
  rcases h with hcircuit | rfl | hprogram
  · exact .inr (.inl hcircuit)
  · exact .inl rfl
  · exact .inr (.inr hprogram)

/-- **Setting a program is binding it in the table of programs.** -/
theorem programSources_setProgram :
    (s.setProgram id code).programSources = s.programSources.insert id code := by
  refine Table.ext_get? fun key => ?_
  rw [Table.get?_insert, get?_programSources, get?_programSources, object?_setProgram]
  by_cases hkey : key = id
  · rw [if_pos (mem_programHolders_setProgram.2 (.inl hkey)), if_pos hkey, if_pos hkey]
    rfl
  · simp only [mem_programHolders_setProgram, hkey, false_or, if_false]

/-- After programs have been set one after another, each id is bound to the last text that was set
for it, and to what it was bound to before if there was none. -/
theorem get?_programSources_foldl (entries : List (ObjectId × String)) :
    (entries.foldl (fun s entry => s.setProgram entry.1 entry.2) s).programSources.get? key =
      (Assoc.last? key entries).or (s.programSources.get? key) := by
  induction entries using List.reverseRecOn with
  | nil => rfl
  | append_singleton entries entry ih =>
    rw [List.foldl_append, List.foldl_cons, List.foldl_nil, programSources_setProgram,
      Table.get?_insert, ih, Assoc.last?_concat]
    split_ifs <;> rfl

/-! ## The ids of the objects -/

/-- Changing an object other than in its id changes no id. -/
lemma ids_updateFirst {change : Object → Object}
    (hchange : ∀ object, (change object).id = object.id) (objects : List Object) :
    (updateFirst id change objects).map (·.id) = objects.map (·.id) := by
  induction objects with
  | nil => rfl
  | cons object rest ih =>
    rw [updateFirst]
    split_ifs
    · rw [List.map_cons, List.map_cons, hchange]
    · rw [List.map_cons, List.map_cons, ih]

/-- Setting a program adds its id if there was no such object, and changes no other. -/
lemma ids_setProgram :
    (s.setProgram id code).objects.map (·.id) =
      if s.contains id then s.objects.map (·.id) else s.objects.map (·.id) ++ [id] := by
  unfold setProgram
  dsimp only
  split_ifs
  · exact ids_updateFirst (by intro object; rfl) s.objects
  · rw [List.map_append]
    rfl

/-- Setting a program leaves the ids of the objects distinct. -/
lemma nodup_ids_setProgram (h : (s.objects.map (·.id)).Nodup) :
    ((s.setProgram id code).objects.map (·.id)).Nodup := by
  rw [ids_setProgram]
  split_ifs with hcontains
  · exact h
  · have hnew : id ∉ s.objects.map (·.id) := by
      simpa [contains, object?] using hcontains
    rw [List.nodup_append_comm]
    exact List.nodup_cons.2 ⟨hnew, h⟩

/-! ## The rest of the snapshot -/

/-- Setting a source among objects: the first object with the id gets it and stays as it is
otherwise, or there is no such object and a bare circuit comes last. -/
inductive SetsSource (id : ObjectId) (code : String) : List Object → List Object → Prop
  | changed (before after : List Object) {object : Object} (hid : object.id = id)
      (hfirst : ∀ other ∈ before, other.id ≠ id) :
      SetsSource id code (before ++ object :: after)
        (before ++ { object with sourceCode := some code } :: after)
  | added {objects : List Object} (hnew : ∀ object ∈ objects, object.id ≠ id) :
      SetsSource id code objects (objects ++ [bareCircuit id code])

/-- The first object with an id gets the source where there is one. -/
lemma setsSource_updateFirst {objects : List Object} (h : ∃ object ∈ objects, object.id = id) :
    SetsSource id code objects
      (updateFirst id (fun object => { object with sourceCode := some code }) objects) := by
  induction objects with
  | nil =>
    obtain ⟨object, hobject, -⟩ := h
    cases hobject
  | cons object rest ih =>
    rw [updateFirst]
    split_ifs with hid
    · exact .changed [] rest hid (List.forall_mem_nil _)
    · -- the object is passed over, so the one that changes is further on
      have hrest : ∃ other ∈ rest, other.id = id := by
        obtain ⟨other, hother, hfound⟩ := h
        rcases List.mem_cons.1 hother with rfl | hother
        · exact absurd hfound hid
        · exact ⟨other, hother, hfound⟩
      generalize updateFirst id _ rest = rest' at ih ⊢
      cases ih hrest with
      | changed before after hchanged hfirst =>
        exact .changed (object :: before) after hchanged (List.forall_mem_cons.2 ⟨hid, hfirst⟩)
      | added hnew =>
        obtain ⟨other, hother, hfound⟩ := hrest
        exact absurd hfound (hnew other hother)

/-- Setting a program sets a source among the objects. -/
lemma setsSource_setProgram : SetsSource id code s.objects (s.setProgram id code).objects := by
  have hcontains : s.contains id = true ↔ ∃ object ∈ s.objects, object.id = id := by
    simp [contains, object?]
  unfold setProgram
  dsimp only
  split_ifs with h
  · exact setsSource_updateFirst (hcontains.1 h)
  · refine .added fun object hobject hid => h (hcontains.2 ⟨object, hobject, hid⟩)

/-- Setting a program leaves the program holders distinct. -/
lemma nodup_programHolders_setProgram (h : s.programHolders.Nodup) :
    (s.setProgram id code).programHolders.Nodup := by
  rw [programHolders_setProgram]
  split_ifs with hholder
  · exact h
  · rw [List.nodup_append_comm]
    exact List.nodup_cons.2 ⟨hholder, h⟩

/-- What becomes of a snapshot when one program is set: its table binds the id and is the same
otherwise, one object gets the source or is added, what was distinct stays so, holders stay with
their objects, and the rest is left alone. -/
structure BindsProgram (s : Snapshot) (id : ObjectId) (code : String) (t : Snapshot) : Prop where
  get?_programSources : ∀ key, t.programSources.get? key =
    if key = id then some code else s.programSources.get? key
  objects : SetsSource id code s.objects t.objects
  nodup_ids : (s.objects.map (·.id)).Nodup → (t.objects.map (·.id)).Nodup
  nodup_programHolders : s.programHolders.Nodup → t.programHolders.Nodup
  programHolders : ∀ holder ∈ s.programHolders, s.contains holder →
    holder ∈ t.programHolders ∧ t.contains holder
  circuitHolders : ∀ holder ∈ s.circuitHolders, s.contains holder → t.contains holder
  circuitHolders_eq : t.circuitHolders = s.circuitHolders
  networks_eq : t.networks = s.networks
  defaultNetwork_eq : t.defaultNetwork = s.defaultNetwork

/-- **Setting programs is updating a map**, on every snapshot.  One program is bound in the table,
with one object changed in its source or added; and after programs have been set one after another
the table is the one before, overwritten for each id by the last text that was set for it. -/
theorem bindsProgram_setProgram (s : Snapshot) :
    (∀ id code, s.BindsProgram id code (s.setProgram id code)) ∧
    ∀ (entries : List (ObjectId × String)) key,
      (entries.foldl (fun s entry => s.setProgram entry.1 entry.2) s).programSources.get? key =
        (Assoc.last? key entries).or (s.programSources.get? key) := by
  refine ⟨fun id code => ?_, fun entries key => get?_programSources_foldl entries⟩
  refine
    { get?_programSources := fun key => ?_
      objects := setsSource_setProgram
      nodup_ids := nodup_ids_setProgram
      nodup_programHolders := nodup_programHolders_setProgram
      programHolders := fun holder hholder hthere => ?_
      circuitHolders := fun holder _ hthere => contains_setProgram.2 (.inr hthere)
      circuitHolders_eq := rfl
      networks_eq := rfl
      defaultNetwork_eq := rfl }
  · rw [programSources_setProgram, Table.get?_insert]
  · exact ⟨mem_programHolders_setProgram.2 (.inr hholder), contains_setProgram.2 (.inr hthere)⟩

end SessionVault.Snapshot
