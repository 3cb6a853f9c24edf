import SessionVault.Proofs.Session.Sharing
/-!
# Links without a machine

Links may carry programs without a machine.  The programs are then set in the machine of the demo,
whatever ids they have: that of the demo's circuit, of its housing, of its network, or of nothing
there.  Setting a program adds its object and its holder together, so the machine takes the result
(`Demo.danglingHolder?_seeded`), and such links always open.  What they open is `Workspace.Opened`:
the listed programs, with the demo's own where its circuit is not listed, and the focus on one of
them.
-/

namespace SessionVault

/-! ## The machine of the demo with programs -/

namespace Demo

/-- What holds of the demo and is kept when a program is set holds of the demo with programs. -/
lemma seeded_induction {P : Snapshot → Prop} (hdemo : P snapshot)
    (hset : ∀ s id code, P s → P (s.setProgram id code)) (programs : Table ObjectId String) :
    P (seeded programs) :=
  List.foldlRecOn programs.entries _ hdemo fun s hs entry _ => hset s entry.1 entry.2 hs

/-- No holder is missing in the demo, whatever programs are set in it. -/
lemma danglingHolder?_seeded (programs : Table ObjectId String) :
    Machine.danglingHolder? (seeded programs) = none :=
  seeded_induction (P := fun s => Machine.danglingHolder? s = none) (by decide)
    (fun _ id code hs => danglingHolder?_setProgram hs id code) programs

/-- The objects of the demo have distinct ids, whatever programs are set in it. -/
lemma nodup_ids_seeded (programs : Table ObjectId String) :
    ((seeded programs).objects.map (·.id)).Nodup :=
  seeded_induction (P := fun s => (s.objects.map (·.id)).Nodup) (by decide)
    (fun _ _ _ hs => Snapshot.nodup_ids_setProgram hs) programs

/-- The demo has one program, that of its circuit. -/
lemma get?_programSources_snapshot (id : ObjectId) :
    snapshot.programSources.get? id = if id = circuitId then some program else none := by
  rw [Snapshot.get?_programSources]
  have hholders : id ∈ snapshot.programHolders ↔ id = circuitId := List.mem_singleton
  by_cases hid : id = circuitId
  · rw [if_pos (hholders.2 hid), if_pos hid, hid]
    rfl
  · rw [if_neg (mt hholders.1 hid), if_neg hid]

/-- The demo with programs has these programs, and its own if its circuit got none. -/
lemma get?_programSources_seeded (programs : Table ObjectId String) (id : ObjectId) :
    (seeded programs).programSources.get? id =
      (programs.get? id).or (if id = circuitId then some program else none) := by
  rw [seeded, Snapshot.get?_programSources_foldl, Table.last?_entries, get?_programSources_snapshot]

end Demo

namespace Workspace

/-! ## The focus -/

/-- The focus for listed programs: the circuit of the demo if that is listed or nothing is, and else
the smallest id that is listed. -/
def IsFocus (listed : List (ObjectId × String)) (active : ObjectId) : Prop :=
  if Demo.circuitId ∈ listed.map (·.1) ∨ listed = [] then active = Demo.circuitId
  else active ∈ listed.map (·.1) ∧ ∀ id ∈ listed.map (·.1), active ≤ id

/-- The first key of a table is the smallest. -/
lemma head?_keys_le {programs : Table ObjectId String} {first : ObjectId}
    (h : programs.keys.head? = some first) : ∀ id ∈ programs.keys, first ≤ id := by
  have hordered := programs.ordered
  unfold Table.keys at h ⊢
  cases hentries : programs.entries with
  | nil =>
    rw [hentries] at h
    cases h
  | cons entry rest =>
    rw [hentries] at h hordered
    cases h
    rintro id hid
    rcases List.mem_cons.1 hid with rfl | hid
    · exact UInt32.le_refl _
    · obtain ⟨other, hother, rfl⟩ := List.mem_map.1 hid
      have hlt := (List.pairwise_cons.1 hordered).1 other hother
      exact UInt32.le_of_lt (compareOfLessAndEq_eq_lt.1 hlt)

/-- The keys of a table of listed programs are the listed ids. -/
lemma mem_keys_ofList {listed : List (ObjectId × String)} {id : ObjectId} :
    id ∈ (Table.ofList listed).keys ↔ id ∈ listed.map (·.1) := Assoc.mem_keys_ofList_iff

/-- The initial focus for listed programs. -/
lemma isFocus_initialFocus (listed : List (ObjectId × String)) :
    IsFocus listed (initialFocus (.ofList listed)) := by
  have hcontains : (Table.ofList listed).contains Demo.circuitId ↔
      Demo.circuitId ∈ listed.map (·.1) := by
    rw [Table.contains, ← mem_keys_ofList, Option.isSome_iff_ne_none]
    exact not_iff_comm.1 Assoc.get?_eq_none_iff.symm
  unfold IsFocus initialFocus
  by_cases hcircuit : Demo.circuitId ∈ listed.map (·.1)
  · rw [if_pos (.inl hcircuit), if_pos (hcontains.2 hcircuit)]
  · rw [if_neg (mt hcontains.1 hcircuit)]
    cases hfirst : (Table.ofList listed).keys.head? with
    | none =>
      have hlisted : listed = [] := by
        rw [List.head?_eq_none_iff] at hfirst
        cases listed with
        | nil => rfl
        | cons entry rest =>
          have hentry : entry.1 ∈ (Table.ofList (entry :: rest)).keys :=
            mem_keys_ofList.2 List.mem_cons_self
          rw [hfirst] at hentry
          cases hentry
      rw [if_pos (.inr hlisted)]
      rfl
    | some first =>
      have hmem : first ∈ listed.map (·.1) :=
        mem_keys_ofList.1 (List.mem_of_mem_head? hfirst)
      have hne : listed ≠ [] := by
        rintro rfl
        cases hmem
      rw [if_neg (not_or.2 ⟨hcircuit, hne⟩)]
      exact ⟨hmem, fun id hid => head?_keys_le hfirst id (mem_keys_ofList.2 hid)⟩

/-! ## What is opened -/

/-- The texts of listed programs by id: the last one listed, and the program of the demo for its
circuit if none is. -/
def listedText? (listed : List (ObjectId × String)) (id : ObjectId) : Option String :=
  (Assoc.last? id listed).or (if id = Demo.circuitId then some Demo.program else none)

/-- A session has been opened anew: it is ready, with the given focus and the given texts and
nothing else, the focus has a text, the machine has the same programs and no two objects with one
id, and exactly two events tell of it. -/
structure Opened (before after : Workspace) (active : ObjectId) (text? : ObjectId → Option String) :
    Prop where
  phase_eq : after.phase = .ready
  session : ∃ state, after.state = some state ∧ state.active = active ∧
    (∀ id, state.programs.get? id = text? id) ∧ state.activeSource?.isSome ∧
    after.machine.programSources = .ok state.programs ∧ state.errors = ∅ ∧ state.lines = ∅
  nodup_ids : (after.machine.snapshot.objects.map (·.id)).Nodup
  events_eq : after.events = before.events ++ [.sessionLoaded, .activeObjectChanged active]

/-- Over a machine in memory, programs are opened on top of the demo. -/
lemma exists_opened {w : Workspace} (hw : w.machine.IsMemory) {e : Envelope}
    {programs : Table ObjectId String} {active : ObjectId}
    (hrequested : requested e = (Demo.seeded programs, active)) {text? : ObjectId → Option String}
    (htext : ∀ id, (Demo.seeded programs).programSources.get? id = text? id)
    (hactive : (text? active).isSome) :
    ∃ w', w.load (.ok e) = (.ok (), w') ∧ Opened w w' active text? := by
  have hdangling : Machine.danglingHolder? (requested e).1 = none := by
    rw [hrequested]
    exact Demo.danglingHolder?_seeded programs
  refine ⟨_, load_requested hw hdangling, ?_⟩
  rw [hrequested]
  refine ⟨rfl, ⟨_, rfl, rfl, htext, ?_, ?_, rfl, rfl⟩, Demo.nodup_ids_seeded programs, rfl⟩
  · rw [SessionState.activeSource?, htext]
    exact hactive
  · unfold Machine.programSources
    rw [hw.refusals]
    rfl

/-- The focus for listed programs has a text. -/
lemma IsFocus.isSome_listedText? {listed : List (ObjectId × String)} {active : ObjectId}
    (h : IsFocus listed active) : (listedText? listed active).isSome := by
  unfold IsFocus at h
  unfold listedText?
  split_ifs at h
  · rw [h, if_pos rfl, Option.isSome_or]
    simp
  · have hlast : Assoc.last? active listed ≠ none := by
      rw [← Assoc.get?_ofList, Ne, Assoc.get?_eq_none_iff, Assoc.mem_keys_ofList_iff, not_not]
      exact h.1
    rw [Option.isSome_or, Option.isSome_iff_ne_none.2 hlast]
    rfl

/-- Over a machine in memory, listed programs are opened with the texts and the focus of the
list. -/
lemma exists_opened_programs {w : Workspace} (hw : w.machine.IsMemory)
    (listed : List (ObjectId × String)) :
    ∃ active, IsFocus listed active ∧ ∃ w', w.load (.ok (.programs listed)) = (.ok (), w') ∧
      Opened w w' active (listedText? listed) := by
  have hfocus := isFocus_initialFocus listed
  refine ⟨_, hfocus, exists_opened hw rfl (fun id => ?_) hfocus.isSome_listedText?⟩
  rw [Demo.get?_programSources_seeded, listedText?, ← Assoc.get?_ofList]
  rfl

/-- Over a machine in memory, a bare program is opened as the only one, in the demo's circuit. -/
lemma exists_opened_source {w : Workspace} (hw : w.machine.IsMemory) (text : String) :
    ∃ w', w.load (.ok (.source text)) = (.ok (), w') ∧
      Opened w w' Demo.circuitId fun id => if id = Demo.circuitId then some text else none := by
  have hrequested : requested (.source text) =
      (Demo.seeded (.ofList [(Demo.circuitId, text)]), Demo.circuitId) := rfl
  refine exists_opened hw hrequested (fun id => ?_) rfl
  have hget : (Table.ofList [(Demo.circuitId, text)]).get? id =
      if id = Demo.circuitId then some text else none := Assoc.get?_insert
  rw [Demo.get?_programSources_seeded, hget]
  split_ifs <;> rfl

end Workspace

namespace Controller

/-- A way of loading finds an envelope: it is given it, or a token of it, or an address whose
fragment is such a token but for white space around it. -/
inductive Load.Finds (w : Workspace) (e : Envelope) : Load → Prop
  | envelope : Finds w e (.envelope e)
  | token {text : String} (h : Envelope.ofToken text = .ok e) : Finds w e (.token text)
  | url {address : String}
      (h : Envelope.ofToken (String.ofList (trim (fragmentOf address).toList)) = .ok e) :
      Finds w e (.url address)
  | fragment (h : Envelope.ofToken (String.ofList (trim w.location.fragment.toList)) = .ok e) :
      Finds w e .fragment

/-- Whichever way an envelope is found, it is loaded. -/
lemma Load.Finds.exists_run {c : Controller} {e : Envelope} {source : Load}
    (hsource : source.Finds c.world e) {w : Workspace}
    (hload : c.world.load (.ok e) = (.ok (), w)) :
    ∃ c', source.operation.run c = (.ok (), c') ∧ c'.world = w := by
  cases hsource with
  | envelope =>
    refine ⟨Timeline.schedule { c with world := w }, ?_, rfl⟩
    change (act _ >>= fun _ => schedule).run c = _
    have hact : (act (·.load (.ok e))).run c = (.ok (), { c with world := w }) := by
      rw [run_act, hload]
    rw [run_bind_ok hact]
    rfl
  | @token text h =>
    refine ⟨{ c with world := w }, ?_, rfl⟩
    unfold operation loadToken
    have hloads : c.world.loadToken text = c.world.load (.ok e) := by
      rw [Workspace.loadToken, h]
      rfl
    rw [run_act, hloads, hload]
  | url h =>
    refine ⟨{ c with world := w }, ?_, rfl⟩
    unfold operation
    rw [run_discard, run_loadUrl, Workspace.loadFragment_of_ofToken h, hload]
    rfl
  | fragment h =>
    refine ⟨{ c with world := w }, ?_, rfl⟩
    unfold operation loadFragment
    rw [run_discard, run_act, Workspace.loadFragment_of_ofToken h, hload]
    rfl

/-- **Links without a machine always open.**  Over a machine in memory, in whatever state the
controller and the machine are, listed programs are loaded, whatever ids they are listed for, and so
is a bare program.  Then each id has the text listed last for it, and the demo's circuit its own
program if it is not listed; the focus is the demo's circuit if that is listed or nothing is, and
else the smallest listed id.  A bare program is the only one, in the demo's circuit. -/
theorem opened_of_finds {c : Controller} (hc : OverMemory c.world) :
    (∀ (listed : List (ObjectId × String)) (source : Load),
      source.Finds c.world (.programs listed) →
      ∃ active, Workspace.IsFocus listed active ∧
        ∃ c' : Controller, source.operation.run c = (.ok (), c') ∧
          Workspace.Opened c.world c'.world active (Workspace.listedText? listed)) ∧
    ∀ (text : String) (source : Load), source.Finds c.world (.source text) →
      ∃ c' : Controller, source.operation.run c = (.ok (), c') ∧
        Workspace.Opened c.world c'.world Demo.circuitId
          fun id => if id = Demo.circuitId then some text else none := by
  constructor
  · intro listed source hsource
    obtain ⟨active, hfocus, w, hload, hopened⟩ := Workspace.exists_opened_programs hc listed
    obtain ⟨c', hrun, rfl⟩ := hsource.exists_run hload
    exact ⟨active, hfocus, c', hrun, hopened⟩
  · intro text source hsource
    obtain ⟨w, hload, hopened⟩ := Workspace.exists_opened_source hc text
    obtain ⟨c', hrun, rfl⟩ := hsource.exists_run hload
    exact ⟨c', hrun, hopened⟩

/-- Four programs that are listed for three ids, two of them those of the housing and the network of
the demo. -/
def listedExample : List (ObjectId × String) := [(7, "yield"), (2, "j ra"), (7, "hcf"), (3, "")]

/-- The listed programs are given as they are, and a bare one in a token, to a controller that has a
session already. -/
theorem opened_of_finds_programExample :
    OverMemory programExample.world ∧
      (∃ c' : Controller,
        (Load.envelope (.programs listedExample)).operation.run programExample = (.ok (), c') ∧
        Workspace.Opened programExample.world c'.world 2 (Workspace.listedText? listedExample)) ∧
      [1, 2, 3, 7, 9].map (Workspace.listedText? listedExample) =
        [some Demo.program, some "j ra", some "", some "hcf", none] ∧
      ∃ token, Envelope.ofToken token = .ok (.source "yield") ∧
        ∃ c' : Controller, (Load.token token).operation.run programExample = (.ok (), c') ∧
          Workspace.Opened programExample.world c'.world Demo.circuitId
            fun id => if id = Demo.circuitId then some "yield" else none := by
  have hmemory : OverMemory programExample.world := ⟨rfl, rfl⟩
  obtain ⟨active, hfocus, hlisted⟩ := (opened_of_finds hmemory).1 listedExample _ .envelope
  have hactive : active = 2 := by
    have hunlisted : ¬(Demo.circuitId ∈ listedExample.map (·.1) ∨ listedExample = []) := by decide
    rw [Workspace.IsFocus, if_neg hunlisted] at hfocus
    have hleast : ∀ id ∈ listedExample.map (·.1), id ≤ 2 → id = 2 := by simp [listedExample]
    exact hleast active hfocus.1 (hfocus.2 2 (by decide))
  subst hactive
  have htoken := Envelope.ofToken_ofBytes (.source "yield") .zstd .fast
  exact ⟨hmemory, hlisted, rfl, _, htoken, (opened_of_finds hmemory).2 "yield" _ (.token htoken)⟩

end Controller

end SessionVault
