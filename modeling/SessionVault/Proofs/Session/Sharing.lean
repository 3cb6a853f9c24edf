import Mathlib.Data.List.TakeWhile
import SessionVault.Proofs.Session.Loading
import SessionVault.Proofs.Share.Envelope
import SessionVault.Proofs.Snapshot.Programs
/-!
# Share links reopen their session

A share link carries the machine's snapshot and the focus.  That another controller can open it
rests on three facts: the token is the fragment of the link, whatever the address before it; the
token is neither empty nor the word reserved for the demo, since neither of these carries an
envelope; and the other machine takes the snapshot, since in every run from a new machine all
objects that are called holders are there (`Machine.IsWhole`).
-/

namespace SessionVault

/-! ## Machines whose holders are there -/

/-- Every object that the state of a machine calls a holder is there. -/
def Machine.IsWhole (m : Machine) : Prop := Machine.danglingHolder? m.snapshot = none

/-- No holder is missing when all holders are there. -/
lemma Machine.danglingHolder?_eq_none_iff {s : Snapshot} :
    Machine.danglingHolder? s = none ↔
      ∀ id ∈ s.circuitHolders ++ s.programHolders, s.contains id := by
  rw [Machine.danglingHolder?, List.find?_eq_none]
  simp

/-- Setting a program leaves no holder missing. -/
lemma danglingHolder?_setProgram {s : Snapshot} (h : Machine.danglingHolder? s = none)
    (id : ObjectId) (code : String) : Machine.danglingHolder? (s.setProgram id code) = none := by
  rw [Machine.danglingHolder?_eq_none_iff] at h ⊢
  intro holder hholder
  rw [Snapshot.contains_setProgram]
  rcases Snapshot.mem_holders_setProgram hholder with rfl | hmem
  · exact .inl rfl
  · exact .inr (h holder hmem)

/-- A machine takes only snapshots whose holders are there. -/
lemma danglingHolder?_of_restore {m m' : Machine} {s : Snapshot} (h : m.restore s = .ok m') :
    Machine.danglingHolder? s = none := by
  unfold Machine.restore at h
  cases hrefused : Machine.unlessRefused m.refusals.restore with
  | error failure =>
    rw [hrefused] at h
    cases h
  | ok _ =>
    rw [hrefused] at h
    cases hdangling : Machine.danglingHolder? s with
    | some id =>
      rw [hdangling] at h
      cases h
    | none => rfl

/-- Whatever is done to a machine, its holders stay there. -/
lemma isKept_isWhole : Machine.IsKept Machine.IsWhole where
  restore _ hrestore := by
    rw [Controller.eq_of_restore hrestore]
    exact danglingHolder?_of_restore hrestore
  updateCode hm hupdate := by
    rw [Controller.eq_of_updateCode hupdate]
    exact danglingHolder?_setProgram hm _ _

/-- A machine in memory takes every snapshot whose holders are there. -/
lemma Machine.IsMemory.restore_eq {m : Machine} (hm : m.IsMemory) {s : Snapshot}
    (hs : Machine.danglingHolder? s = none) : m.restore s = .ok { m with snapshot := s } := by
  rw [Machine.restore, hm.refusals, hs]
  rfl

/-- A machine in memory lets every program be set. -/
lemma Machine.IsMemory.updateCode_eq {m : Machine} (hm : m.IsMemory) (id : ObjectId)
    (code : String) :
    m.updateCode id code = .ok { m with snapshot := m.snapshot.setProgram id code } := by
  rw [Machine.updateCode, hm.refusals]
  rfl

/-! ## Addresses -/

/-- What stands before a fragment has no `#`. -/
lemma ne_of_mem_withoutFragment (url : String) :
    ∀ c ∈ (withoutFragment url).toList, decide (c ≠ '#') = true := by
  intro c hc
  unfold withoutFragment at hc
  rw [String.toList_ofList] at hc
  exact List.all_eq_true.1 List.all_takeWhile c hc

/-- The fragment of a link is the token that was put there, whatever address it was put on. -/
lemma fragmentOf_link (url token : String) :
    fragmentOf (withoutFragment url ++ "#" ++ token) = token := by
  unfold fragmentOf
  rw [String.toList_append, String.toList_append, List.append_assoc,
    List.dropWhile_append_of_pos (ne_of_mem_withoutFragment url)]
  change String.ofList token.toList = token
  exact String.ofList_toList

/-- Putting a token on an address makes it the fragment. -/
lemma fragmentOf_withFragment (url token : String) :
    fragmentOf (withFragment url token) = token := by
  unfold withFragment
  split_ifs with hempty
  · have hnothing : (withoutFragment url).toList.dropWhile (· ≠ '#') = [] :=
      List.dropWhile_eq_nil_iff.2 (ne_of_mem_withoutFragment url)
    rw [fragmentOf, hnothing, String.isEmpty_iff.1 hempty]
    rfl
  · exact fragmentOf_link url token

/-- Putting a token on an address leaves what stands before the fragment. -/
lemma withoutFragment_withFragment (url token : String) :
    withoutFragment (withFragment url token) = withoutFragment url := by
  have hall : (withoutFragment url).toList.takeWhile (· ≠ '#') = (withoutFragment url).toList :=
    List.takeWhile_eq_self_iff.2 (ne_of_mem_withoutFragment url)
  unfold withFragment
  split_ifs
  · rw [withoutFragment, hall, String.ofList_toList]
  · rw [withoutFragment, String.toList_append, String.toList_append, List.append_assoc,
      List.takeWhile_append_of_pos (ne_of_mem_withoutFragment url)]
    change String.ofList ((withoutFragment url).toList ++ []) = _
    rw [List.append_nil, String.ofList_toList]

/-! ## Tokens -/

namespace Envelope

/-- The empty text and the word for the demo carry no envelope. -/
lemma ofToken_reserved : (ofToken "").isOk = false ∧ (ofToken demoFragment).isOk = false :=
  ⟨rfl, rfl⟩

/-- A token that carries an envelope is neither empty nor the word for the demo. -/
lemma ne_reserved_of_ofToken {token : String} {e : Envelope} (h : ofToken token = .ok e) :
    token ≠ "" ∧ token ≠ demoFragment := by
  obtain ⟨hempty, hdemo⟩ := ofToken_reserved
  constructor
  · rintro rfl
    rw [h] at hempty
    cases hempty
  · rintro rfl
    rw [h] at hdemo
    cases hdemo

end Envelope

namespace Workspace

/-- Over a machine in memory, an envelope is loaded if all holders are there in the snapshot that it
asks for: the machine has that snapshot, the session its programs and the focus, and two events tell
of it. -/
lemma load_requested {w : Workspace} (hw : w.machine.IsMemory) {e : Envelope}
    (hs : Machine.danglingHolder? (requested e).1 = none) :
    w.load (.ok e) = (.ok (), { w with
      phase := .ready
      machine := { w.machine with snapshot := (requested e).1 }
      state := some { active := (requested e).2, programs := (requested e).1.programSources }
      events := w.events ++ [.sessionLoaded, .activeObjectChanged (requested e).2] }) := by
  have hrestore : { w with phase := .loading }.restore (requested e).1 (requested e).2 =
      (.ok { active := (requested e).2, programs := (requested e).1.programSources },
        { w with
          phase := .loading
          machine := { w.machine with snapshot := (requested e).1 } }) := by
    unfold restore
    dsimp only
    rw [hw.restore_eq hs]
    dsimp only
    rw [Controller.programSources_ok hw (hw.restore_eq hs)]
    rfl
  unfold load
  dsimp only
  rw [hrestore]
  simp only [emit, List.append_assoc, List.cons_append, List.nil_append]

/-- Over a machine in memory, a session whose holders are there is loaded as it is. -/
lemma load_session {w : Workspace} (hw : w.machine.IsMemory) {s : Snapshot}
    (hs : Machine.danglingHolder? s = none) (active : ObjectId) :
    ∃ w', w.load (.ok (.session s active)) = (.ok (), w') ∧ w'.machine.snapshot = s ∧
      w'.state = some { active, programs := s.programSources } :=
  ⟨_, load_requested hw (e := .session s active) hs, rfl, rfl⟩

/-- A fragment that is the token of an envelope, but for white space around it, loads that
envelope. -/
lemma loadFragment_of_ofToken {w : Workspace} {fragment : String} {e : Envelope}
    (h : Envelope.ofToken (String.ofList (trim fragment.toList)) = .ok e) :
    w.loadFragment fragment = ((w.load (.ok e)).1.map fun _ => true, (w.load (.ok e)).2) := by
  obtain ⟨hempty, hdemo⟩ := Envelope.ne_reserved_of_ofToken h
  unfold loadFragment loadToken
  dsimp only
  rw [if_neg (by simpa using hempty), if_neg hdemo, h]
  rfl

/-- A fragment that was written as the token of an envelope loads that envelope. -/
lemma loadFragment_ofBytes {w : Workspace} {bytes : Bytes} {e : Envelope}
    (h : Envelope.ofToken (Token.ofBytes bytes) = .ok e) :
    w.loadFragment (Token.ofBytes bytes) =
      ((w.load (.ok e)).1.map fun _ => true, (w.load (.ok e)).2) := by
  apply loadFragment_of_ofToken
  rw [Token.trim_ofBytes, String.ofList_toList, h]

end Workspace

namespace Controller

/-! ## Runs from a new machine -/

/-- A controller after a number of requests. -/
def askAll (requests : List Request) (c : Controller) : Controller :=
  requests.foldl (fun c request => (request.operation.run c).2) c

/-- What every request keeps of the machine, a run keeps. -/
lemma askAll_keeps_machine {Q : Machine → Prop} (hkept : Machine.IsKept Q)
    (requests : List Request) {c : Controller} (hc : Q c.world.machine) :
    Q (askAll requests c).world.machine := by
  induction requests generalizing c with
  | nil => exact hc
  | cons request requests ih => exact ih (request.keeps_machine hkept c hc)

/-! ## Sharing -/

/-- A machine in memory gives its snapshot at once. -/
lemma run_takeSnapshot {c : Controller} (hc : OverMemory c.world) :
    takeSnapshot.run c = (.ok c.world.machine.snapshot, c) := by
  unfold takeSnapshot
  rw [run_workspace_bind, run_bind, hc.refusals, hc.delay]
  rfl

/-- Loading a link loads its fragment. -/
lemma run_loadUrl (url : String) (c : Controller) :
    (loadUrl url).run c = ((c.world.loadFragment (fragmentOf url)).1,
      { c with world := (c.world.loadFragment (fragmentOf url)).2 }) := by
  unfold loadUrl
  exact run_act _ c

/-- A loaded session over a machine in memory has a token. -/
lemma run_currentToken {c : Controller} (hc : OverMemory c.world) {state : SessionState}
    (hstate : c.world.state = some state) {token : String}
    (htoken : c.world.token c.world.machine.snapshot state.active = .ok token) :
    currentToken.run c = (.ok (some token), c) := by
  have hgiven : (result (c.world.token c.world.machine.snapshot state.active)).run c =
      (.ok token, c) := by
    rw [htoken]
    rfl
  unfold currentToken
  rw [run_workspace_bind, hstate]
  dsimp only
  rw [run_bind_ok (run_takeSnapshot hc), run_workspace_bind, run_bind_ok hgiven]
  rfl

/-- A loaded session over a machine in memory has a share link. -/
lemma run_shareLink {c : Controller} (hc : OverMemory c.world) {state : SessionState}
    (hstate : c.world.state = some state) {token : String}
    (htoken : c.world.token c.world.machine.snapshot state.active = .ok token) :
    shareLink.run c =
      (.ok (withoutFragment c.world.settings.baseUrl ++ "#" ++ token), c) := by
  unfold shareLink
  rw [run_bind_ok (run_currentToken hc hstate htoken)]
  rfl

/-- **A share link reopens the session it was made from.**  Whatever a controller over a new machine
has been asked, once a session is loaded it has a share link, and any other controller over a
machine in memory that loads the link has the same snapshot in its machine, the same focus, and the
programs of the first machine, without compile errors and lines in focus. -/
theorem loadUrl_shareLink {settings : Settings} {location : Location}
    {folder : Option StoreFolder} {disk : Disk} {new : Controller}
    (hstart : start settings {} location folder disk = .ok new) (requests : List Request)
    {state : SessionState} (hstate : (askAll requests new).world.state = some state)
    {other : Controller} (hother : OverMemory other.world) :
    ∃ link, (shareLink.run (askAll requests new)).1 = .ok link ∧
      ∃ reopened, (loadUrl link).run other = (.ok true, reopened) ∧
        reopened.world.machine.snapshot = (askAll requests new).world.machine.snapshot ∧
        ∃ opened, reopened.world.state = some opened ∧
          opened.active = state.active ∧
          (askAll requests new).world.machine.programSources = .ok opened.programs ∧
          opened.errors = ∅ ∧ opened.lines = ∅ := by
  have hmachine := machine_start hstart
  have hmemory : OverMemory (askAll requests new).world :=
    askAll_keeps_machine isKept_isMemory requests (by rw [hmachine]; exact ⟨rfl, rfl⟩)
  have hwhole : (askAll requests new).world.machine.IsWhole :=
    askAll_keeps_machine isKept_isWhole requests (by rw [hmachine]; rfl)
  generalize askAll requests new = c at hstate hmemory hwhole
  -- the token is that of the snapshot as it is, with the focus as it is
  have hread := Envelope.ofToken_ofBytes (.session c.world.machine.snapshot state.active)
    c.world.settings.codec c.world.settings.level
  have htoken : c.world.token c.world.machine.snapshot state.active =
      .ok (Token.ofBytes (compress c.world.settings.codec c.world.settings.level (Utf8.encode
        (Envelope.session c.world.machine.snapshot state.active).toGraph.encode))) := rfl
  generalize compress c.world.settings.codec c.world.settings.level _ = bytes at hread htoken
  refine ⟨_, congrArg Prod.fst (run_shareLink hmemory hstate htoken), ?_⟩
  obtain ⟨loaded, hload, hsnapshot, hopened⟩ :=
    Workspace.load_session hother hwhole state.active
  refine ⟨{ other with world := loaded }, ?_, hsnapshot, _, hopened, rfl, ?_, rfl, rfl⟩
  · rw [run_loadUrl, fragmentOf_link, Workspace.loadFragment_ofBytes hread, hload]
    rfl
  · unfold Machine.programSources
    rw [hmemory.refusals]
    rfl

/-- A new controller whose share links are put on an address that has a fragment already. -/
def sharingExample : Controller :=
  { storelessExample with
    world :=
      { storelessExample.world with
        settings := { baseUrl := "https://ic10emu.dev/#demo", codec := .deflateRaw } } }

/-- What is asked of it: to load a program, to set another, and to move the focus there. -/
def sharingRequests : List Request :=
  [.load (.envelope (.source "move r0 1")), .setProgramSource 7 "yield", .setActiveObject 7]

/-- The session with its two programs is opened by a controller that has another session. -/
theorem loadUrl_shareLink_sharingExample :
    start { baseUrl := "https://ic10emu.dev/#demo", codec := .deflateRaw } {}
        (.start "https://ic10emu.dev/") none (.fresh "/home") = .ok sharingExample ∧
      (∃ state, (askAll sharingRequests sharingExample).world.state = some state ∧
        state.active = 7) ∧
      OverMemory programExample.world ∧
      ∃ link, (shareLink.run (askAll sharingRequests sharingExample)).1 = .ok link ∧
        ∃ reopened, (loadUrl link).run programExample = (.ok true, reopened) ∧
          reopened.world.machine.snapshot =
            (askAll sharingRequests sharingExample).world.machine.snapshot ∧
          ∃ opened, reopened.world.state = some opened ∧ opened.active = 7 ∧
            (askAll sharingRequests sharingExample).world.machine.programSources =
              .ok opened.programs ∧
            opened.errors = ∅ ∧ opened.lines = ∅ := by
  have hstart : start { baseUrl := "https://ic10emu.dev/#demo", codec := .deflateRaw } {}
      (.start "https://ic10emu.dev/") none (.fresh "/home") = .ok sharingExample := rfl
  have hmemory : OverMemory programExample.world := ⟨rfl, rfl⟩
  obtain ⟨state, hstate, hactive⟩ :
      ∃ state, (askAll sharingRequests sharingExample).world.state = some state ∧
        state.active = 7 := ⟨_, rfl, rfl⟩
  have hlink := loadUrl_shareLink hstart sharingRequests hstate hmemory
  rw [hactive] at hlink
  exact ⟨hstart, ⟨state, hstate, hactive⟩, hmemory, hlink⟩

end Controller

end SessionVault
