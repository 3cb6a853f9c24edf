import SessionVault.Proofs.Session.Interleaving
/-!
# Captures and loads side by side

The share link and a save are made from a focus that is read from the session and a snapshot that is
taken from the machine after that.  A load changes the machine first and the session at its end.
Captures and loads take no turns with one another.

`Dated` follows where focus and snapshot come from.  A capture has both from one load exactly when
no load was halfway while the capture was between its own steps (`captured_run`).  So a capture that
a load overtakes is a mixture of two sessions (`exists_mixed`), and so is the share link of an
update during which a session is loaded (`ofToken_fragment_finishPublish_of_load`).
-/

namespace SessionVault

namespace Call

variable {ι : Type}

/-- Whether the call is a capture that has read the focus and has yet to take the snapshot. -/
def IsTaking : Call ι → Prop
  | .take _ _ => True
  | _ => False

/-- Whether the call is a capture that has read the focus. -/
def HasLooked : Call ι → Prop
  | .take _ _ | .captured _ => True
  | _ => False

/-- Whether the call is a load or a capture that has yet to begin, or has nothing to do. -/
def LoadsOrCaptures : Call ι → Prop
  | .load _ | .capture | .finished => True
  | _ => False

/-- Loads and captures begin as such. -/
lemma LoadsOrCaptures.isNew {call : Call ι} (h : call.LoadsOrCaptures) : call.IsNew := by
  cases call with
  | load | capture | finished => trivial
  | _ => exact h.elim

/-- How the call stands to the load that the machine's snapshot is from, and to having met a load: a
capture has its halves from one load, or is on the way to that, exactly when it has met none. -/
def Fits (machineFrom : Option ι) (met : Prop) : Call ι → Prop
  | .take _ sessionFrom => machineFrom = sessionFrom ↔ ¬met
  | .captured found => found.machineFrom = found.sessionFrom ↔ ¬met
  | _ => ¬met

/-- A call that has not read the focus has met no load. -/
lemma fits_iff_of_not_hasLooked {call : Call ι} (h : ¬call.HasLooked) {machineFrom : Option ι}
    {met : Prop} : call.Fits machineFrom met ↔ ¬met := by
  cases call with
  | take | captured => exact absurd trivial h
  | _ => rfl

/-- Whatever is put into the machine, a call that is not taking the snapshot stands as before. -/
lemma Fits.of_not_isTaking {call : Call ι} (h : ¬call.IsTaking) {machineFrom now : Option ι}
    {met : Prop} (hfits : call.Fits machineFrom met) : call.Fits now met := by
  cases call with
  | take => exact absurd trivial h
  | _ => exact hfits

/-- A load that is halfway is no capture. -/
lemma IsHalfLoaded.not_hasLooked {call : Call ι} (h : call.IsHalfLoaded) : ¬call.HasLooked := by
  cases call with
  | read | replace => exact id
  | _ => exact h.elim

/-- What a capture that is taking the snapshot has read. -/
lemma IsTaking.exists_eq {call : Call ι} (h : call.IsTaking) :
    ∃ active sessionFrom, call = .take active sessionFrom := by
  cases call with
  | take active sessionFrom => exact ⟨active, sessionFrom, rfl⟩
  | _ => exact h.elim

/-- A capture that is taking the snapshot has read the focus. -/
lemma IsTaking.hasLooked {call : Call ι} (h : call.IsTaking) : call.HasLooked := by
  cases call with
  | take => trivial
  | _ => exact h.elim

end Call

namespace SharedWorkspace

variable {ι : Type} [DecidableEq ι] {s s' : SharedWorkspace ι} {i : ι} {met : ι → Prop}

/-- A load is halfway while a capture is between its steps. -/
def Meets (s : SharedWorkspace ι) (i : ι) : Prop :=
  (s.calls i).IsTaking ∧ ∃ j, (s.calls j).IsHalfLoaded

/-! ## Where things come from -/

/-- What is known of where focus and snapshot come from, and of the captures that have met a
load. -/
structure Dated (met : ι → Prop) (s : SharedWorkspace ι) : Prop where
  /-- The snapshot of a load that is halfway is in the machine. -/
  half : ∀ j, (s.calls j).IsHalfLoaded → s.machineFrom = some j
  /-- When no load is halfway, machine and session are from one load. -/
  settled : (∀ j, ¬(s.calls j).IsHalfLoaded) → s.machineFrom = s.sessionFrom
  session_finished : ∀ j, s.sessionFrom = some j → s.calls j = .finished
  take_finished : ∀ k active j, s.calls k = .take active (some j) → s.calls j = .finished
  meets : ∀ k, s.Meets k → met k
  fits : ∀ k, (s.calls k).Fits s.machineFrom (met k)

omit [DecidableEq ι] in
/-- Machine and session are from one load exactly when no load is halfway. -/
lemma Dated.machineFrom_eq_iff (h : Dated met s) :
    s.machineFrom = s.sessionFrom ↔ ¬∃ j, (s.calls j).IsHalfLoaded := by
  constructor
  · rintro heq ⟨j, hj⟩
    rw [h.half j hj] at heq
    rw [h.session_finished j heq.symm] at hj
    exact hj
  · intro hnone
    exact h.settled fun j hj => hnone ⟨j, hj⟩

omit [DecidableEq ι] in
/-- What has met a load by now is among what has met one. -/
lemma Dated.or_meets (h : Dated met s) : Dated (fun k => met k ∨ s.Meets k) s := by
  have hmet : (fun k => met k ∨ s.Meets k) = met :=
    funext fun k => propext (or_iff_left_of_imp (h.meets k))
  rwa [hmet]

omit [DecidableEq ι] in
/-- A call that is not between looking and taking has met no more loads than before. -/
lemma met_or_meets_iff {k : ι} (h : ¬(s.calls k).IsTaking) : (met k ∨ s.Meets k) ↔ met k :=
  or_iff_left fun hmeets => h hmeets.1

/-- One call has gone on, and the others are where they were. -/
structure OnlyGoes (i : ι) (s after : SharedWorkspace ι) : Prop where
  others : ∀ j, j ≠ i → after.calls j = s.calls j
  not_finished : s.calls i ≠ .finished

namespace OnlyGoes

variable {after : SharedWorkspace ι} (h : OnlyGoes i s after)
include h

omit [DecidableEq ι] in
/-- What is said of the call before and after is said of every call as before. -/
lemma iff_of_iff {Q : Call ι → Prop} (hQ : Q (after.calls i) ↔ Q (s.calls i)) (j : ι) :
    Q (after.calls j) ↔ Q (s.calls j) := by
  by_cases hji : j = i
  · rw [hji]
    exact hQ
  · rw [h.others j hji]

omit [DecidableEq ι] in
/-- Calls that are over stay over. -/
lemma finished {j : ι} (hj : s.calls j = .finished) : after.calls j = .finished := by
  have hji : j ≠ i := fun hji => h.not_finished (hji ▸ hj)
  rw [h.others j hji]
  exact hj

omit [DecidableEq ι] in
/-- Who takes a snapshot afterwards has read the focus of a load that is over. -/
lemma take_finished (hs : Dated met s)
    (hi : ∀ active j, after.calls i = .take active (some j) → s.calls j = .finished) :
    ∀ k active j, after.calls k = .take active (some j) → after.calls j = .finished := by
  intro k active j hk
  refine h.finished ?_
  by_cases hki : k = i
  · rw [hki] at hk
    exact hi active j hk
  · rw [h.others k hki] at hk
    exact hs.take_finished k active j hk

omit [DecidableEq ι] in
/-- While the session stays, the load that it is from is over. -/
lemma session_finished (hs : Dated met s) (hsession : after.sessionFrom = s.sessionFrom) :
    ∀ j, after.sessionFrom = some j → after.calls j = .finished := by
  intro j hj
  rw [hsession] at hj
  exact h.finished (hs.session_finished j hj)

omit [DecidableEq ι] in
/-- While the machine stays, the load that is halfway does. -/
lemma half (hs : Dated met s) (hmachine : after.machineFrom = s.machineFrom)
    (hhalf : (after.calls i).IsHalfLoaded ↔ (s.calls i).IsHalfLoaded) :
    ∀ j, (after.calls j).IsHalfLoaded → after.machineFrom = some j := by
  intro j hj
  rw [hmachine]
  exact hs.half j ((h.iff_of_iff hhalf j).1 hj)

omit [DecidableEq ι] in
/-- While machine and session stay, they are from one load when none is halfway. -/
lemma settled (hs : Dated met s) (hmachine : after.machineFrom = s.machineFrom)
    (hsession : after.sessionFrom = s.sessionFrom)
    (hhalf : (after.calls i).IsHalfLoaded ↔ (s.calls i).IsHalfLoaded) :
    (∀ j, ¬(after.calls j).IsHalfLoaded) → after.machineFrom = after.sessionFrom := by
  intro hnone
  rw [hmachine, hsession]
  exact hs.settled fun j hj => hnone j ((h.iff_of_iff hhalf j).2 hj)

end OnlyGoes

section Steps

variable {after : SharedWorkspace ι}

omit [DecidableEq ι] in
/-- A call goes on that is no capture that has looked, and is halfway as before. -/
lemma Dated.quiet (h : Dated met s) (hgoes : OnlyGoes i s after)
    (hmachine : after.machineFrom = s.machineFrom) (hsession : after.sessionFrom = s.sessionFrom)
    (hhalf : (after.calls i).IsHalfLoaded ↔ (s.calls i).IsHalfLoaded)
    (hnow : ¬(s.calls i).HasLooked) (hnext : ¬(after.calls i).HasLooked) : Dated met after := by
  have hhalves := hgoes.iff_of_iff hhalf
  have htaking := hgoes.iff_of_iff (Q := Call.IsTaking)
    ⟨fun h => absurd h.hasLooked hnext, fun h => absurd h.hasLooked hnow⟩
  refine ⟨hgoes.half h hmachine hhalf, hgoes.settled h hmachine hsession hhalf,
    hgoes.session_finished h hsession, hgoes.take_finished h ?_, ?_, ?_⟩
  · intro active j hi
    rw [hi] at hnext
    exact absurd trivial hnext
  · rintro k ⟨hk, j, hj⟩
    exact h.meets k ⟨(htaking k).1 hk, j, (hhalves j).1 hj⟩
  · intro k
    by_cases hki : k = i
    · rw [hki, Call.fits_iff_of_not_hasLooked hnext]
      exact (Call.fits_iff_of_not_hasLooked hnow).1 (h.fits i)
    · rw [hgoes.others k hki, hmachine]
      exact h.fits k

omit [DecidableEq ι] in
/-- A load puts its snapshot into the machine: the captures between their steps meet it. -/
lemma Dated.restored (h : Dated met s) (hgoes : OnlyGoes i s after)
    (hmachine : after.machineFrom = some i) (hsession : after.sessionFrom = s.sessionFrom)
    (hnone : ∀ j, ¬(s.calls j).IsHalfLoaded) (hnow : ¬(s.calls i).HasLooked)
    (hload : (after.calls i).IsHalfLoaded) : Dated (fun k => met k ∨ after.Meets k) after := by
  have hnext : ¬(after.calls i).HasLooked := hload.not_hasLooked
  refine ⟨?_, fun hnone' => absurd hload (hnone' i), hgoes.session_finished h hsession,
    hgoes.take_finished h ?_, fun k hk => .inr hk, ?_⟩
  · intro j hj
    by_cases hji : j = i
    · rw [hji]
      exact hmachine
    · rw [hgoes.others j hji] at hj
      exact absurd hj (hnone j)
  · intro active j hi
    rw [hi] at hnext
    exact absurd trivial hnext
  · intro k
    have hfits := h.fits k
    by_cases hki : k = i
    · rw [hki, Call.fits_iff_of_not_hasLooked hnext,
        met_or_meets_iff fun htaking => hnext htaking.hasLooked]
      exact (Call.fits_iff_of_not_hasLooked hnow).1 (h.fits i)
    · rw [hgoes.others k hki]
      by_cases htaking : (s.calls k).IsTaking
      · -- it read the focus of an earlier load, and what it takes now is from this one
        have hmeets : after.Meets k := ⟨by rwa [hgoes.others k hki], i, hload⟩
        obtain ⟨active, sessionFrom, hcall⟩ := htaking.exists_eq
        rw [hcall, hmachine]
        have hne : some i ≠ sessionFrom := by
          rintro rfl
          exact hgoes.not_finished (h.take_finished k active i hcall)
        exact ⟨fun heq => absurd heq hne, fun hnot => absurd (.inr hmeets) hnot⟩
      · rw [met_or_meets_iff (by rwa [hgoes.others k hki])]
        exact hfits.of_not_isTaking htaking

omit [DecidableEq ι] in
/-- A load replaces the session: no load is halfway any more. -/
lemma Dated.replaced (h : Dated met s) (hgoes : OnlyGoes i s after)
    (hmachine : after.machineFrom = s.machineFrom) (hsession : after.sessionFrom = some i)
    (honly : ∀ j, (s.calls j).IsHalfLoaded → j = i) (hload : (s.calls i).IsHalfLoaded)
    (hcall : after.calls i = .finished) : Dated met after := by
  have hnone : ∀ j, ¬(after.calls j).IsHalfLoaded := by
    intro j hj
    by_cases hji : j = i
    · rw [hji, hcall] at hj
      exact hj
    · rw [hgoes.others j hji] at hj
      exact hji (honly j hj)
  refine ⟨fun j hj => absurd hj (hnone j), ?_, ?_, hgoes.take_finished h ?_, ?_, ?_⟩
  · intro _
    rw [hmachine, hsession]
    exact h.half i hload
  · intro j hj
    rw [hsession] at hj
    obtain rfl := Option.some.inj hj
    exact hcall
  · intro active j hi
    cases hcall.symm.trans hi
  · rintro k ⟨-, j, hj⟩
    exact absurd hj (hnone j)
  · intro k
    by_cases hki : k = i
    · rw [hki, hcall]
      exact (Call.fits_iff_of_not_hasLooked hload.not_hasLooked).1 (h.fits i)
    · rw [hgoes.others k hki, hmachine]
      exact h.fits k

omit [DecidableEq ι] in
/-- A capture reads the focus: it meets the load that is halfway, if there is one. -/
lemma Dated.looked (h : Dated met s) (hgoes : OnlyGoes i s after)
    (hmachine : after.machineFrom = s.machineFrom) (hsession : after.sessionFrom = s.sessionFrom)
    (hnow : s.calls i = .capture) {active : ObjectId}
    (hcall : after.calls i = .take active s.sessionFrom) :
    Dated (fun k => met k ∨ after.Meets k) after := by
  have hhalf : (after.calls i).IsHalfLoaded ↔ (s.calls i).IsHalfLoaded := by
    rw [hnow, hcall]
    rfl
  have hhalves := hgoes.iff_of_iff hhalf
  refine ⟨hgoes.half h hmachine hhalf, hgoes.settled h hmachine hsession hhalf,
    hgoes.session_finished h hsession, hgoes.take_finished h ?_, fun k hk => .inr hk, ?_⟩
  · intro active' j hi
    obtain ⟨-, hfrom⟩ := Call.take.inj (hcall.symm.trans hi)
    exact h.session_finished j hfrom
  · intro k
    by_cases hki : k = i
    · subst hki
      have hunmet : ¬met k := by
        have hfits := h.fits k
        rwa [hnow] at hfits
      have hmeets : after.Meets k ↔ ∃ j, (s.calls j).IsHalfLoaded := by
        unfold Meets
        rw [hcall]
        exact (and_iff_right trivial).trans (exists_congr hhalves)
      rw [hcall, hmachine]
      change s.machineFrom = s.sessionFrom ↔ ¬(met k ∨ after.Meets k)
      rw [h.machineFrom_eq_iff, or_iff_right hunmet, hmeets]
    · have hmeets : after.Meets k → met k := by
        rintro ⟨hk, j, hj⟩
        rw [hgoes.others k hki] at hk
        exact h.meets k ⟨hk, j, (hhalves j).1 hj⟩
      rw [or_iff_left_of_imp hmeets, hgoes.others k hki, hmachine]
      exact h.fits k

omit [DecidableEq ι] in
/-- A capture takes the snapshot that is in the machine. -/
lemma Dated.took (h : Dated met s) (hgoes : OnlyGoes i s after)
    (hmachine : after.machineFrom = s.machineFrom) (hsession : after.sessionFrom = s.sessionFrom)
    {active : ObjectId} {sessionFrom : Option ι} (hnow : s.calls i = .take active sessionFrom)
    {found : Capture ι} (hcall : after.calls i = .captured found)
    (hfound : found.machineFrom = s.machineFrom) (hfound' : found.sessionFrom = sessionFrom) :
    Dated met after := by
  have hhalf : (after.calls i).IsHalfLoaded ↔ (s.calls i).IsHalfLoaded := by
    rw [hnow, hcall]
    rfl
  have hhalves := hgoes.iff_of_iff hhalf
  refine ⟨hgoes.half h hmachine hhalf, hgoes.settled h hmachine hsession hhalf,
    hgoes.session_finished h hsession, hgoes.take_finished h ?_, ?_, ?_⟩
  · intro active' j hi
    cases hcall.symm.trans hi
  · rintro k ⟨hk, j, hj⟩
    by_cases hki : k = i
    · rw [hki, hcall] at hk
      exact hk.elim
    · rw [hgoes.others k hki] at hk
      exact h.meets k ⟨hk, j, (hhalves j).1 hj⟩
  · intro k
    by_cases hki : k = i
    · have hfits := h.fits k
      rw [hki, hnow] at hfits
      rw [hki, hcall]
      change found.machineFrom = found.sessionFrom ↔ ¬met i
      rw [hfound, hfound']
      exact hfits
    · rw [hgoes.others k hki, hmachine]
      exact h.fits k

end Steps

/-- A step that does anything takes one call on. -/
lemma Moves.eq_or_onlyGoes (h : Moves s i s') : s' = s ∨ OnlyGoes i s s' := by
  have hgoOn : ∀ {next : Call ι} {after : SharedWorkspace ι}, s.calls i ≠ .finished →
      after.calls = (s.goOn i next).calls → after = s ∨ OnlyGoes i s after := by
    intro next after hfinished hcalls
    refine .inr ⟨fun j hji => ?_, hfinished⟩
    rw [hcalls, calls_goOn, if_neg hji]
  cases h with
  | waits => exact .inl rfl
  | ended hcall => exact hgoOn (fun hfinished => by rw [hfinished] at hcall; exact hcall) rfl
  | checked hcall | updated hcall | inserted hcall | began hcall | entered hcall | restored hcall
  | refused hcall | read hcall | replaced hcall | gaveUp hcall | looked hcall | took hcall =>
    exact hgoOn (by rw [hcall]; rintro ⟨⟩) rfl

/-- Each step keeps what is known of where things come from. -/
lemma Moves.dated (h : Moves s i s') (hs : Dated met s) (hturns : s.TakesTurns) :
    Dated (fun k => met k ∨ s'.Meets k) s' := by
  have honly : ∀ j, (s.calls i).HasTurn → (s.calls j).IsHalfLoaded → j = i :=
    fun j hi hj => hturns.eq hj.hasTurn hi
  rcases h.eq_or_onlyGoes with rfl | hgoes
  · exact hs.or_meets
  cases h with
  | waits => exact hs.or_meets
  | ended hcall =>
    have hcall' : ¬(s.calls i).HasLooked ∧ ¬(s.calls i).IsHalfLoaded := by
      revert hcall
      cases s.calls i <;> simp [Call.NeedsSession, Call.HasLooked, Call.IsHalfLoaded]
    refine (hs.quiet hgoes rfl rfl ?_ hcall'.1 ?_).or_meets
    · simpa [Call.IsHalfLoaded] using hcall'.2
    · simp [Call.HasLooked]
  | checked hcall | updated hcall | inserted hcall | began hcall | entered hcall | refused hcall
  | read hcall | gaveUp hcall =>
    refine (hs.quiet hgoes rfl rfl ?_ ?_ ?_).or_meets <;>
      simp [hcall, Call.IsHalfLoaded, Call.HasLooked]
  | restored hcall =>
    refine hs.restored hgoes rfl rfl (fun j hj => ?_) ?_ ?_
    · have hji := honly j (by rw [hcall]; trivial) hj
      rw [hji, hcall] at hj
      exact hj
    · simp [hcall, Call.HasLooked]
    · simp [Call.IsHalfLoaded]
  | replaced hcall =>
    refine (hs.replaced hgoes rfl rfl (fun j hj => ?_) ?_ ?_).or_meets
    · exact honly j (by rw [hcall]; trivial) hj
    · simp [hcall, Call.IsHalfLoaded]
    · simp
  | looked hcall => exact hs.looked hgoes rfl rfl hcall (calls_goOn_self ..)
  | took hcall => exact (hs.took hgoes rfl rfl hcall (calls_goOn_self ..) rfl rfl).or_meets

/-! ## What the loads were of -/

/-- The snapshot that a load puts into the machine, or the one that is there from the start. -/
def snapshotFrom (w : Workspace) (calls : ι → Call ι) : Option ι → Option Snapshot
  | none => some w.machine.snapshot
  | some i =>
    match calls i with
    | .load (.ok e) => some (Workspace.requested e).1
    | _ => none

/-- The focus of the session of a load, or of the one that is there from the start. -/
def focusFrom (w : Workspace) (calls : ι → Call ι) : Option ι → Option ObjectId
  | none => w.state.map SessionState.active
  | some i =>
    match calls i with
    | .load (.ok e) => some (Workspace.requested e).2
    | _ => none

/-- What a call has in hand is from where it says. -/
def IsTraced (w : Workspace) (calls : ι → Call ι) (i : ι) : Call ι → Prop
  | .load envelope | .enter envelope | .restore envelope _ => calls i = .load envelope
  | .read active _ => focusFrom w calls (some i) = some active
  | .replace state => focusFrom w calls (some i) = some state.active
  | .take active sessionFrom => focusFrom w calls sessionFrom = some active
  | .captured found =>
    snapshotFrom w calls found.machineFrom = some found.snapshot ∧
      focusFrom w calls found.sessionFrom = some found.active
  | .giveUp _ _ | .capture | .finished => True
  | .edit _ _ | .update _ _ | .insert _ _ => False

variable {w : Workspace} {calls : ι → Call ι}

/-- Machine and session are from where it is said, and so is what the calls have in hand. -/
structure Traced (w : Workspace) (calls : ι → Call ι) (s : SharedWorkspace ι) : Prop where
  machine : snapshotFrom w calls s.machineFrom = some s.world.machine.snapshot
  session : ∀ state, s.world.state = some state →
    focusFrom w calls s.sessionFrom = some state.active
  hand : ∀ i, IsTraced w calls i (s.calls i)

/-- A call goes on, with what it is said to have. -/
lemma Traced.goOn (h : Traced w calls s) {next : Call ι} (hnext : IsTraced w calls i next) :
    ∀ j, IsTraced w calls j ((s.goOn i next).calls j) := by
  intro j
  rw [calls_goOn]
  split_ifs with hji
  · rw [hji]
    exact hnext
  · exact h.hand j

/-- Each step keeps things where they are said to be from, if nothing is edited. -/
lemma Moves.traced (h : Moves s i s') (hs : Traced w calls s) : Traced w calls s' := by
  have hi := hs.hand i
  cases h with
  | waits => exact hs
  | checked hcall | updated hcall | inserted hcall =>
    rw [hcall] at hi
    exact hi.elim
  | ended | gaveUp hcall => exact ⟨hs.machine, hs.session, hs.goOn trivial⟩
  | began hcall | entered hcall =>
    rw [hcall] at hi
    exact ⟨hs.machine, hs.session, hs.goOn hi⟩
  | refused hcall => exact ⟨hs.machine, hs.session, hs.goOn trivial⟩
  | restored hcall =>
    rw [hcall] at hi
    change calls i = _ at hi
    refine ⟨?_, hs.session, hs.goOn ?_⟩
    · change snapshotFrom w calls (some i) = _
      unfold snapshotFrom
      dsimp only
      rw [hi]
      rfl
    · change focusFrom w calls (some i) = _
      unfold focusFrom
      dsimp only
      rw [hi]
  | read hcall =>
    rw [hcall] at hi
    exact ⟨hs.machine, hs.session, hs.goOn hi⟩
  | replaced hcall =>
    rw [hcall] at hi
    refine ⟨hs.machine, ?_, hs.goOn trivial⟩
    rintro _ ⟨⟩
    exact hi
  | looked hcall hstate => exact ⟨hs.machine, hs.session, hs.goOn (hs.session _ hstate)⟩
  | took hcall =>
    rw [hcall] at hi
    exact ⟨hs.machine, hs.session, hs.goOn ⟨hs.machine, hi⟩⟩

/-! ## Interleavings -/

/-- A capture meets a load at some moment of an interleaving. -/
def MeetsIn (schedule : List ι) (s : SharedWorkspace ι) (i : ι) : Prop :=
  ∃ before, before <+: schedule ∧ (run before s).Meets i

/-- It does so in its last step or before. -/
lemma meetsIn_concat {schedule : List ι} {k : ι} :
    MeetsIn (schedule ++ [k]) s i ↔
      MeetsIn schedule s i ∨ ((run schedule s).step k).Meets i := by
  unfold MeetsIn
  rw [← run_concat]
  constructor
  · rintro ⟨before, hbefore, hmeets⟩
    rcases List.prefix_concat_iff.1 hbefore with rfl | hbefore
    · exact .inr hmeets
    · exact .inl ⟨before, hbefore, hmeets⟩
  · rintro (⟨before, hbefore, hmeets⟩ | hmeets)
    · exact ⟨before, hbefore.trans (List.prefix_append schedule [k]), hmeets⟩
    · exact ⟨_, List.prefix_rfl, hmeets⟩

/-- In every interleaving over a machine in memory it is known where things come from. -/
lemma dated_run (hmemory : Controller.OverMemory w) (hnew : ∀ j, (calls j).IsNew)
    (schedule : List ι) :
    Dated (MeetsIn schedule (begin w calls)) (run schedule (begin w calls)) := by
  induction schedule using List.reverseRecOn with
  | nil =>
    have hlooked : ∀ j, ¬(calls j).HasLooked := by
      intro j
      have hj := hnew j
      revert hj
      cases calls j <;> simp [Call.IsNew, Call.HasLooked]
    have hhalf : ∀ j, ¬(calls j).IsHalfLoaded := by
      intro j
      have hj := hnew j
      revert hj
      cases calls j <;> simp [Call.IsNew, Call.IsHalfLoaded]
    have hunmet : ∀ k, ¬MeetsIn [] (begin w calls) k := by
      rintro k ⟨before, hbefore, hmeets⟩
      rw [List.prefix_nil.1 hbefore] at hmeets
      exact hlooked k hmeets.1.hasLooked
    refine ⟨fun j hj => absurd hj (hhalf j), fun _ => rfl, ?_, ?_, ?_, ?_⟩
    · rintro j ⟨⟩
    · intro k active j hk
      change calls k = _ at hk
      have hk' := hlooked k
      rw [hk] at hk'
      exact absurd trivial hk'
    · exact fun k hk => absurd hk.1.hasLooked (hlooked k)
    · exact fun k => (Call.fits_iff_of_not_hasLooked (hlooked k)).2 (hunmet k)
  | append_singleton schedule k ih =>
    obtain ⟨hmemory', hturns⟩ := run_takesTurns hmemory hnew schedule
    have hdated := (moves_step hmemory' k).dated ih hturns
    have hmet : MeetsIn (schedule ++ [k]) (begin w calls) = fun i =>
        MeetsIn schedule (begin w calls) i ∨ ((run schedule (begin w calls)).step k).Meets i :=
      funext fun i => propext meetsIn_concat
    rw [hmet, run_concat]
    exact hdated

/-- In every interleaving of loads and captures over a machine in memory, things are from where it
is said. -/
lemma traced_run (hmemory : Controller.OverMemory w) (hcalls : ∀ j, (calls j).LoadsOrCaptures)
    (schedule : List ι) : Traced w calls (run schedule (begin w calls)) := by
  induction schedule using List.reverseRecOn with
  | nil =>
    refine ⟨rfl, ?_, ?_⟩
    · intro state hstate
      change w.state.map SessionState.active = _
      rw [show w.state = some state from hstate]
      rfl
    · intro j
      have hj := hcalls j
      change IsTraced w calls j (calls j)
      cases hcall : calls j with
      | load envelope => exact hcall
      | capture | finished => trivial
      | _ =>
        rw [hcall] at hj
        exact hj.elim
  | append_singleton schedule k ih =>
    have hmemory' := (run_takesTurns hmemory (fun j => (hcalls j).isNew) schedule).1
    rw [run_concat]
    exact (moves_step hmemory' k).traced ih

/-- **A capture is of one session exactly when it meets no load.**  Any number of loads and captures
go on in any order over a machine in memory, and loads succeed or fail.  The snapshot of a capture
is that of the load that the machine was at, and its focus is that of the load that the session was
at; and these are the same load if and only if at no moment the capture had read the focus but not
taken the snapshot while a load had changed the machine but not the session. -/
theorem captured_run (hmemory : Controller.OverMemory w) (hcalls : ∀ j, (calls j).LoadsOrCaptures)
    {schedule : List ι} {found : Capture ι}
    (hfound : (run schedule (begin w calls)).calls i = .captured found) :
    snapshotFrom w calls found.machineFrom = some found.snapshot ∧
      focusFrom w calls found.sessionFrom = some found.active ∧
      (found.machineFrom = found.sessionFrom ↔ ¬MeetsIn schedule (begin w calls) i) := by
  have hhand := (traced_run hmemory hcalls schedule).hand i
  have hfits := (dated_run hmemory (fun j => (hcalls j).isNew) schedule).fits i
  rw [hfound] at hhand hfits
  exact ⟨hhand.1, hhand.2, hfits⟩

/-- Two loads at which a capture looks: it takes the snapshot of the second while that is
halfway. -/
def busyCalls : Fin 3 → Call (Fin 3)
  | 0 => .load (.ok (.source "move r0 1"))
  | 1 => .load (.ok (.programs [(2, "yield")]))
  | 2 => .capture

/-- The capture looks after the first load, and takes the snapshot before the second is over. -/
def busySchedule : List (Fin 3) := [0, 0, 0, 1, 0, 0, 2, 1, 1, 1, 2, 1, 1]

/-- The capture has the focus of the first load and the snapshot of the second. -/
theorem captured_busySchedule :
    Controller.OverMemory Controller.storelessExample.world ∧
      (∀ j, (busyCalls j).LoadsOrCaptures) ∧
      ∃ found, (run busySchedule (begin Controller.storelessExample.world busyCalls)).calls 2 =
          .captured found ∧
        found.machineFrom = some 1 ∧ found.sessionFrom = some 0 ∧
        snapshotFrom Controller.storelessExample.world busyCalls (some 1) = some found.snapshot ∧
        focusFrom Controller.storelessExample.world busyCalls (some 0) = some found.active ∧
        MeetsIn busySchedule (begin Controller.storelessExample.world busyCalls) 2 := by
  have hmemory : Controller.OverMemory Controller.storelessExample.world := ⟨rfl, rfl⟩
  have hcalls : ∀ j, (busyCalls j).LoadsOrCaptures := by
    intro j
    match j with
    | 0 | 1 | 2 => trivial
  obtain ⟨found, hfound, hmachine, hsession⟩ : ∃ found,
      (run busySchedule (begin Controller.storelessExample.world busyCalls)).calls 2 =
        .captured found ∧ found.machineFrom = some 1 ∧ found.sessionFrom = some 0 :=
    ⟨_, rfl, rfl, rfl⟩
  obtain ⟨hsnapshot, hfocus, hmet⟩ := captured_run hmemory hcalls hfound
  rw [hmachine] at hsnapshot hmet
  rw [hsession] at hfocus hmet
  refine ⟨hmemory, hcalls, found, hfound, hmachine, hsession, hsnapshot, hfocus, ?_⟩
  by_contra hnot
  exact absurd (hmet.2 hnot) (by decide)

/-- What becomes of a capture that a load overtakes: it has the focus of the session before, and the
snapshot that was loaded. -/
lemma exists_mixed (calls : ι → Call ι) (hmemory : Controller.OverMemory w)
    {state : SessionState} (hstate : w.state = some state) {i j : ι} (hij : i ≠ j) {e : Envelope}
    (hi : calls i = .capture) (hj : calls j = .load (.ok e))
    (hwhole : Machine.danglingHolder? (Workspace.requested e).1 = none) :
    (run [i, j, j, j, j, j, i] (begin w calls)).calls i =
      .captured ⟨(Workspace.requested e).1, state.active, some j, none⟩ := by
  simp [run, step, begin, goOn, hi, hj, hij, hij.symm, hstate, Machine.restore,
    Machine.programSources, hmemory.refusals, hwhole, Machine.unlessRefused, Workspace.emit]

/-- A capture and a load of another program, at a session that is loaded. -/
def captureAndLoad : Bool → Call Bool
  | false => .capture
  | true => .load (.ok (.programs [(2, "yield")]))

/-- The load overtakes the capture. -/
def overtakenSchedule : List Bool := [false, true, true, true, true, true, false]

/-- The capture is neither of the session that was there nor of the one that was loaded. -/
theorem not_captured_overtakenSchedule :
    Controller.programExample.world.InStep ∧ (∀ j, (captureAndLoad j).LoadsOrCaptures) ∧
      ∃ found, (run overtakenSchedule
          (begin Controller.programExample.world captureAndLoad)).calls false = .captured found ∧
        found.machineFrom ≠ found.sessionFrom ∧
        ∀ source,
          ¬(snapshotFrom Controller.programExample.world captureAndLoad source =
              some found.snapshot ∧
            focusFrom Controller.programExample.world captureAndLoad source =
              some found.active) := by
  have hstays := Controller.staysInStep_programExample
  have hcalls : ∀ j, (captureAndLoad j).LoadsOrCaptures := by rintro (_ | _) <;> trivial
  have hfound := exists_mixed captureAndLoad (i := false) (j := true) hstays.overMemory rfl
    (by decide) rfl rfl rfl
  refine ⟨hstays.inStep, hcalls, _, hfound, by rintro ⟨⟩, ?_⟩
  rintro (_ | _ | _) ⟨hsnapshot, hfocus⟩
  · -- the snapshot is not that of the session that was there
    exact absurd hsnapshot (by decide +kernel)
  · cases hsnapshot
  · -- the focus is not that of the session that was loaded
    exact absurd hfocus (by decide)

end SharedWorkspace

namespace Workspace

variable {w loaded : Workspace}

/-- An update of the share link that waits for its snapshot while a session is loaded makes the
address lead to the machine of that session, with the focus of the session before. -/
lemma ofToken_fragment_finishPublish_of_load {active : ObjectId} {e : Envelope}
    (hreading : w.update = .reading active) (hload : w.load (.ok e) = (.ok (), loaded)) :
    ∃ proceeded, loaded.proceedPublish = some proceeded ∧
      Envelope.ofToken proceeded.finishPublish.location.fragment =
        .ok (.session (requested e).1 active) ∧
      ∃ state, proceeded.finishPublish.state = some state ∧ state.active = (requested e).2 := by
  have hloads := w.loads_load (.ok e)
  rw [hload] at hloads
  obtain ⟨hupdate, hsnapshot, hstate⟩ : loaded.update = .reading active ∧
      loaded.machine.snapshot = (requested e).1 ∧
      ∃ state, loaded.state = some state ∧ state.active = (requested e).2 := by
    cases hloads with
    | loaded hrestore => exact ⟨hreading, by rw [Controller.eq_of_restore hrestore], _, rfl, rfl⟩
  have hproceed : loaded.proceedPublish =
      some { loaded with update := .encoding loaded.machine.snapshot active } := by
    unfold proceedPublish
    rw [hupdate]
  obtain ⟨token, htoken, hfinish⟩ := exists_finishPublish_eq
    (w := { loaded with update := .encoding loaded.machine.snapshot active }) rfl
  have hlinks := linksTo_replaceFragment htoken .idle
  refine ⟨_, hproceed, ?_⟩
  rw [hfinish, ← hsnapshot]
  exact ⟨hlinks, hstate⟩

end Workspace

end SessionVault
