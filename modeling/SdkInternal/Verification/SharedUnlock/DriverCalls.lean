import SdkInternal.Verification.SharedUnlock.Sending

/-! # When a peer calls its driver

A peer compares what it receives with the state it has recorded, and takes a user without a
record for locked. It locks and unlocks only where the two differ. -/

namespace SdkInternal.SharedUnlock

open Ipc Shared List Function

variable {κ : Type}

def Effect.driverCall : Effect κ → Option (UserId × LockState κ)
  | .lockUser userId => some (userId, .locked)
  | .unlockUser userId userKey => some (userId, .unlocked userKey)
  | _ => none

namespace Peer

/-- A user who is recorded as unlocked is unlocked on the device, with the same key. -/
def Consistent (p : Peer κ) : Prop :=
  ∀ u state k, p.states.lookup u = some state → state.lockState = .unlocked k →
    p.lockStates u = .unlocked k

/-- From `p` to `p'` the driver is called only where that is due. -/
structure Calls (due : UserId × LockState κ → Prop) (p p' : Peer κ) : Prop where
  consistent : p.Consistent → p'.Consistent
  effects : ∃ done, p'.effects = p.effects ++ done ∧
    ∀ effect ∈ done, ∀ call ∈ effect.driverCall, due call

/-- The driver is not called, and nothing but locks is recorded. -/
structure Quiet (p p' : Peer κ) : Prop where
  lockStates : p'.lockStates = p.lockStates
  unlocked : ∀ u state k, p'.states.lookup u = some state → state.lockState = .unlocked k →
    p.states.lookup u = some state
  effects : ∃ done, p'.effects = p.effects ++ done ∧ ∀ effect ∈ done, effect.driverCall = none

variable {env : Surroundings} {p p' p'' : Peer κ} {due : UserId × LockState κ → Prop}

theorem Calls.trans (h : Calls due p p') (h' : Calls due p' p'') : Calls due p p'' := by
  obtain ⟨done, hdone, hdue⟩ := h.effects
  obtain ⟨done', hdone', hdue'⟩ := h'.effects
  refine ⟨h'.consistent ∘ h.consistent, done ++ done', by rw [hdone', hdone, append_assoc],
    fun effect hmem => ?_⟩
  exact (mem_append.mp hmem).elim (hdue effect) (hdue' effect)

namespace Quiet

theorem of_eq (hlockStates : p'.lockStates = p.lockStates) (hstates : p'.states = p.states)
    (heffects : p'.effects = p.effects) : Quiet p p' :=
  ⟨hlockStates, fun _ _ _ h _ => hstates ▸ h, [], by simp [heffects], by simp⟩

theorem refl (p : Peer κ) : Quiet p p := of_eq rfl rfl rfl

theorem trans (h : Quiet p p') (h' : Quiet p' p'') : Quiet p p'' := by
  obtain ⟨done, hdone, hnone⟩ := h.effects
  obtain ⟨done', hdone', hnone'⟩ := h'.effects
  refine ⟨h'.lockStates.trans h.lockStates, fun u state k hstate hk =>
    h.unlocked u state k (h'.unlocked u state k hstate hk) hk, done ++ done',
    by rw [hdone', hdone, append_assoc], fun effect hmem => ?_⟩
  exact (mem_append.mp hmem).elim (hnone effect) (hnone' effect)

theorem emit (p : Peer κ) {effect : Effect κ} (h : effect.driverCall = none) :
    Quiet p (p.emit effect) :=
  ⟨rfl, fun _ _ _ hstate _ => hstate, [effect], rfl, by simp [h]⟩

theorem foldl {α : Type} {f : Peer κ → α → Peer κ} (h : ∀ p a, Quiet p (f p a)) (l : List α)
    (p : Peer κ) : Quiet p (l.foldl f p) :=
  foldlRecOn l f (refl p) fun p' hquiet a _ => hquiet.trans (h p' a)

theorem consistent (h : Quiet p p') (hp : p.Consistent) : p'.Consistent := by
  intro u state k hstate hk
  rw [h.lockStates]
  exact hp u state k (h.unlocked u state k hstate hk) hk

theorem calls (h : Quiet p p') : Calls due p p' := by
  obtain ⟨done, hdone, hnone⟩ := h.effects
  exact ⟨h.consistent, done, hdone, fun effect hmem => by simp [hnone effect hmem]⟩

end Quiet

/-! ## What does not call the driver -/

variable (p)

theorem quiet_restoredState (userId : UserId) : Quiet p (p.restoredState userId).2 := by
  rw [restoredState]
  split
  case h_1 => exact Quiet.refl p
  case h_2 hnone =>
    refine ⟨rfl, fun u state k hstate hk => ?_, [], by simp, by simp⟩
    by_cases hu : u = userId
    · subst hu
      -- what is restored is a lock
      have hrestored : persistedState (p.lastManualLock.lookup u) = some state := by
        simpa [lookup_restoreState, hnone] using hstate
      obtain ⟨date, -, rfl⟩ := Option.map_eq_some_iff.mp hrestored
      cases hk
    · rwa [lookup_restoreState_of_ne hu] at hstate

theorem quiet_syncUserTo (env : Surroundings) (userId : UserId) (p : Peer κ)
    (target : SyncTarget) : Quiet p (syncUserTo env userId p target) := by
  rw [syncUserTo]
  split
  · exact (quiet_restoredState p userId).trans (Quiet.emit _ rfl)
  · exact Quiet.refl p

theorem quiet_syncUser (query : ℕ) (p : Peer κ) (userId : UserId) :
    Quiet p (syncUser env query p userId) :=
  Quiet.foldl (quiet_syncUserTo env userId) _ p

theorem quiet_syncAllUsers : Quiet p (p.syncAllUsers env) :=
  Quiet.foldl (fun p (user : UserId × ℕ) => quiet_syncUser user.2 p user.1) _ p

theorem quiet_relayUserState (userId : UserId) (state : TimestampedLockState κ) :
    Quiet p (p.relayUserState env 1 userId state) := by
  refine Quiet.foldl (fun p target => ?_) _ p
  split
  · exact Quiet.emit p rfl
  · exact Quiet.refl p

theorem quiet_persistLock (userId : UserId) (remote : TimestampedLockState κ) :
    Quiet p (p.persistLock userId remote) := by
  unfold persistLock
  split <;> exact Quiet.of_eq rfl rfl rfl

theorem quiet_noteSource (source : Source) (userId : UserId) :
    Quiet p (p.noteSource env source userId).2 := by
  rw [noteSource]
  split
  · exact (Quiet.emit p rfl).trans (Quiet.of_eq rfl rfl rfl)
  · exact Quiet.of_eq rfl rfl rfl

/-! ## What a remote state is compared with -/

def recordedLockState (p : Peer κ) (userId : UserId) : LockState κ :=
  ((p.states.lookup userId).map (·.lockState)).getD .locked

theorem lockState_restoredState (userId : UserId) :
    (p.restoredState userId).1.elim .locked (·.lockState) = p.recordedLockState userId ∧
      (p.restoredState userId).2.recordedLockState userId = p.recordedLockState userId := by
  unfold restoredState recordedLockState
  split
  case h_1 recorded hrecorded => simp [hrecorded]
  case h_2 hnone =>
    cases hdate : p.lastManualLock.lookup userId with
    | none | some date => simp [restoreState, hnone]

theorem lockState_advertisedState (userId : UserId) (remote : TimestampedLockState κ) :
    (((p.restoredState userId).2.persistLock userId remote).advertisedState userId).1.lockState =
      p.recordedLockState userId := by
  obtain ⟨q, hq⟩ : ∃ q, (p.restoredState userId).2.persistLock userId remote = q := ⟨_, rfl⟩
  have hstates : q.recordedLockState = (p.restoredState userId).2.recordedLockState := by
    rw [← hq, persistLock]
    split <;> rfl
  rw [hq, ← (lockState_restoredState p userId).2, ← hstates, ← (lockState_restoredState q userId).1]
  show ((q.restoredState userId).1.getD TimestampedLockState.default).lockState = _
  cases (q.restoredState userId).1 <;> rfl

/-! ## Operations -/

theorem exists_drive_true (userId : UserId) (lockState : LockState κ) :
    ∃ call : Effect κ, call.driverCall = some (userId, lockState) ∧
      p.drive true userId lockState =
        { p with
          effects := p.effects ++ [call]
          lockStates := update p.lockStates userId lockState } := by
  cases lockState <;> exact ⟨_, rfl, rfl⟩

/-- The record agrees with the device once a superseding state is on both. -/
theorem consistent_recordRemoteState {called q : Peer κ} {userId : UserId}
    {remote : TimestampedLockState κ} (hq : q.Consistent) (hstates : called.states = q.states)
    (hother : ∀ u, u ≠ userId → called.lockStates u = q.lockStates u)
    (hremote : ∀ k, remote.lockState = .unlocked k → called.lockStates userId = .unlocked k)
    (hsupersedes : ∀ state k, q.states.lookup userId = some state →
      state.lockState = .unlocked k → remote.supersedes (some state) = true) :
    Consistent { called with states := recordRemoteState called.states userId remote } := by
  intro u state k hstate hk
  by_cases hu : u = userId
  · subst hu
    simp only [recordRemoteState, hstates] at hstate
    split at hstate
    · cases (AList.lookup_insert _).symm.trans hstate
      exact hremote k hk
    case isFalse hnot =>
      rw [hstate] at hnot
      exact absurd (hsupersedes state k hstate hk) hnot
  · have hlookup : q.states.lookup u = some state := by
      rw [← hstates, ← lookup_recordRemoteState_of_ne hu]
      exact hstate
    exact (hother u hu).trans (hq u state k hlookup hk)

variable {p} [DecidableEq κ]

theorem calls_applyRemoteState (hok : env.driverOk = true) (p : Peer κ) (userId : UserId)
    (remote : TimestampedLockState κ) :
    Calls (fun call => call.2 ≠ p.recordedLockState call.1) p
      (p.applyRemoteState env userId remote).2 := by
  have hrestored := quiet_restoredState p userId
  have hlockState := lockState_advertisedState p userId remote
  unfold applyRemoteState
  dsimp only
  split
  case isFalse => exact hrestored.calls
  case isTrue hsupersedes =>
    have hadvertised : Quiet p
        (((p.restoredState userId).2.persistLock userId remote).advertisedState userId).2 :=
      (hrestored.trans (quiet_persistLock _ userId remote)).trans (quiet_restoredState _ userId)
    -- an unlock that is still recorded is the one that was superseded
    have hrecorded : ∀ q, Quiet p q → ∀ state k, q.states.lookup userId = some state →
        state.lockState = .unlocked k → remote.supersedes (some state) = true := by
      intro q hquiet state k hstate hk
      simpa [restoredState, hquiet.unlocked userId state k hstate hk] using hsupersedes
    unfold adoptRemoteState
    simp only [hlockState, hok, if_true]
    split
    case isTrue hdiffers =>
      have hrelayed := hadvertised.trans
        (quiet_relayUserState _ userId remote : Quiet _ (relayUserState _ env 1 userId remote))
      generalize relayUserState _ env 1 userId remote = q at hrelayed ⊢
      obtain ⟨call, hcall, hdrive⟩ := exists_drive_true q userId remote.lockState
      obtain ⟨done, hdone, hnone⟩ := hrelayed.effects
      rw [hdrive]
      refine ⟨fun hp => ?_, done ++ [call], by rw [hdone, append_assoc], ?_⟩
      · refine consistent_recordRemoteState (hrelayed.consistent hp) rfl
          (fun u hu => update_of_ne hu _ _) ?_ (hrecorded q hrelayed)
        intro k hk
        rw [← hk]
        exact update_self _ _ _
      · intro effect hmem made hmade
        rcases mem_append.mp hmem with hmem | hmem
        · simp [hnone effect hmem] at hmade
        · rw [mem_singleton.mp hmem, hcall] at hmade
          cases hmade
          exact hdiffers
    case isFalse hsame =>
      refine ⟨fun hp => consistent_recordRemoteState (hadvertised.consistent hp) rfl
        (fun _ _ => rfl) ?_ (hrecorded _ hadvertised), hadvertised.calls.effects⟩
      intro k hk
      -- the recorded state is the remote one, so the device is unlocked already
      rw [not_not.mp hsame, recordedLockState] at hk
      cases hstate : p.states.lookup userId with
      | none => simp [hstate] at hk
      | some state =>
        rw [hadvertised.lockStates]
        exact hp userId state k hstate (by simpa [hstate] using hk)

theorem calls_perform (hok : env.driverOk = true) (p : Peer κ) (op : Operation κ) :
    Calls (fun call => call.2 ≠ p.recordedLockState call.1) p (p.perform env op) := by
  cases op with
  | receive source sync =>
    simp only [perform, receiveMessage]
    split
    case isFalse => exact (Quiet.refl p).calls
    case isTrue =>
      have happlied := calls_applyRemoteState hok (p.noteSource env source sync.userId).2
        sync.userId sync.state
      have hrecorded : (p.noteSource env source sync.userId).2.recordedLockState =
          p.recordedLockState := by
        funext u
        rw [recordedLockState, (noteSource_snd env p source sync.userId).2.2, recordedLockState]
      rw [hrecorded] at happlied
      have happlied := (quiet_noteSource p source sync.userId).calls.trans happlied
      unfold handleSync
      dsimp only
      split
      case h_1 p' hresult => rwa [hresult] at happlied
      case h_2 p' hresult =>
        rw [hresult] at happlied
        have hemitted := happlied.trans (Quiet.calls (Quiet.emit p' (rfl :
          (Effect.onPeerState sync.userId sync.state.lockState.peerState).driverCall = none)))
        split
        · exact hemitted.trans
            (Quiet.foldl (fun p userId => quiet_syncUserTo env userId p _) _ _).calls
        · exact hemitted
  | deviceEvent event =>
    refine Calls.trans ?_ (quiet_syncUser 0 _ event.userId).calls
    -- the device changes first, and its new state is recorded
    obtain ⟨q, hq⟩ : ∃ q, (p.changeDevice event).recordEvent env.nowMillis event = q := ⟨_, rfl⟩
    have hstates : q.states =
        recordLocalState p.states event.userId event.lockState env.nowMillis := by
      rw [← hq]
      cases event <;> rfl
    have hdevice : q.lockStates = update p.lockStates event.userId event.lockState := by
      rw [← hq]
      cases event <;> rfl
    rw [hq]
    refine ⟨fun hp u state k hstate hk => ?_, [], ?_, by simp⟩
    · rw [hdevice]
      rw [hstates] at hstate
      by_cases hu : u = event.userId
      · subst hu
        cases (AList.lookup_insert _).symm.trans hstate
        rwa [update_self]
      · rw [update_of_ne hu]
        exact hp u state k ((AList.lookup_insert_ne hu).symm.trans hstate) hk
    · rw [← hq]
      cases event <;> simp [recordEvent, changeDevice, setLastManualLock]
  | tick =>
    have hpruned : Quiet p (p.pruneStale env.instant p.timing.peerStaleAfter) :=
      Quiet.of_eq rfl rfl rfl
    exact (hpruned.trans (quiet_syncAllUsers _)).calls
  | announce => exact (quiet_syncAllUsers p).calls
  | prune staleAfter =>
    exact (Quiet.of_eq rfl rfl rfl : Quiet p (p.pruneStale env.instant staleAfter)).calls
  | setDestinations userId clients =>
    exact (Quiet.of_eq rfl rfl rfl : Quiet p (p.setDestinations userId clients)).calls

/-! ## Runs -/

/-- One operation after another, with drivers that succeed. A reload may come in the middle of
an operation, after some of its effects. Nothing is assumed of what has been persisted and of
the state of the device by then. -/
inductive Next (p : Peer κ) : Peer κ → Prop
  | operation (env : Surroundings) (hok : env.driverOk = true) (op : Operation κ) :
      Next p (p.perform env op)
  | reload (env : Surroundings) (hok : env.driverOk = true) (op : Operation κ)
      (done : List (Effect κ)) (hdone : p.effects ++ done <+: (p.perform env op).effects)
      (lastManualLock : Store UserId UInt64) (lockStates : UserId → LockState κ) :
      Next p { create p.timing lastManualLock lockStates with effects := p.effects ++ done }

theorem calls_next (h : Next p p') :
    Calls (fun call => call.2 ≠ p.recordedLockState call.1) p p' := by
  cases h with
  | operation env hok op => exact calls_perform hok p op
  | reload env hok op done hdone lastManualLock lockStates =>
    refine ⟨fun _ u state k hstate => ?_, done, rfl, ?_⟩
    · cases hstate
    · obtain ⟨all, hall, hdue⟩ := (calls_perform hok p op).effects
      rw [hall, prefix_append_right_inj] at hdone
      exact fun effect hmem => hdue effect (hdone.subset hmem)

theorem consistent_of_run {timing : SharedUnlockTiming} {lastManualLock : Store UserId UInt64}
    {lockStates : UserId → LockState κ}
    (h : Relation.ReflTransGen Next (create timing lastManualLock lockStates) p) :
    p.Consistent := by
  induction h with
  | refl =>
    intro u state k hstate
    cases hstate
  | tail _ hnext ih => exact (calls_next hnext).consistent ih

/-- After any operations and reloads, a user is locked only if the peer has recorded the user as
unlocked and the device is not locked, and unlocked only if the recorded or restored state is not
unlocked with the same key. -/
theorem driver_called_only_on_change {timing : SharedUnlockTiming}
    {lastManualLock : Store UserId UInt64} {lockStates : UserId → LockState κ}
    (hrun : Relation.ReflTransGen Next (create timing lastManualLock lockStates) p)
    (hnext : Next p p') :
    ∃ done, p'.effects = p.effects ++ done ∧
      (∀ u, .lockUser u ∈ done →
        (∃ state k, p.states.lookup u = some state ∧ state.lockState = .unlocked k) ∧
          p.lockStates u ≠ .locked) ∧
      ∀ u k, .unlockUser u k ∈ done → ∀ state, (p.restoredState u).1 = some state →
        state.lockState ≠ .unlocked k := by
  obtain ⟨done, hdone, hdue⟩ := (calls_next hnext).effects
  refine ⟨done, hdone, fun u hmem => ?_, fun u k hmem state hstate hk => ?_⟩
  · have hrecorded := hdue _ hmem _ rfl
    unfold recordedLockState at hrecorded
    cases hstate : p.states.lookup u with
    | none => simp [hstate] at hrecorded
    | some state =>
      cases hk : state.lockState with
      | locked => simp [hstate, hk] at hrecorded
      | unlocked k =>
        refine ⟨⟨state, k, rfl, hk⟩, ?_⟩
        rw [consistent_of_run hrun u state k hstate hk]
        simp
  · apply hdue _ hmem _ rfl
    rw [← (lockState_restoredState p u).1, hstate]
    exact hk.symm

/-- A user who is unlocked on the device is locked by a later lock of a peer. -/
theorem driver_called_for_remote_lock :
    let env : Surroundings := ⟨fun _ => none, [⟨0⟩], fun _ => none, true, 0, 5⟩
    let p := ((create {} ∅ fun _ => .locked : Peer ℕ).perform env
      (.setDestinations ⟨0⟩ [.desktop])).perform env (.deviceEvent (.manualUnlock ⟨0⟩ 1))
    let p' := p.perform env (.receive .desktopMain ⟨⟨0⟩, .locked, 9⟩)
    Effect.lockUser ⟨0⟩ ∈ p'.effects ∧ ∃ done, p'.effects = p.effects ++ done ∧
      (∀ u, .lockUser u ∈ done →
        (∃ state k, p.states.lookup u = some state ∧ state.lockState = .unlocked k) ∧
          p.lockStates u ≠ .locked) ∧
      ∀ u k, .unlockUser u k ∈ done → ∀ state, (p.restoredState u).1 = some state →
        state.lockState ≠ .unlocked k := by
  intro env p p'
  refine ⟨by decide +kernel, ?_⟩
  exact driver_called_only_on_change
    (.tail (.single (.operation env rfl _)) (.operation env rfl _)) (.operation env rfl _)

end Peer

end SdkInternal.SharedUnlock
