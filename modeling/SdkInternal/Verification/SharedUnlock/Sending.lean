import SdkInternal.Model.SharedUnlock.Peer
import SdkInternal.Verification.SharedUnlock.Records

/-! # What the operations of a peer leave alone

Messages leave on four paths. On each of them the peers that are known and the destinations
stay as they are, records only get later, and whatever is sent has been permitted. -/

namespace SdkInternal.SharedUnlock

open Ipc Shared TimestampedLockState List SyncTarget

variable {κ : Type}

namespace Peer

/-- The state of `u` may be sent to `e`: through a peer that is known, or through one that no
origin is known of. -/
def Permits (p : Peer κ) (env : Surroundings) (e : Endpoint) (u : UserId) : Prop :=
  ∃ target : SyncTarget, (target ∈ p.targets ∨ target.origin = none) ∧ target.endpoint = e ∧
    p.maySyncUserTo env u target = true

/-- From `p` to `p'` messages are sent as `p` permits, and records get later. -/
structure Acts (env : Surroundings) (p p' : Peer κ) : Prop where
  activePeers : p'.activePeers = p.activePeers
  destinations : p'.destinations = p.destinations
  states : ∀ u, recordedRank (p.states.lookup u) ≤ recordedRank (p'.states.lookup u)
  effects : ∃ done, p'.effects = p.effects ++ done ∧
    ∀ e message, Effect.sent e message ∈ done → p.Permits env e message.userId

variable {env : Surroundings} {p p' p'' : Peer κ}

theorem permits_congr (hactive : p'.activePeers = p.activePeers)
    (hdestinations : p'.destinations = p.destinations) (e : Endpoint) (u : UserId) :
    p'.Permits env e u ↔ p.Permits env e u := by
  have htargets : p'.targets = p.targets := by rw [targets, hactive, targets]
  have hmay : ∀ target, p'.maySyncUserTo env u target = p.maySyncUserTo env u target := by
    intro target
    have hdestination : p'.isDestination u target.endpoint = p.isDestination u target.endpoint := by
      rw [isDestination, hdestinations, isDestination]
    unfold maySyncUserTo
    rw [hdestination]
  simp only [Permits, htargets, hmay]

namespace Acts

theorem refl (p : Peer κ) : Acts env p p :=
  ⟨rfl, rfl, fun _ => le_rfl, [], by simp, by simp⟩

theorem trans (h : Acts env p p') (h' : Acts env p' p'') : Acts env p p'' := by
  obtain ⟨done, hdone, hpermitted⟩ := h.effects
  obtain ⟨done', hdone', hpermitted'⟩ := h'.effects
  refine ⟨h'.activePeers.trans h.activePeers, h'.destinations.trans h.destinations,
    fun u => (h.states u).trans (h'.states u), done ++ done', ?_, ?_⟩
  · rw [hdone', hdone, append_assoc]
  · intro e message hmem
    rcases mem_append.mp hmem with hmem | hmem
    · exact hpermitted e message hmem
    · exact (permits_congr h.activePeers h.destinations e _).mp (hpermitted' e message hmem)

theorem of_states (hactive : p'.activePeers = p.activePeers)
    (hdestinations : p'.destinations = p.destinations) (heffects : p'.effects = p.effects)
    (hstates : ∀ u, recordedRank (p.states.lookup u) ≤ recordedRank (p'.states.lookup u)) :
    Acts env p p' :=
  ⟨hactive, hdestinations, hstates, [], by simp [heffects], by simp⟩

theorem emit (env : Surroundings) (p : Peer κ) (effect : Effect κ)
    (h : ∀ e message, effect = .sent e message → p.Permits env e message.userId) :
    Acts env p (p.emit effect) := by
  refine ⟨rfl, rfl, fun _ => le_rfl, [effect], rfl, fun e message hmem => ?_⟩
  exact h e message (mem_singleton.mp hmem).symm

theorem foldl {α : Type} {f : Peer κ → α → Peer κ} {l : List α}
    (h : ∀ p', Acts env p p' → ∀ a ∈ l, Acts env p' (f p' a)) : Acts env p (l.foldl f p) :=
  foldlRecOn l f (refl p) fun p' hacts a ha => hacts.trans (h p' hacts a ha)

end Acts

/-! ## Looking up and recording states -/

theorem rank_le_recordRemoteState (states : States κ) (userId : UserId)
    (remote : TimestampedLockState κ) (u : UserId) :
    recordedRank (states.lookup u) ≤
      recordedRank ((recordRemoteState states userId remote).lookup u) := by
  by_cases hu : u = userId
  · subst hu
    rw [lookup_recordRemoteState, Latest.rank_offer recordedRank]
    exact le_max_left _ _
  · rw [lookup_recordRemoteState_of_ne hu]

theorem rank_le_restoreState (states : States κ) (userId : UserId) (answer : Option UInt64)
    (u : UserId) :
    recordedRank (states.lookup u) ≤
      recordedRank ((restoreState states userId answer).2.lookup u) := by
  by_cases hu : u = userId
  · subst hu
    rw [lookup_restoreState]
    cases h : states.lookup u with
    | some recorded => exact le_rfl
    | none =>
      rw [Option.none_or, recordedRank_persistedState]
      exact Prod.Lex.toLex_mono ⟨Nat.zero_le _, le_rfl⟩
  · rw [lookup_restoreState_of_ne hu]

theorem acts_restoredState (env : Surroundings) (p : Peer κ) (userId : UserId) :
    Acts env p (p.restoredState userId).2 := by
  rw [restoredState]
  split
  · exact Acts.refl p
  · exact Acts.of_states rfl rfl rfl (rank_le_restoreState p.states userId _)

theorem acts_advertisedState (env : Surroundings) (p : Peer κ) (userId : UserId) :
    Acts env p (p.advertisedState userId).2 :=
  acts_restoredState env p userId

/-! ## The four paths -/

variable {target : SyncTarget}

theorem acts_syncUserTo (p : Peer κ) {userId : UserId}
    (htarget : target ∈ p.targets ∨ target.origin = none) :
    Acts env p (syncUserTo env userId p target) := by
  rw [syncUserTo]
  split
  case isTrue hmay =>
    have hacts := acts_advertisedState env p userId
    refine hacts.trans (Acts.emit env _ _ fun e message heq => ?_)
    cases heq
    exact (permits_congr hacts.activePeers hacts.destinations _ _).mpr ⟨target, htarget, rfl, hmay⟩
  case isFalse => exact Acts.refl p

theorem mem_syncTargets {leader : Option Endpoint} (h : target ∈ p.syncTargets leader) :
    target ∈ p.targets ∨ target.origin = none := by
  unfold syncTargets at h
  split at h
  · exact .inl h
  · split at h
    · exact .inl h
    · refine (mem_append.mp h).imp_right fun hleader => ?_
      rw [mem_singleton.mp hleader]
      rfl

theorem targets_of_acts (h : Acts env p p') : p'.targets = p.targets := by
  rw [targets, h.activePeers, targets]

variable (p)

theorem acts_syncUser (query : ℕ) (userId : UserId) :
    Acts env p (syncUser env query p userId) := by
  refine Acts.foldl fun p' hacts target htarget => acts_syncUserTo p' ?_
  rw [targets_of_acts hacts]
  exact mem_syncTargets htarget

theorem acts_syncAllUsers : Acts env p (p.syncAllUsers env) :=
  Acts.foldl fun p' _ _ _ => acts_syncUser p' _ _

theorem acts_syncAllUsersTo (htarget : target ∈ p.targets) :
    Acts env p (p.syncAllUsersTo env target) := by
  refine Acts.foldl fun p' hacts userId _ => acts_syncUserTo p' ?_
  rw [targets_of_acts hacts]
  exact .inl htarget

theorem acts_relayUserState (query : ℕ) (userId : UserId)
    (state : TimestampedLockState κ) : Acts env p (p.relayUserState env query userId state) := by
  refine Acts.foldl fun p' hacts target htarget => ?_
  split
  case isTrue hmay =>
    refine Acts.emit env p' _ fun e message heq => ?_
    cases heq
    refine ⟨target, ?_, rfl, hmay⟩
    rw [targets_of_acts hacts]
    exact mem_syncTargets htarget
  case isFalse => exact Acts.refl p'

/-- The device changes if the driver answers that it did. -/
theorem Acts.answered {p called : Peer κ} (h : Acts env p called) (ok : Bool) (userId : UserId)
    (lockState : LockState κ) :
    Acts env p
      (if ok then { called with lockStates := Function.update called.lockStates userId lockState }
      else called) := by
  cases ok with
  | false => exact h
  | true => exact h.trans (Acts.of_states rfl rfl rfl fun _ => le_rfl)

theorem acts_drive (ok : Bool) (userId : UserId) (lockState : LockState κ) :
    Acts env p (p.drive ok userId lockState) := by
  cases lockState with
  | locked | unlocked userKey =>
    exact (Acts.emit env p _ fun _ _ heq => by cases heq).answered ok userId _

variable (userId : UserId) (remote : TimestampedLockState κ)

theorem acts_persistLock : Acts env p (p.persistLock userId remote) := by
  unfold persistLock
  split
  · exact Acts.of_states rfl rfl rfl fun _ => le_rfl
  · exact Acts.refl p

theorem acts_recordRemoteState :
    Acts env p { p with states := recordRemoteState p.states userId remote } :=
  Acts.of_states rfl rfl rfl (rank_le_recordRemoteState p.states userId remote)

variable (env) [DecidableEq κ]

theorem acts_adoptRemoteState : Acts env p (p.adoptRemoteState env userId remote).2 := by
  have hadvertised := acts_advertisedState env p userId
  unfold adoptRemoteState
  dsimp only
  split
  · have hdriven := (hadvertised.trans (acts_relayUserState _ 1 userId remote)).trans
      (acts_drive _ env.driverOk userId remote.lockState)
    split
    · exact hdriven.trans (acts_recordRemoteState _ userId remote)
    · exact hdriven
  · exact hadvertised.trans (acts_recordRemoteState _ userId remote)

theorem acts_applyRemoteState : Acts env p (p.applyRemoteState env userId remote).2 := by
  have hrestored := acts_restoredState env p userId
  unfold applyRemoteState
  dsimp only
  split
  · exact (hrestored.trans (acts_persistLock _ userId remote)).trans
      (acts_adoptRemoteState env _ userId remote)
  · exact hrestored

/-! ## Receiving -/

section

omit [DecidableEq κ]

variable (source : Source) (userId : UserId)

theorem noteSource_fst :
    (p.noteSource env source userId).1 = (p.activePeers.lookup source.toEndpoint).isNone := by
  rw [noteSource]
  split <;> rfl

theorem effects_noteSource : ∃ done,
    (p.noteSource env source userId).2.effects = p.effects ++ done ∧
      ∀ e message, Effect.sent e message ∉ done := by
  rw [noteSource]
  split
  · exact ⟨_, rfl, by simp⟩
  · exact ⟨[], (append_nil _).symm, by simp⟩

theorem noteSource_snd :
    (p.noteSource env source userId).2.activePeers =
        (p.upsert env.instant (fromSource source)).2.activePeers ∧
      (p.noteSource env source userId).2.destinations = p.destinations ∧
      (p.noteSource env source userId).2.states = p.states := by
  rw [noteSource]
  split <;> exact ⟨rfl, rfl, rfl⟩

theorem mem_targets_noteSource :
    fromSource source ∈ (p.noteSource env source userId).2.targets := by
  rw [targets, (noteSource_snd env p source userId).1]
  have hlookup : (p.upsert env.instant (fromSource source)).2.activePeers.lookup
      (fromSource source).endpoint =
        some ⟨env.instant, (fromSource source).origin⟩ :=
    AList.lookup_insert p.activePeers
  exact mem_map.mpr ⟨_, Store.lookup_eq_some.mp hlookup, rfl⟩

end

theorem acts_handleSync (source : Source) (sync : SharedUnlockSync κ) :
    Acts env (p.noteSource env source sync.userId).2 (p.handleSync env source sync).2 := by
  have happlied := acts_applyRemoteState env (p.noteSource env source sync.userId).2 sync.userId
    sync.state
  unfold handleSync
  dsimp only
  split
  case h_1 p' hresult => rwa [hresult] at happlied
  case h_2 p' hresult =>
    rw [hresult] at happlied
    have hemitted := happlied.trans
      (Acts.emit env p' (.onPeerState sync.userId sync.state.lockState.peerState) nofun)
    split
    · refine hemitted.trans (acts_syncAllUsersTo _ ?_)
      rw [targets_of_acts hemitted]
      exact mem_targets_noteSource env p source sync.userId
    · exact hemitted

end Peer

end SdkInternal.SharedUnlock
