import SdkInternal.Verification.SharedUnlock.Sending

/-! # Who is told about a user, and who is listened to

The state of a user is sent to destination clients only, and to a web page only if the last
sync accepted from it came from the user's own vault. A sync has an effect only if it passes
the same rules. -/

namespace SdkInternal.SharedUnlock

open Ipc Shared List

variable {κ : Type}

/-- A peer, and the sources of the syncs it has accepted, the latest first. -/
structure Observed (κ : Type) where
  peer : Peer κ
  accepted : List Source

def latestFrom (accepted : List Source) (e : Endpoint) : Option Source :=
  accepted.find? fun source => source.toEndpoint == e

namespace Peer

def acceptedBy (p : Peer κ) (env : Surroundings) : Operation κ → List Source
  | .receive source sync => if p.accepts env source sync.userId then [source] else []
  | _ => []

/-- What is known of each peer is what its last accepted sync carried. -/
def Tracked (p : Peer κ) (accepted : List Source) : Prop :=
  ∀ target ∈ p.targets, ∃ source, latestFrom accepted target.endpoint = some source ∧
    SyncTarget.fromSource source = target

/-- A message about `u` may go to `e`. -/
structure Scoped (p : Peer κ) (env : Surroundings) (accepted : List Source) (e : Endpoint)
    (u : UserId) : Prop where
  destination : p.isDestination u e = true
  origin : ∀ tabId documentId, e = .web tabId documentId →
    ∃ origin, latestFrom accepted e = some (.web tabId documentId origin) ∧
      env.vaultUrl u = some origin

variable {p p' : Peer κ} {env : Surroundings} {accepted : List Source} {target : SyncTarget}

theorem mem_targets :
    target ∈ p.targets ↔ ∃ record, p.activePeers.lookup target.endpoint = some record ∧
      record.origin = target.origin := by
  simp only [targets, mem_map, Store.lookup_eq_some]
  constructor
  · rintro ⟨⟨e, record⟩, hmem, rfl⟩
    exact ⟨record, hmem, rfl⟩
  · rintro ⟨record, hmem, horigin⟩
    exact ⟨⟨target.endpoint, record⟩, hmem, by rw [horigin]⟩

/-! ## What is known of a peer -/

theorem tracked_of_eq (h : p.Tracked accepted) (hactive : p'.activePeers = p.activePeers) :
    p'.Tracked accepted := by
  intro target htarget
  rw [mem_targets, hactive, ← mem_targets] at htarget
  exact h target htarget

theorem Tracked.upsert (h : p.Tracked accepted) (instant : ℕ) (source : Source) :
    (p.upsert instant (SyncTarget.fromSource source)).2.Tracked (source :: accepted) := by
  intro target htarget
  obtain ⟨record, hlookup, horigin⟩ := mem_targets.mp htarget
  by_cases he : target.endpoint = source.toEndpoint
  · have hrecord : record = ⟨instant, (SyncTarget.fromSource source).origin⟩ := by
      rw [he] at hlookup
      exact (Option.some.inj (hlookup.symm.trans (AList.lookup_insert _)))
    refine ⟨source, by simp [latestFrom, he], ?_⟩
    cases target
    cases he
    cases horigin
    rw [hrecord]
    rfl
  · have hold : p.activePeers.lookup target.endpoint = some record :=
      (AList.lookup_insert_ne he).symm.trans hlookup
    obtain ⟨source', hlatest, hsource'⟩ := h target (mem_targets.mpr ⟨record, hold, horigin⟩)
    refine ⟨source', ?_, hsource'⟩
    simpa [latestFrom, Ne.symm he] using hlatest

theorem Tracked.pruneStale (h : p.Tracked accepted) (instant staleAfter : ℕ) :
    (p.pruneStale instant staleAfter).Tracked accepted := by
  intro target htarget
  obtain ⟨record, hlookup, horigin⟩ := mem_targets.mp htarget
  rw [Peer.pruneStale, Store.lookup_retain, Option.filter_eq_some_iff] at hlookup
  exact h target (mem_targets.mpr ⟨record, hlookup.1, horigin⟩)

/-! ## What may be sent -/

theorem maySyncUserTo_iff {u : UserId} :
    p.maySyncUserTo env u target = true ↔ p.isDestination u target.endpoint = true ∧
      ∀ tabId documentId, target.endpoint = .web tabId documentId →
        ∃ origin, target.origin = some origin ∧ env.vaultUrl u = some origin := by
  obtain ⟨e, origin⟩ := target
  unfold maySyncUserTo
  cases hdestination : p.isDestination u e with
  | false => simp
  | true =>
    cases e with
    | web tabId documentId =>
      cases origin with
      | none => simp
      | some origin => cases env.vaultUrl u <;> simp
    | browserForeground id | browserBackground id | cli id | desktopRenderer | desktopMain => simp

theorem eq_web_of_fromSource {source : Source} {tabId : Int32} {documentId origin : String}
    (h : SyncTarget.fromSource source = ⟨.web tabId documentId, some origin⟩) :
    source = .web tabId documentId origin := by
  cases source <;> cases h
  rfl

theorem Tracked.scoped (h : p.Tracked accepted) {e : Endpoint} {u : UserId}
    (hpermits : p.Permits env e u) : p.Scoped env accepted e u := by
  obtain ⟨⟨e, known⟩, hknown, rfl, hmay⟩ := hpermits
  obtain ⟨hdestination, hweb⟩ := maySyncUserTo_iff.mp hmay
  refine ⟨hdestination, fun tabId documentId he => ?_⟩
  obtain ⟨origin, horigin, hvault⟩ := hweb tabId documentId he
  cases he
  cases horigin
  obtain ⟨source, hlatest, hsource⟩ := h _ (hknown.resolve_right nofun)
  rw [eq_web_of_fromSource hsource] at hlatest
  exact ⟨origin, hlatest, hvault⟩

/-! ## One operation -/

/-- The effects of an operation, and what it knows of the peers afterwards. -/
structure Outcome (p : Peer κ) (env : Surroundings) (accepted : List Source) (p' : Peer κ) :
    Prop where
  tracked : p'.Tracked accepted
  effects : ∃ done, p'.effects = p.effects ++ done ∧
    ∀ e message, Effect.sent e message ∈ done → p.Scoped env accepted e message.userId

/-- An operation prepares without sending and then acts. -/
theorem outcome_of_acts {base : Peer κ} {done : List (Effect κ)} (hacts : Acts env base p')
    (hbase : base.effects = p.effects ++ done) (hdone : ∀ e message, Effect.sent e message ∉ done)
    (hdestinations : base.destinations = p.destinations) (htracked : base.Tracked accepted) :
    Outcome p env accepted p' := by
  refine ⟨tracked_of_eq htracked hacts.activePeers, ?_⟩
  obtain ⟨done', hdone', hpermitted⟩ := hacts.effects
  refine ⟨done ++ done', by rw [hdone', hbase, append_assoc], fun e message hmem => ?_⟩
  have hscoped := htracked.scoped
    (hpermitted e message ((mem_append.mp hmem).resolve_left (hdone e message)))
  refine ⟨?_, hscoped.origin⟩
  have hdestination := hscoped.destination
  rwa [isDestination, hdestinations] at hdestination

theorem accepts_iff {source : Source} {u : UserId} :
    p.accepts env source u = true ↔ p.isDestination u source.toEndpoint = true ∧
      (∀ tabId documentId origin, source = .web tabId documentId origin →
        env.vaultUrl u = some origin) ∧ u ∈ env.listUsers := by
  have horigin : validOrigin env u source = true ↔ ∀ tabId documentId origin,
      source = .web tabId documentId origin → env.vaultUrl u = some origin := by
    cases source with
    | web tabId documentId origin =>
      cases hvault : env.vaultUrl u with
      | none => simp [validOrigin, hvault]
      | some userVaultUrl =>
        simp only [validOrigin, hvault, beq_iff_eq, Option.some.injEq]
        constructor
        · rintro rfl tabId' documentId' origin' hsource
          cases hsource
          rfl
        · intro h
          exact (h tabId documentId origin rfl).symm
    | browserForeground id | browserBackground id | cli id | desktopRenderer | desktopMain =>
      simp [validOrigin]
  rw [accepts, Bool.and_eq_true, Bool.and_eq_true, horigin, contains_iff_mem, and_assoc]

variable [DecidableEq κ]

theorem outcome_handleSync (h : p.Tracked accepted) (source : Source)
    (sync : SharedUnlockSync κ) :
    Outcome p env (source :: accepted) (p.handleSync env source sync).2 := by
  obtain ⟨done, hdone, hunsent⟩ := effects_noteSource env p source sync.userId
  obtain ⟨hactive, hdestinations, -⟩ := noteSource_snd env p source sync.userId
  exact outcome_of_acts (acts_handleSync env p source sync) hdone hunsent hdestinations
    (tracked_of_eq (h.upsert env.instant source) hactive)

theorem outcome_perform (env : Surroundings) (h : p.Tracked accepted) (op : Operation κ) :
    Outcome p env (p.acceptedBy env op ++ accepted) (p.perform env op) := by
  cases op with
  | receive source sync =>
    simp only [perform, receiveMessage, acceptedBy]
    cases haccepts : p.accepts env source sync.userId with
    | true => exact outcome_handleSync h source sync
    | false => exact ⟨h, [], by simp, by simp⟩
  | deviceEvent event =>
    have hrecorded : ((p.changeDevice event).recordEvent env.nowMillis event).effects = p.effects ∧
        ((p.changeDevice event).recordEvent env.nowMillis event).activePeers = p.activePeers ∧
        ((p.changeDevice event).recordEvent env.nowMillis event).destinations = p.destinations := by
      cases event <;> exact ⟨rfl, rfl, rfl⟩
    obtain ⟨heffects, hactive, hdestinations⟩ := hrecorded
    exact outcome_of_acts (acts_syncUser _ 0 event.userId)
      (heffects.trans (append_nil _).symm) (by simp) hdestinations (tracked_of_eq h hactive)
  | tick =>
    exact outcome_of_acts (acts_syncAllUsers _) (append_nil _).symm (by simp) rfl
      (h.pruneStale env.instant p.timing.peerStaleAfter)
  | announce =>
    exact outcome_of_acts (acts_syncAllUsers p) (append_nil _).symm (by simp) rfl h
  | prune staleAfter =>
    exact ⟨h.pruneStale env.instant staleAfter, [], (append_nil _).symm, by simp⟩
  | setDestinations userId clients => exact ⟨h, [], (append_nil _).symm, by simp⟩

end Peer

/-! ## Runs -/

namespace Observed

variable [DecidableEq κ]

def perform (o : Observed κ) (env : Surroundings) (op : Operation κ) : Observed κ :=
  ⟨o.peer.perform env op, o.peer.acceptedBy env op ++ o.accepted⟩

def performAll (o : Observed κ) (history : List (Surroundings × Operation κ)) : Observed κ :=
  history.foldl (fun o entry => o.perform entry.1 entry.2) o

def create (timing : SharedUnlockTiming) (lastManualLock : Store UserId UInt64)
    (lockStates : UserId → LockState κ) : Observed κ :=
  ⟨Peer.create timing lastManualLock lockStates, []⟩

omit [DecidableEq κ] in
theorem tracked_create (timing : SharedUnlockTiming) (lastManualLock : Store UserId UInt64)
    (lockStates : UserId → LockState κ) :
    (create timing lastManualLock lockStates).peer.Tracked
      (create timing lastManualLock lockStates).accepted := by
  intro target htarget
  cases htarget

theorem tracked_performAll {o : Observed κ} (h : o.peer.Tracked o.accepted)
    (history : List (Surroundings × Operation κ)) :
    (o.performAll history).peer.Tracked (o.performAll history).accepted := by
  induction history generalizing o with
  | nil => exact h
  | cons entry history ih =>
    exact ih (Peer.outcome_perform entry.1 h entry.2).tracked

/-- The operation changed what is recorded or whom the peer knows, or called `lock_user` or
`unlock_user`. -/
def Changed (p p' : Peer κ) (done : List (Effect κ)) : Prop :=
  p'.states ≠ p.states ∨ p'.activePeers ≠ p.activePeers ∨
    (∃ u, Effect.lockUser u ∈ done) ∨ ∃ u k, Effect.unlockUser u k ∈ done

/-- After any operations, whatever the next operation sends about a user goes to a
destination client of that user, and to a web page only if the last sync accepted from it
carried the vault URL of that user as its origin. A sync that changes anything came from a
destination client of its user, for a user of the device, and from that user's vault if it
came from a web page. -/
theorem syncs_scoped (timing : SharedUnlockTiming) (lastManualLock : Store UserId UInt64)
    (lockStates : UserId → LockState κ) (history : List (Surroundings × Operation κ))
    (env : Surroundings) (op : Operation κ) :
    let o := (create timing lastManualLock lockStates).performAll history
    let o' := o.perform env op
    ∃ done, o'.peer.effects = o.peer.effects ++ done ∧
      (∀ e message, Effect.sent e message ∈ done →
        o.peer.isDestination message.userId e = true ∧
          ∀ tabId documentId, e = .web tabId documentId →
            ∃ origin, latestFrom o'.accepted e = some (.web tabId documentId origin) ∧
              env.vaultUrl message.userId = some origin) ∧
      ∀ source sync, op = .receive source sync → Changed o.peer o'.peer done →
        o.peer.isDestination sync.userId source.toEndpoint = true ∧ sync.userId ∈ env.listUsers ∧
          ∀ tabId documentId origin, source = .web tabId documentId origin →
            env.vaultUrl sync.userId = some origin := by
  intro o o'
  have htracked : o.peer.Tracked o.accepted :=
    tracked_performAll (tracked_create timing lastManualLock lockStates) history
  obtain ⟨done, hdone, hscoped⟩ := (Peer.outcome_perform env htracked op).effects
  refine ⟨done, hdone, fun e message hsent => ?_, ?_⟩
  · obtain ⟨hdestination, horigin⟩ := hscoped e message hsent
    exact ⟨hdestination, horigin⟩
  · rintro source sync rfl hchanged
    by_cases haccepts : o.peer.accepts env source sync.userId = true
    · obtain ⟨hdestination, horigin, huser⟩ := Peer.accepts_iff.mp haccepts
      exact ⟨hdestination, huser, horigin⟩
    · -- a sync that is not accepted leaves the peer as it is
      have hsame : o'.peer = o.peer := by
        show (o.peer.receiveMessage env source sync).2 = o.peer
        rw [Peer.receiveMessage, if_neg haccepts]
      have hnone : done = [] := by
        have hdone : o'.peer.effects = o.peer.effects ++ done := hdone
        rw [hsame] at hdone
        exact self_eq_append_right.mp hdone
      subst hnone
      rw [Changed, hsame] at hchanged
      simp at hchanged

end Observed

end SdkInternal.SharedUnlock
