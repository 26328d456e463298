import SdkInternal.Model.SharedUnlock.LockState

/-! # A peer of the shared unlock protocol

The operations of a peer, each run to its end. What the driver answers during one operation
is given by its surroundings; what the driver keeps (the persisted date of the last lock and
the lock state of the device) is part of the state, next to what the peer keeps. -/

namespace SdkInternal.SharedUnlock

open Ipc Shared

variable {κ : Type}

structure SyncTarget where
  endpoint : Endpoint
  origin : Option String

namespace SyncTarget

def fromSource (source : Source) : SyncTarget where
  endpoint := source.toEndpoint
  origin :=
    match source with
    | .web _ _ origin => some origin
    | _ => none

def withoutOrigin (endpoint : Endpoint) : SyncTarget := ⟨endpoint, none⟩

end SyncTarget

structure PeerRecord where
  lastSeen : ℕ
  origin : Option String

/-- What a peer makes its driver and its IPC client do. -/
inductive Effect (κ : Type) where
  | sent (recipient : Endpoint) (message : SharedUnlockSync κ)
  | lockUser (userId : UserId)
  | unlockUser (userId : UserId) (userKey : κ)
  | suppressVaultTimeout (userId : UserId) (duration : ℕ)
  | onPeerState (userId : UserId) (state : PeerLockState)
deriving DecidableEq

structure SharedUnlockTiming where
  syncInterval : ℕ := 5000
  vaultTimeoutGracePeriod : ℕ := 2000
  peerStaleAfter : ℕ := 30000

structure Peer (κ : Type) where
  timing : SharedUnlockTiming
  states : States κ
  activePeers : Store Endpoint PeerRecord
  destinations : Store UserId (List SharedUnlockClient)
  /-- What `set_last_manual_lock` has persisted. -/
  lastManualLock : Store UserId UInt64
  lockStates : UserId → LockState κ
  effects : List (Effect κ)

/-- What the driver answers, and what the clocks read, during one operation. The leader is
asked for several times. -/
structure Surroundings where
  vaultUrl : UserId → Option String
  listUsers : List UserId
  discoverLeader : ℕ → Option Endpoint
  /-- Whether `lock_user` and `unlock_user` succeed. -/
  driverOk : Bool
  /-- The monotonic clock of the liveness tracking. -/
  instant : ℕ
  nowMillis : UInt64

namespace Peer

def create (timing : SharedUnlockTiming) (lastManualLock : Store UserId UInt64)
    (lockStates : UserId → LockState κ) : Peer κ where
  timing := timing
  states := ∅
  activePeers := ∅
  destinations := ∅
  lastManualLock := lastManualLock
  lockStates := lockStates
  effects := []

variable (p : Peer κ)

def emit (effect : Effect κ) : Peer κ := { p with effects := p.effects ++ [effect] }

def setDestinations (userId : UserId) (clients : List SharedUnlockClient) : Peer κ :=
  { p with destinations := p.destinations.insert userId clients }

def isDestination (userId : UserId) (endpoint : Endpoint) : Bool :=
  (p.destinations.lookup userId).any fun clients =>
    clients.contains (SharedUnlockClient.ofEndpoint endpoint)

/-! ## Active peers -/

def upsert (instant : ℕ) (target : SyncTarget) : Bool × Peer κ :=
  ((p.activePeers.lookup target.endpoint).isNone,
    { p with activePeers := p.activePeers.insert target.endpoint ⟨instant, target.origin⟩ })

def targets : List SyncTarget :=
  p.activePeers.entries.map fun entry => ⟨entry.1, entry.2.origin⟩

def pruneStale (instant staleAfter : ℕ) : Peer κ :=
  { p with activePeers :=
      p.activePeers.retain fun _ record => decide (instant - record.lastSeen ≤ staleAfter) }

def syncTargets (leader : Option Endpoint) : List SyncTarget :=
  match leader with
  | none => p.targets
  | some leader =>
    if p.targets.any fun target => target.endpoint == leader then p.targets
    else p.targets ++ [SyncTarget.withoutOrigin leader]

/-! ## Lock states -/

def setLastManualLock (userId : UserId) (lockedAt : UInt64) : Peer κ :=
  { p with lastManualLock := p.lastManualLock.insert userId lockedAt }

/-- The recorded state, or the persisted last lock, which is then recorded. -/
def restoredState (userId : UserId) : Option (TimestampedLockState κ) × Peer κ :=
  match p.states.lookup userId with
  | some recorded => (some recorded, p)
  | none =>
    let (restored, states) := restoreState p.states userId (p.lastManualLock.lookup userId)
    (restored, { p with states })

def advertisedState (userId : UserId) : TimestampedLockState κ × Peer κ :=
  let (restored, p) := p.restoredState userId
  (restored.getD TimestampedLockState.default, p)

/-! ## Sending -/

variable (env : Surroundings)

def maySyncUserTo (userId : UserId) (target : SyncTarget) : Bool :=
  if p.isDestination userId target.endpoint then
    match target.endpoint with
    | .web .. =>
      match target.origin with
      | none => false
      | some origin =>
        match env.vaultUrl userId with
        | some userVaultUrl => userVaultUrl == origin
        | none => false
    | _ => true
  else false

def syncUserTo (userId : UserId) (p : Peer κ) (target : SyncTarget) : Peer κ :=
  if p.maySyncUserTo env userId target then
    let (state, p) := p.advertisedState userId
    p.emit (.sent target.endpoint ⟨userId, state⟩)
  else p

/-- Sends the state of a user to every peer. The leader is asked for the `query`-th time. -/
def syncUser (query : ℕ) (p : Peer κ) (userId : UserId) : Peer κ :=
  (p.syncTargets (env.discoverLeader query)).foldl (syncUserTo env userId) p

def syncAllUsers : Peer κ :=
  env.listUsers.zipIdx.foldl (fun p user => syncUser env user.2 p user.1) p

def syncAllUsersTo (target : SyncTarget) : Peer κ :=
  env.listUsers.foldl (fun p userId => syncUserTo env userId p target) p

/-- Sends a state to every peer without recording it. -/
def relayUserState (query : ℕ) (userId : UserId) (state : TimestampedLockState κ) : Peer κ :=
  (p.syncTargets (env.discoverLeader query)).foldl
    (fun p target =>
      if p.maySyncUserTo env userId target then p.emit (.sent target.endpoint ⟨userId, state⟩)
      else p) p

/-! ## Operations -/

/-- `lock_user` or `unlock_user`, which changes the device if it succeeds. -/
def drive (ok : Bool) (userId : UserId) (lockState : LockState κ) : Peer κ :=
  let called :=
    match lockState with
    | .locked => p.emit (.lockUser userId)
    | .unlocked userKey => p.emit (.unlockUser userId userKey)
  if ok then { called with lockStates := Function.update called.lockStates userId lockState }
  else called

/-- A lock is persisted before the driver is called, because a client may reload inside
`lock_user`. -/
def persistLock (userId : UserId) (remote : TimestampedLockState κ) : Peer κ :=
  match remote.lockState with
  | .locked => p.setLastManualLock userId remote.changedAt
  | .unlocked _ => p

/-- What `apply_remote_state` does with a superseding state once a lock is persisted. -/
def adoptRemoteState [DecidableEq κ] (p : Peer κ) (env : Surroundings) (userId : UserId)
    (remote : TimestampedLockState κ) : Except Unit Unit × Peer κ :=
  let (advertised, p) := p.advertisedState userId
  if remote.lockState ≠ advertised.lockState then
    let p := p.relayUserState env 1 userId remote
    let p := p.drive env.driverOk userId remote.lockState
    if env.driverOk then (.ok (), { p with states := recordRemoteState p.states userId remote })
    else (.error (), p)
  else (.ok (), { p with states := recordRemoteState p.states userId remote })

/-- Applies the state of a peer if it is newer than what the device has recorded. -/
def applyRemoteState [DecidableEq κ] (p : Peer κ) (env : Surroundings) (userId : UserId)
    (remote : TimestampedLockState κ) : Except Unit Unit × Peer κ :=
  let (restored, p) := p.restoredState userId
  if remote.supersedes restored then
    (p.persistLock userId remote).adoptRemoteState env userId remote
  else (.ok (), p)

/-- Whether the origin of a web page is the vault URL of the user. -/
def validOrigin (userId : UserId) : Source → Bool
  | .web _ _ origin =>
    match env.vaultUrl userId with
    | some userVaultUrl => origin == userVaultUrl
    | none => false
  | _ => true

/-- Whether a sync passes the checks of `receive_message`. -/
def accepts (source : Source) (userId : UserId) : Bool :=
  p.isDestination userId source.toEndpoint && validOrigin env userId source &&
    env.listUsers.contains userId

/-- Takes note of who a sync that has passed its checks came from. Returns whether that is
the first contact. -/
def noteSource (source : Source) (userId : UserId) : Bool × Peer κ :=
  let target := SyncTarget.fromSource source
  let p :=
    if env.discoverLeader 0 = some target.endpoint then
      p.emit (.suppressVaultTimeout userId
        (p.timing.syncInterval + p.timing.vaultTimeoutGracePeriod))
    else p
  p.upsert env.instant target

/-- What `receive_message` does with a sync that has passed its checks. -/
def handleSync [DecidableEq κ] (p : Peer κ) (env : Surroundings) (source : Source)
    (sync : SharedUnlockSync κ) : Except Unit Unit × Peer κ :=
  let (firstContact, p) := p.noteSource env source sync.userId
  match p.applyRemoteState env sync.userId sync.state with
  | (.error (), p) => (.error (), p)
  | (.ok (), p) =>
    let p := p.emit (.onPeerState sync.userId sync.state.lockState.peerState)
    (.ok (), if firstContact then p.syncAllUsersTo env (SyncTarget.fromSource source) else p)

def receiveMessage [DecidableEq κ] (p : Peer κ) (env : Surroundings) (source : Source)
    (sync : SharedUnlockSync κ) : Except Unit Unit × Peer κ :=
  if p.accepts env source sync.userId then p.handleSync env source sync else (.ok (), p)

def changeDevice (event : DeviceEvent κ) : Peer κ :=
  { p with lockStates := Function.update p.lockStates event.userId event.lockState }

/-- Records a change made on the device. A lock is persisted, so that it survives a
reload. -/
def recordEvent (now : UInt64) (event : DeviceEvent κ) : Peer κ :=
  let changedAt := localDate p.states event.userId now
  let p := { p with states := recordLocalState p.states event.userId event.lockState now }
  match event with
  | .manualLock userId => p.setLastManualLock userId changedAt
  | .manualUnlock _ _ => p

def handleDeviceEvent (event : DeviceEvent κ) : Peer κ :=
  syncUser env 0 (p.recordEvent env.nowMillis event) event.userId

def tick : Peer κ :=
  (p.pruneStale env.instant p.timing.peerStaleAfter).syncAllUsers env

end Peer

inductive Operation (κ : Type) where
  | receive (source : Source) (sync : SharedUnlockSync κ)
  /-- The user changes the device, and the change is reported. -/
  | deviceEvent (event : DeviceEvent κ)
  | tick
  /-- What `start` sends once. -/
  | announce
  | prune (staleAfter : ℕ)
  | setDestinations (userId : UserId) (clients : List SharedUnlockClient)

def Peer.perform [DecidableEq κ] (p : Peer κ) (env : Surroundings) : Operation κ → Peer κ
  | .receive source sync => (p.receiveMessage env source sync).2
  | .deviceEvent event => (p.changeDevice event).handleDeviceEvent env event
  | .tick => p.tick env
  | .announce => p.syncAllUsers env
  | .prune staleAfter => p.pruneStale env.instant staleAfter
  | .setDestinations userId clients => p.setDestinations userId clients

end SdkInternal.SharedUnlock
