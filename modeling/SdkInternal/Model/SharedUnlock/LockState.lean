import SdkInternal.Model.Ipc.Message
import SdkInternal.Shared.KeyedStore

/-! # Lock states and the message of the shared unlock protocol

Every device records for each user whether it is locked, and since when. The user key an
unlocked state carries is of an arbitrary type. -/

namespace SdkInternal.SharedUnlock

open Ipc Shared

structure UserId where
  uuid : BitVec 128
deriving DecidableEq

inductive LockState (κ : Type) where
  | locked
  | unlocked (userKey : κ)
deriving DecidableEq

inductive PeerLockState where
  | locked
  | unlocked
deriving DecidableEq

variable {κ : Type}

namespace LockState

def peerState : LockState κ → PeerLockState
  | .locked => .locked
  | .unlocked _ => .unlocked

def isLocked : LockState κ → Bool
  | .locked => true
  | .unlocked _ => false

end LockState

structure TimestampedLockState (κ : Type) where
  lockState : LockState κ
  changedAt : UInt64
deriving DecidableEq

namespace TimestampedLockState

/-- What a peer advertises for a user it has not observed a transition for. -/
def default : TimestampedLockState κ := ⟨.locked, 0⟩

/-- Whether a state that a peer reports supersedes what the device has recorded. Equal
dates are broken toward `Locked`. -/
def supersedes (self : TimestampedLockState κ) (recorded : Option (TimestampedLockState κ)) :
    Bool :=
  let recordedAt := (recorded.map (·.changedAt)).getD 0
  match compare self.changedAt recordedAt with
  | .gt => true
  | .lt => false
  | .eq =>
    self.lockState.isLocked && recorded.any fun recorded => !recorded.lockState.isLocked

end TimestampedLockState

/-- The only message of the protocol. -/
structure SharedUnlockSync (κ : Type) where
  userId : UserId
  state : TimestampedLockState κ
deriving DecidableEq

/-- A lock state change that the user made on the device. -/
inductive DeviceEvent (κ : Type) where
  | manualLock (userId : UserId)
  | manualUnlock (userId : UserId) (userKey : κ)

namespace DeviceEvent

def userId : DeviceEvent κ → UserId
  | .manualLock userId => userId
  | .manualUnlock userId _ => userId

def lockState : DeviceEvent κ → LockState κ
  | .manualLock _ => .locked
  | .manualUnlock _ userKey => .unlocked userKey

end DeviceEvent

/-- The kinds of clients that a user may be shared with. -/
inductive SharedUnlockClient where
  | browser
  | cli
  | desktop
  | web
deriving DecidableEq

def SharedUnlockClient.ofEndpoint : Endpoint → SharedUnlockClient
  | .web .. => .web
  | .browserForeground _ => .browser
  | .browserBackground _ => .browser
  | .cli _ => .cli
  | .desktopRenderer => .desktop
  | .desktopMain => .desktop

/-! ## What a device has recorded -/

abbrev States (κ : Type) := Store UserId (TimestampedLockState κ)

/-- `u64::saturating_add(1)`. -/
def saturatingSucc (n : UInt64) : UInt64 :=
  if n = UInt64.ofNat (2 ^ 64 - 1) then n else n + 1

variable (states : States κ) (userId : UserId)

def recordRemoteState (state : TimestampedLockState κ) : States κ :=
  if state.supersedes (states.lookup userId) then states.insert userId state else states

/-- The date of a change made on the device when the clock reads `now`. -/
def localDate (now : UInt64) : UInt64 :=
  max (((states.lookup userId).map fun recorded => saturatingSucc recorded.changedAt).getD 0) now

def recordLocalState (lockState : LockState κ) (now : UInt64) : States κ :=
  states.insert userId ⟨lockState, localDate states userId now⟩

/-- The record of a user after the answer of `get_last_manual_lock` has arrived: a state
recorded while the driver was awaited is kept. -/
def restoreState (lastManualLock : Option UInt64) : Option (TimestampedLockState κ) × States κ :=
  match lastManualLock with
  | none => (none, states)
  | some changedAt =>
    match states.lookup userId with
    | some recorded => (some recorded, states)
    | none => (some ⟨.locked, changedAt⟩, states.insert userId ⟨.locked, changedAt⟩)

end SdkInternal.SharedUnlock
