import SdkInternal.Model.SharedUnlock.Peer
import SdkInternal.Shared.Run

/-! # The operations of one peer, interleaved

The lock states of a device while any number of operations of its peer are in progress. The
code between two await points is one step. A call of the driver takes effect in a step of
its own, at any time between the call and its return. Sending is left out: it reads the
record through `advertised_state` only, which is an operation of its own here. -/

namespace SdkInternal.SharedUnlock

open Shared

inductive ApplyPc where
  /-- Nothing is recorded, and `get_last_manual_lock` is awaited, for the first time or
  `again`. The answer is there once the driver has read the date. -/
  | restoring (again : Bool) (answer : Option (Option UInt64))
  /-- `set_last_manual_lock` is awaited. -/
  | persisting (stored : Bool)
  /-- The state differs and is sent to the peers. -/
  | relaying
  /-- `lock_user` or `unlock_user` is awaited. -/
  | driving (answer : Option Bool)

inductive EventPc where
  /-- The device has changed, and `handle_device_event` is about to be called. -/
  | changed
  /-- The change is recorded, and `set_last_manual_lock` is awaited. -/
  | persisting (changedAt : UInt64) (stored : Bool)

inductive Task (κ : Type) where
  | idle
  | applying (userId : UserId) (remote : TimestampedLockState κ) (pc : ApplyPc)
  | event (event : DeviceEvent κ) (pc : EventPc)
  /-- A sync looks up the state to advertise and awaits `get_last_manual_lock`. -/
  | advertising (userId : UserId) (answer : Option (Option UInt64))

inductive DeviceAction (κ : Type) where
  /-- A sync that has passed its checks is applied. -/
  | receive (task : ℕ) (userId : UserId) (remote : TimestampedLockState κ)
  | advertise (task : ℕ) (userId : UserId)
  /-- The device changes its own lock state. -/
  | change (task : ℕ) (event : DeviceEvent κ)
  /-- `handle_device_event` is called while the clock reads `now`. -/
  | report (task : ℕ) (now : UInt64)
  /-- The driver reads the persisted date. -/
  | read (task : ℕ)
  /-- The driver persists a date. -/
  | persist (task : ℕ)
  /-- The state has been sent to every peer. -/
  | relay (task : ℕ)
  /-- The driver locks or unlocks the device, or fails to. -/
  | drive (task : ℕ) (ok : Bool)
  /-- The awaited call returns. -/
  | resume (task : ℕ)

/-- A device with its operations in progress. `held` lists every state that was recorded or
persisted for a user so far, and `persisted` the dates in the order they were persisted. -/
structure Device (κ : Type) where
  states : States κ
  lastManualLock : Store UserId UInt64
  lockStates : UserId → LockState κ
  tasks : ℕ → Task κ
  held : List (UserId × TimestampedLockState κ)
  persisted : List (UserId × UInt64)

variable {κ : Type}

namespace Device

/-- A device on which the peer has never run. -/
def install (lockStates : UserId → LockState κ) : Device κ :=
  ⟨∅, ∅, lockStates, fun _ => .idle, [], []⟩

def setTask (s : Device κ) (task : ℕ) (pc : Task κ) : Device κ :=
  { s with tasks := Function.update s.tasks task pc }

def setStates (s : Device κ) (userId : UserId) (states : States κ) : Device κ :=
  { s with
    states
    held := s.held ++ ((states.lookup userId).map fun state => (userId, state)).toList }

/-- `set_last_manual_lock` takes effect. -/
def storeLock (s : Device κ) (userId : UserId) (lockedAt : UInt64) : Device κ :=
  { s with
    lastManualLock := s.lastManualLock.insert userId lockedAt
    held := s.held ++ [(userId, ⟨.locked, lockedAt⟩)]
    persisted := s.persisted ++ [(userId, lockedAt)] }

def setLockState (s : Device κ) (userId : UserId) (lockState : LockState κ) : Device κ :=
  { s with lockStates := Function.update s.lockStates userId lockState }

/-- `record_remote_state`. -/
def recordRemote (s : Device κ) (userId : UserId) (remote : TimestampedLockState κ) : Device κ :=
  s.setStates userId (recordRemoteState s.states userId remote)

/-- `record_local_state`. -/
def recordLocal (s : Device κ) (event : DeviceEvent κ) (now : UInt64) : Device κ :=
  s.setStates event.userId (recordLocalState s.states event.userId event.lockState now)

/-- `restored_state` has its answer from the driver. -/
def restore (s : Device κ) (userId : UserId) (answer : Option UInt64) : Device κ :=
  s.setStates userId (restoreState s.states userId answer).2

variable [DecidableEq κ]

/-- The state is compared with what the peer advertises. -/
def settle (s : Device κ) (task : ℕ) (userId : UserId) (remote : TimestampedLockState κ)
    (restored : Option (TimestampedLockState κ)) : Device κ :=
  if remote.lockState ≠ (restored.getD TimestampedLockState.default).lockState then
    s.setTask task (.applying userId remote .relaying)
  else (s.recordRemote userId remote).setTask task .idle

/-- `advertised_state` is called once the state is known to supersede the record. -/
def lookAgain (s : Device κ) (task : ℕ) (userId : UserId) (remote : TimestampedLockState κ) :
    Device κ :=
  match s.states.lookup userId with
  | some recorded => s.settle task userId remote (some recorded)
  | none => s.setTask task (.applying userId remote (.restoring true none))

/-- The state is compared with the restored one. -/
def check (s : Device κ) (task : ℕ) (userId : UserId) (remote : TimestampedLockState κ)
    (restored : Option (TimestampedLockState κ)) : Device κ :=
  if remote.supersedes restored then
    match remote.lockState with
    | .locked => s.setTask task (.applying userId remote (.persisting false))
    | .unlocked _ => s.lookAgain task userId remote
  else s.setTask task .idle

/-- What a task does when the call it awaits returns. -/
def stepResume (s : Device κ) (task : ℕ) : Option (Device κ) :=
  match s.tasks task with
  | .applying userId remote (.restoring again (some answer)) =>
    let restored := (restoreState s.states userId answer).1
    let s := s.restore userId answer
    some (if again then s.settle task userId remote restored
      else s.check task userId remote restored)
  | .applying userId remote (.persisting true) => some (s.lookAgain task userId remote)
  | .applying userId remote (.driving (some ok)) =>
    some ((if ok then s.recordRemote userId remote else s).setTask task .idle)
  | .event _ (.persisting _ true) => some (s.setTask task .idle)
  | .advertising userId (some answer) => some ((s.restore userId answer).setTask task .idle)
  | _ => none

def step (s : Device κ) : DeviceAction κ → Option (Device κ)
  | .receive task userId remote =>
    match s.tasks task, s.states.lookup userId with
    | .idle, some recorded => some (s.check task userId remote (some recorded))
    | .idle, none => some (s.setTask task (.applying userId remote (.restoring false none)))
    | _, _ => none
  | .advertise task userId =>
    match s.tasks task, s.states.lookup userId with
    | .idle, some _ => some s
    | .idle, none => some (s.setTask task (.advertising userId none))
    | _, _ => none
  | .change task event =>
    match s.tasks task with
    | .idle =>
      some ((s.setLockState event.userId event.lockState).setTask task
        (.event event .changed))
    | _ => none
  | .report task now =>
    match s.tasks task with
    | .event event .changed =>
      let changedAt := localDate s.states event.userId now
      let s := s.recordLocal event now
      match event with
      | .manualLock _ => some (s.setTask task (.event event (.persisting changedAt false)))
      | .manualUnlock _ _ => some (s.setTask task .idle)
    | _ => none
  | .read task =>
    match s.tasks task with
    | .applying userId remote (.restoring again none) =>
      some (s.setTask task (.applying userId remote
        (.restoring again (some (s.lastManualLock.lookup userId)))))
    | .advertising userId none =>
      some (s.setTask task (.advertising userId (some (s.lastManualLock.lookup userId))))
    | _ => none
  | .persist task =>
    match s.tasks task with
    | .applying userId remote (.persisting false) =>
      some ((s.storeLock userId remote.changedAt).setTask task
        (.applying userId remote (.persisting true)))
    | .event event (.persisting changedAt false) =>
      some ((s.storeLock event.userId changedAt).setTask task
        (.event event (.persisting changedAt true)))
    | _ => none
  | .relay task =>
    match s.tasks task with
    | .applying userId remote .relaying =>
      some (s.setTask task (.applying userId remote (.driving none)))
    | _ => none
  | .drive task ok =>
    match s.tasks task with
    | .applying userId remote (.driving none) =>
      some ((if ok then s.setLockState userId remote.lockState else s).setTask task
        (.applying userId remote (.driving (some ok))))
    | _ => none
  | .resume task => s.stepResume task

/-- The process is reloaded: what the peer has recorded, its operations and the user keys in
memory are gone, and what the driver has persisted stays. -/
def reload (s : Device κ) : Device κ :=
  { s with states := ∅, lockStates := fun _ => .locked, tasks := fun _ => .idle }

inductive LifeAction (κ : Type) where
  | act (action : DeviceAction κ)
  | reload

def stepLife (s : Device κ) : LifeAction κ → Option (Device κ)
  | .act action => s.step action
  | .reload => some s.reload

end Device

end SdkInternal.SharedUnlock
