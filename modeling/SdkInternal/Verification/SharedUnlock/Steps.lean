import SdkInternal.Model.SharedUnlock.Device
import SdkInternal.Verification.SharedUnlock.Records

/-! # What one step of a device can do

A step concerns one operation and one user. It is described by what it does to the view of
that user and to the place of that operation; every other view and place stays. -/

namespace SdkInternal.SharedUnlock

open Shared TimestampedLockState Function

variable {κ : Type}

/-! ## The view of one user -/

structure View (κ : Type) where
  record : Option (TimestampedLockState κ)
  stored : Option UInt64
  device : LockState κ

namespace View

variable (v : View κ)

/-- What `restored_state` returns when nothing else happens meanwhile. -/
def restored : Option (TimestampedLockState κ) :=
  v.record.or (persistedState v.stored)

variable (remote : TimestampedLockState κ)

def recordRemote : View κ :=
  { v with record := Latest.offer recordedRank v.record (some remote) }

def restore (answer : Option UInt64) : View κ :=
  { v with record := v.record.or (persistedState answer) }

def recordLocal (state : TimestampedLockState κ) : View κ :=
  { v with record := some state }

def storeLock (lockedAt : UInt64) : View κ := { v with stored := some lockedAt }

def setDevice (lockState : LockState κ) : View κ := { v with device := lockState }

theorem rank_le_recordRemote :
    recordedRank v.record ≤ recordedRank (v.recordRemote remote).record := by
  rw [recordRemote, Latest.rank_offer recordedRank]
  exact le_max_left _ _

variable {v : View κ} {recorded : TimestampedLockState κ}

section

variable (h : v.record = some recorded)

include h

theorem restore_of_some (answer : Option UInt64) : v.restore answer = v := by
  cases v
  simp_all [restore]

theorem restored_of_some : v.restored = some recorded := by
  simp [restored, h]

theorem restored_storeLock (lockedAt : UInt64) : (v.storeLock lockedAt).restored = v.restored := by
  rw [restored_of_some h]
  exact restored_of_some h

end

end View

/-- What was ever recorded or persisted for one user. -/
structure Ledger (κ : Type) where
  held : List (TimestampedLockState κ)
  log : List UInt64

def Task.userId : Task κ → Option UserId
  | .idle => none
  | .applying userId _ _ => some userId
  | .event reported _ => some reported.userId
  | .advertising userId _ => some userId

namespace Device

def view (s : Device κ) (userId : UserId) : View κ :=
  ⟨s.states.lookup userId, s.lastManualLock.lookup userId, s.lockStates userId⟩

def ledger (s : Device κ) (userId : UserId) : Ledger κ where
  held := (s.held.filter fun entry => entry.1 = userId).map Prod.snd
  log := (s.persisted.filter fun entry => entry.1 = userId).map Prod.snd

theorem mem_held_ledger {s : Device κ} {userId : UserId} {state : TimestampedLockState κ} :
    state ∈ (s.ledger userId).held ↔ (userId, state) ∈ s.held := by
  simp [ledger, eq_comm]

section

variable (s : Device κ) (task : ℕ) (userId : UserId) (lockedAt : UInt64)
  (remote : TimestampedLockState κ) (lockState : LockState κ) (answer : Option UInt64) (pc : Task κ)

@[simp] theorem view_setTask (other : UserId) : (s.setTask task pc).view other = s.view other := rfl

@[simp] theorem tasks_setTask : (s.setTask task pc).tasks = update s.tasks task pc := rfl

theorem tasks_setTask_self : (s.setTask task pc).tasks task = pc :=
  update_self _ _ _

theorem tasks_setTask_of_ne {other : ℕ} (h : other ≠ task) :
    (s.setTask task pc).tasks other = s.tasks other :=
  update_of_ne h _ _

variable (event : DeviceEvent κ)

@[simp] theorem view_recordRemote :
    (s.recordRemote userId remote).view userId = (s.view userId).recordRemote remote := by
  simp [view, recordRemote, setStates, View.recordRemote, lookup_recordRemoteState]

@[simp] theorem view_recordLocal (now : UInt64) :
    (s.recordLocal event now).view event.userId =
      (s.view event.userId).recordLocal ⟨event.lockState, localDate s.states event.userId now⟩ := by
  simp [view, recordLocal, setStates, View.recordLocal, lookup_recordLocalState]

@[simp] theorem view_restore :
    (s.restore userId answer).view userId = (s.view userId).restore answer := by
  simp [view, restore, setStates, View.restore, lookup_restoreState]

@[simp] theorem view_storeLock :
    (s.storeLock userId lockedAt).view userId = (s.view userId).storeLock lockedAt := by
  simp [view, storeLock, View.storeLock]

@[simp] theorem view_setLockState :
    (s.setLockState userId lockState).view userId = (s.view userId).setDevice lockState := by
  simp [view, setLockState, View.setDevice]

variable (states : States κ)

theorem ledger_setStates :
    (s.setStates userId states).ledger userId =
      ⟨(s.ledger userId).held ++ (states.lookup userId).toList, (s.ledger userId).log⟩ := by
  cases h : states.lookup userId <;> simp [ledger, setStates, h]

theorem ledger_storeLock :
    (s.storeLock userId lockedAt).ledger userId =
      ⟨(s.ledger userId).held ++ [⟨.locked, lockedAt⟩], (s.ledger userId).log ++ [lockedAt]⟩ := by
  simp [ledger, storeLock]

variable {userId} {other : UserId} (h : other ≠ userId)

include h

theorem view_recordRemote_of_ne : (s.recordRemote userId remote).view other = s.view other := by
  simp [view, recordRemote, setStates, lookup_recordRemoteState_of_ne h]

theorem view_restore_of_ne : (s.restore userId answer).view other = s.view other := by
  simp [view, restore, setStates, lookup_restoreState_of_ne h]

theorem view_storeLock_of_ne : (s.storeLock userId lockedAt).view other = s.view other := by
  simp [view, storeLock, AList.lookup_insert_ne h]

theorem view_setLockState_of_ne : (s.setLockState userId lockState).view other = s.view other := by
  simp [view, setLockState, h]

theorem ledger_setStates_of_ne : (s.setStates userId states).ledger other = s.ledger other := by
  cases hlookup : states.lookup userId <;> simp [ledger, setStates, hlookup, h.symm]

theorem ledger_storeLock_of_ne : (s.storeLock userId lockedAt).ledger other = s.ledger other := by
  simp [ledger, storeLock, h.symm]

end

theorem view_recordLocal_of_ne (s : Device κ) {event : DeviceEvent κ} {other : UserId}
    (h : other ≠ event.userId) (now : UInt64) :
    (s.recordLocal event now).view other = s.view other := by
  simp [view, recordLocal, setStates, lookup_recordLocalState_of_ne h]

/-- What is restored, in terms of the view afterwards. An empty answer is not compared with
the record. -/
theorem restoreState_fst (s : Device κ) (userId : UserId) (answer : Option UInt64) :
    (restoreState s.states userId answer).1 =
      if answer.isSome then ((s.restore userId answer).view userId).record else none := by
  cases answer with
  | none => rfl
  | some changedAt => exact restoreState_some changedAt

/-! ## Transitions -/

variable [DecidableEq κ]

/-- The transitions of the operation `t`, each with the conditions under which it is taken.
All of them concern the user `u`. -/
inductive Stepped (s : Device κ) (t : ℕ) (u : UserId) : DeviceAction κ → Device κ → Prop where
  | start {r} (hpc : s.tasks t = .idle) (hnone : (s.view u).record = none) :
      Stepped s t u (.receive t u r) (s.setTask t (.applying u r (.restoring false none)))
  | compare {r recorded} (hpc : s.tasks t = .idle) (hsome : (s.view u).record = some recorded) :
      Stepped s t u (.receive t u r) (s.check t u r (some recorded))
  | known (hpc : s.tasks t = .idle) : Stepped s t u (.advertise t u) s
  | look (hpc : s.tasks t = .idle) (hnone : (s.view u).record = none) :
      Stepped s t u (.advertise t u) (s.setTask t (.advertising u none))
  | change {event} (hpc : s.tasks t = .idle) (huser : event.userId = u) :
      Stepped s t u (.change t event)
        ((s.setLockState u event.lockState).setTask t (.event event .changed))
  | reportLock {now} (hpc : s.tasks t = .event (.manualLock u) .changed) :
      Stepped s t u (.report t now)
        ((s.recordLocal (.manualLock u) now).setTask t
          (.event (.manualLock u) (.persisting (localDate s.states u now) false)))
  | reportUnlock {k now} (hpc : s.tasks t = .event (.manualUnlock u k) .changed) :
      Stepped s t u (.report t now) ((s.recordLocal (.manualUnlock u k) now).setTask t .idle)
  | read {r again} (hpc : s.tasks t = .applying u r (.restoring again none)) :
      Stepped s t u (.read t)
        (s.setTask t (.applying u r (.restoring again (some (s.view u).stored))))
  | readAdvertised (hpc : s.tasks t = .advertising u none) :
      Stepped s t u (.read t) (s.setTask t (.advertising u (some (s.view u).stored)))
  | persist {r} (hpc : s.tasks t = .applying u r (.persisting false)) :
      Stepped s t u (.persist t)
        ((s.storeLock u r.changedAt).setTask t (.applying u r (.persisting true)))
  | persistEvent {event changedAt} (hpc : s.tasks t = .event event (.persisting changedAt false))
      (huser : event.userId = u) :
      Stepped s t u (.persist t)
        ((s.storeLock u changedAt).setTask t (.event event (.persisting changedAt true)))
  | relay {r} (hpc : s.tasks t = .applying u r .relaying) :
      Stepped s t u (.relay t) (s.setTask t (.applying u r (.driving none)))
  | drive {r ok} (hpc : s.tasks t = .applying u r (.driving none)) :
      Stepped s t u (.drive t ok)
        ((if ok then s.setLockState u r.lockState else s).setTask t
          (.applying u r (.driving (some ok))))
  | restored {r answer} (hpc : s.tasks t = .applying u r (.restoring false (some answer))) :
      Stepped s t u (.resume t)
        ((s.restore u answer).check t u r (restoreState s.states u answer).1)
  | restoredAgain {r answer} (hpc : s.tasks t = .applying u r (.restoring true (some answer))) :
      Stepped s t u (.resume t)
        ((s.restore u answer).settle t u r (restoreState s.states u answer).1)
  | persisted {r} (hpc : s.tasks t = .applying u r (.persisting true)) :
      Stepped s t u (.resume t) (s.lookAgain t u r)
  | driven {r ok} (hpc : s.tasks t = .applying u r (.driving (some ok))) :
      Stepped s t u (.resume t) ((if ok then s.recordRemote u r else s).setTask t .idle)
  | reported {event changedAt} (hpc : s.tasks t = .event event (.persisting changedAt true))
      (huser : event.userId = u) : Stepped s t u (.resume t) (s.setTask t .idle)
  | advertised {answer} (hpc : s.tasks t = .advertising u (some answer)) :
      Stepped s t u (.resume t) ((s.restore u answer).setTask t .idle)

variable {s s' : Device κ}

theorem stepped_of_stepResume {t : ℕ} (h : s.stepResume t = some s') :
    ∃ u, Stepped s t u (.resume t) s' := by
  unfold stepResume at h
  split at h
  next again answer hpc =>
    cases again <;> cases h
    · exact ⟨_, .restored hpc⟩
    · exact ⟨_, .restoredAgain hpc⟩
  all_goals cases h
  next hpc => exact ⟨_, .persisted hpc⟩
  next hpc => exact ⟨_, .driven hpc⟩
  next hpc => exact ⟨_, .reported hpc rfl⟩
  next hpc => exact ⟨_, .advertised hpc⟩

theorem stepped_of_step {action : DeviceAction κ} (h : s.step action = some s') :
    ∃ t u, Stepped s t u action s' := by
  cases action
  case resume t => exact ⟨t, stepped_of_stepResume h⟩
  case report t now =>
    simp only [step] at h
    split at h
    next event hpc =>
      cases event <;> cases h
      · exact ⟨_, _, .reportLock hpc⟩
      · exact ⟨_, _, .reportUnlock hpc⟩
    next => cases h
  all_goals
    simp only [step] at h
    split at h
  all_goals cases h
  next hpc hsome => exact ⟨_, _, .compare hpc hsome⟩
  next hpc hnone => exact ⟨_, _, .start hpc hnone⟩
  next hpc _ => exact ⟨_, _, .known hpc⟩
  next hpc hnone => exact ⟨_, _, .look hpc hnone⟩
  next hpc => exact ⟨_, _, .change hpc rfl⟩
  next hpc => exact ⟨_, _, .read hpc⟩
  next hpc => exact ⟨_, _, .readAdvertised hpc⟩
  next hpc => exact ⟨_, _, .persist hpc⟩
  next hpc => exact ⟨_, _, .persistEvent hpc rfl⟩
  next hpc => exact ⟨_, _, .relay hpc⟩
  next hpc => exact ⟨_, _, .drive hpc⟩

/-! ## Other users -/

structure SameBut (s s' : Device κ) (u : UserId) : Prop where
  view : ∀ other, other ≠ u → s'.view other = s.view other
  ledger : ∀ other, other ≠ u → s'.ledger other = s.ledger other

/-- Only the place of `t` and what is held for `u` may have changed, and `t` is about no
other user before and after. -/
structure Frame (s s' : Device κ) (t : ℕ) (u : UserId) : Prop extends SameBut s s' u where
  tasks : ∀ t', t' ≠ t → s'.tasks t' = s.tasks t'
  before : ∀ other, other ≠ u → (s.tasks t).userId ≠ some other
  after : ∀ other, other ≠ u → (s'.tasks t).userId ≠ some other

section

variable {s s' : Device κ} {t : ℕ} {u other : UserId} {P : Task κ → Prop}

omit [DecidableEq κ]

theorem Frame.task_iff (hframe : Frame s s' t u) (hne : other ≠ u)
    (hP : ∀ task : Task κ, task.userId ≠ some other → ¬P task) (t' : ℕ) :
    P (s'.tasks t') ↔ P (s.tasks t') := by
  by_cases ht : t' = t
  · subst ht
    exact iff_of_false (hP _ (hframe.after other hne)) (hP _ (hframe.before other hne))
  · rw [hframe.tasks t' ht]

theorem Frame.forall_tasks (hframe : Frame s s' t u) (hne : other ≠ u)
    (hP : ∀ task : Task κ, task.userId ≠ some other → P task) (h : ∀ t', P (s.tasks t'))
    (t' : ℕ) : P (s'.tasks t') := by
  by_cases ht : t' = t
  · subst ht
    exact hP _ (hframe.after other hne)
  · rw [hframe.tasks t' ht]
    exact h t'

end

section SameBut

variable (s : Device κ) (u : UserId)

omit [DecidableEq κ]

theorem sameBut_refl : SameBut s s u := ⟨fun _ _ => rfl, fun _ _ => rfl⟩

theorem sameBut_setLockState (lockState : LockState κ) : SameBut s (s.setLockState u lockState) u :=
  ⟨fun _ h => view_setLockState_of_ne s _ h, fun _ _ => rfl⟩

theorem sameBut_storeLock (lockedAt : UInt64) : SameBut s (s.storeLock u lockedAt) u :=
  ⟨fun _ h => view_storeLock_of_ne s _ h, fun _ h => ledger_storeLock_of_ne s _ h⟩

theorem sameBut_restore (answer : Option UInt64) : SameBut s (s.restore u answer) u :=
  ⟨fun _ h => view_restore_of_ne s _ h, fun _ h => ledger_setStates_of_ne s _ h⟩

theorem sameBut_recordRemote (r : TimestampedLockState κ) : SameBut s (s.recordRemote u r) u :=
  ⟨fun _ h => view_recordRemote_of_ne s _ h, fun _ h => ledger_setStates_of_ne s _ h⟩

theorem sameBut_recordLocal (event : DeviceEvent κ) (now : UInt64) :
    SameBut s (s.recordLocal event now) event.userId :=
  ⟨fun _ h => view_recordLocal_of_ne s h _, fun _ h => ledger_setStates_of_ne s _ h⟩

end SameBut

omit [DecidableEq κ] in
theorem SameBut.trans {s s' s'' : Device κ} {u : UserId} (h : SameBut s s' u)
    (h' : SameBut s' s'' u) : SameBut s s'' u :=
  ⟨fun other hne => (h'.view other hne).trans (h.view other hne),
    fun other hne => (h'.ledger other hne).trans (h.ledger other hne)⟩

section Frame

variable {s base : Device κ} {t : ℕ} {u : UserId} (hsame : SameBut s base u)
  (htasks : base.tasks = s.tasks)
  (hbefore : (s.tasks t).userId = none ∨ (s.tasks t).userId = some u)

include hsame htasks hbefore

omit [DecidableEq κ] in
theorem frame_setTask {pc : Task κ} (hpc : pc.userId = none ∨ pc.userId = some u) :
    Frame s (base.setTask t pc) t u where
  view := hsame.view
  ledger := hsame.ledger
  tasks t' ht' := by simp [update_of_ne ht', htasks]
  before other hother := by
    rcases hbefore with h | h <;> simp [h, hother.symm]
  after other hother := by
    rcases hpc with h | h <;> simp [h, hother.symm]

variable (r : TimestampedLockState κ) (restored : Option (TimestampedLockState κ))

theorem frame_settle : Frame s (base.settle t u r restored) t u := by
  rw [settle]
  split
  · exact frame_setTask hsame htasks hbefore (.inr rfl)
  · exact frame_setTask (hsame.trans (sameBut_recordRemote base u r)) htasks hbefore (.inl rfl)

theorem frame_lookAgain : Frame s (base.lookAgain t u r) t u := by
  rw [lookAgain]
  split
  · exact frame_settle hsame htasks hbefore r _
  · exact frame_setTask hsame htasks hbefore (.inr rfl)

theorem frame_check : Frame s (base.check t u r restored) t u := by
  rw [check]
  split
  · split
    · exact frame_setTask hsame htasks hbefore (.inr rfl)
    · exact frame_lookAgain hsame htasks hbefore r
  · exact frame_setTask hsame htasks hbefore (.inl rfl)

end Frame

theorem Stepped.frame {t : ℕ} {u : UserId} {action : DeviceAction κ} (h : Stepped s t u action s') :
    Frame s s' t u := by
  have same := sameBut_refl s u
  have hbefore : (s.tasks t).userId = none ∨ (s.tasks t).userId = some u := by
    cases h <;> simp [*, Task.userId] <;> rfl
  cases h with
  | start | look | read | readAdvertised | relay =>
    exact frame_setTask same rfl hbefore (.inr rfl)
  | compare => exact frame_check same rfl hbefore _ _
  | known hpc =>
    exact ⟨same, fun _ _ => rfl, by simp [hpc, Task.userId], by simp [hpc, Task.userId]⟩
  | change hpc huser =>
    exact frame_setTask (sameBut_setLockState s u _) rfl hbefore (.inr (congrArg some huser))
  | reportLock => exact frame_setTask (sameBut_recordLocal s _ _) rfl hbefore (.inr rfl)
  | reportUnlock => exact frame_setTask (sameBut_recordLocal s _ _) rfl hbefore (.inl rfl)
  | persist => exact frame_setTask (sameBut_storeLock s u _) rfl hbefore (.inr rfl)
  | persistEvent hpc huser =>
    exact frame_setTask (sameBut_storeLock s u _) rfl hbefore (.inr (congrArg some huser))
  | @drive r ok =>
    cases ok with
    | false => exact frame_setTask same rfl hbefore (.inr rfl)
    | true => exact frame_setTask (sameBut_setLockState s u _) rfl hbefore (.inr rfl)
  | restored => exact frame_check (sameBut_restore s u _) rfl hbefore _ _
  | restoredAgain => exact frame_settle (sameBut_restore s u _) rfl hbefore _ _
  | persisted => exact frame_lookAgain same rfl hbefore _
  | @driven r ok =>
    cases ok with
    | false => exact frame_setTask same rfl hbefore (.inl rfl)
    | true => exact frame_setTask (sameBut_recordRemote s u _) rfl hbefore (.inl rfl)
  | reported => exact frame_setTask same rfl hbefore (.inl rfl)
  | advertised => exact frame_setTask (sameBut_restore s u _) rfl hbefore (.inl rfl)

end Device

end SdkInternal.SharedUnlock
