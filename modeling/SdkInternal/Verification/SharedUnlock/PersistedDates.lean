import SdkInternal.Verification.SharedUnlock.LocalDates

/-! # The persisted date of the last lock

`set_last_manual_lock` overwrites what is there, at some time after its date was decided
upon. The dates are persisted in order as long as no two decisions overlap and each is made
against a state that is not older than the persisted one; then a reload forgets no lock. -/

namespace SdkInternal.SharedUnlock

open Shared TimestampedLockState List Function Option

variable {κ : Type} {task : Task κ}

theorem Task.pending_ne {u : UserId} (h : task.userId ≠ some u) (d : UInt64) :
    task.pending ≠ some (u, d) := by
  unfold Task.pending
  split <;> first | exact fun hpending => h (congrArg (Option.map Prod.fst) hpending) | simp

namespace View

/-- What an operation in progress knows about the persisted date. -/
def Stores (v : View κ) (u : UserId) : Task κ → Prop
  | .applying user r (.restoring again answer) =>
    user = u → (∀ a, answer = some a → Below a v.stored) ∧
      (again = true → r.lockState = .locked → Reaches v.stored r.changedAt)
  | .applying user r (.persisting false) => user = u → Below v.stored (some r.changedAt)
  | .applying user r (.persisting true) => user = u → Reaches v.stored r.changedAt
  | .applying user r .relaying | .applying user r (.driving _) =>
    user = u → r.lockState = .locked → Reaches v.stored r.changedAt
  | .event reported (.persisting changedAt false) =>
    reported.userId = u → Below v.stored (some changedAt)
  | .advertising user (some answer) => user = u → Below answer v.stored
  | _ => True

variable {v v' : View κ} {u : UserId}

theorem stores_of_ne (v : View κ) (h : task.userId ≠ some u) : v.Stores u task := by
  unfold Stores
  split <;> first | trivial | exact fun huser => absurd (congrArg some huser) h

theorem Stores.mono (h : v.Stores u task) (hpending : ∀ d, task.pending ≠ some (u, d))
    (hstored : Below v.stored v'.stored) : v'.Stores u task := by
  match task, h, hpending with
  | .idle, _, _ => trivial
  | .applying user r (.restoring again answer), h, _ =>
    intro huser
    obtain ⟨hanswer, hlocked⟩ := h huser
    refine ⟨fun a ha => (hanswer a ha).trans hstored, fun hagain hr => ?_⟩
    exact (hlocked hagain hr).trans hstored
  | .applying user r (.persisting false), _, hpending =>
    exact fun huser => absurd (by rw [huser]; rfl) (hpending r.changedAt)
  | .applying user r (.persisting true), h, _ => exact fun huser => (h huser).trans hstored
  | .applying user r .relaying, h, _ | .applying user r (.driving _), h, _ =>
    exact fun huser hr => (h huser hr).trans hstored
  | .event reported .changed, _, _ => trivial
  | .event reported (.persisting changedAt false), _, hpending =>
    exact fun huser => absurd (by rw [← huser]; rfl) (hpending changedAt)
  | .event reported (.persisting _ true), _, _ | .advertising user none, _, _ => trivial
  | .advertising user (some answer), h, _ => exact fun huser => (h huser).trans hstored

end View

namespace Device

variable {s s' base : Device κ} {t : ℕ} {u : UserId} {r : TimestampedLockState κ}

def Settled (s : Device κ) (u : UserId) : Prop := ∀ t d, (s.tasks t).pending ≠ some (u, d)

/-! ## The invariant -/

/-- One date at most is about to be persisted, and it is not before the persisted one. Every
lock that was held is persisted, or about to be. -/
structure Ordered (s : Device κ) (u : UserId) : Prop where
  single : ∀ t t' d d', (s.tasks t).pending = some (u, d) → (s.tasks t').pending = some (u, d') →
    t = t'
  tasks : ∀ t, (s.view u).Stores u (s.tasks t)
  recorded : ∀ state, (s.view u).record = some state → state ∈ (s.ledger u).held
  locks : ∀ state ∈ (s.ledger u).held, state.lockState = .locked →
    Reaches (s.view u).stored state.changedAt ∨
      ∃ t d, (s.tasks t).pending = some (u, d) ∧ state.changedAt ≤ d
  sorted : (s.ledger u).log.Pairwise (· ≤ ·)
  logged : ∀ d ∈ (s.ledger u).log, Reaches (s.view u).stored d

section

variable (h : Ordered s u)

include h

theorem Ordered.setStates {states : States κ}
    (hnew : ∀ state, states.lookup u = some state → state.lockState = .locked →
      state ∈ (s.ledger u).held ∨ Reaches (s.view u).stored state.changedAt ∨
        ∃ t d, (s.tasks t).pending = some (u, d) ∧ state.changedAt ≤ d) :
    Ordered (s.setStates u states) u := by
  have hheld : ((s.setStates u states).ledger u).held =
      (s.ledger u).held ++ (states.lookup u).toList :=
    congrArg Ledger.held (ledger_setStates s u states)
  refine ⟨h.single, h.tasks, ?_, ?_, ?_, ?_⟩
  · intro state hstate
    rw [hheld]
    exact mem_append_right _ (mem_toList.mpr hstate)
  · intro state hstate hlocked
    rw [hheld] at hstate
    rcases mem_append.mp hstate with hold | hstate
    · exact h.locks state hold hlocked
    · rcases hnew state (mem_toList.mp hstate) hlocked with hold | hreached
      · exact h.locks state hold hlocked
      · exact hreached
  · exact h.sorted
  · exact h.logged

theorem Ordered.recordRemote (hr : r.lockState = .locked → Reaches (s.view u).stored r.changedAt) :
    Ordered (s.recordRemote u r) u := by
  refine h.setStates fun state hstate hlocked => ?_
  rw [lookup_recordRemoteState, Latest.offer] at hstate
  split at hstate
  · cases hstate
    exact .inr (.inl (hr hlocked))
  · exact .inl (h.recorded state hstate)

theorem Ordered.restore {answer : Option UInt64} (hanswer : Below answer (s.view u).stored) :
    Ordered (s.restore u answer) u := by
  refine h.setStates fun state hstate _ => ?_
  rw [lookup_restoreState] at hstate
  rcases or_eq_some_iff.mp hstate with hold | ⟨-, hnew⟩
  · exact .inl (h.recorded state hold)
  · obtain ⟨d, hd, rfl⟩ := map_eq_some_iff.mp hnew
    exact .inr (.inl (hanswer d hd))

theorem Ordered.setLockState (lockState : LockState κ) : Ordered (s.setLockState u lockState) u :=
  ⟨h.single, fun t => h.tasks t, h.recorded, h.locks, h.sorted, h.logged⟩

/-- An operation that is not about to persist a date moves on. It may decide upon one when
no other does. -/
theorem Ordered.setTask (hold : ∀ d, (s.tasks t).pending ≠ some (u, d))
    (hholds : (s.view u).Stores u task) (hnew : ∀ d, task.pending = some (u, d) → Settled s u) :
    Ordered (s.setTask t task) u := by
  refine ⟨?_, ?_, h.recorded, ?_, h.sorted, h.logged⟩
  · intro t₁ t₂ d₁ d₂
    rw [tasks_setTask, update_apply, update_apply]
    split_ifs with ht₁ ht₂ ht₂
    · exact fun _ _ => ht₁.trans ht₂.symm
    · exact fun h₁ h₂ => absurd h₂ (hnew d₁ h₁ t₂ d₂)
    · exact fun h₁ h₂ => absurd h₁ (hnew d₂ h₂ t₁ d₁)
    · exact h.single t₁ t₂ d₁ d₂
  · exact (forall_update_iff s.tasks fun _ => (s.view u).Stores u).mpr
      ⟨hholds, fun t' _ => h.tasks t'⟩
  · intro state hstate hlocked
    refine (h.locks state hstate hlocked).imp_right ?_
    rintro ⟨t', d, hpending, hle⟩
    have hne : t' ≠ t := fun heq => hold d (heq ▸ hpending)
    exact ⟨t', d, by rw [tasks_setTask_of_ne s t task hne]; exact hpending, hle⟩

theorem Ordered.setTask_of_none (hold : ∀ d, (s.tasks t).pending ≠ some (u, d))
    (hholds : (s.view u).Stores u task) (hnone : task.pending = none) :
    Ordered (s.setTask t task) u := by
  refine h.setTask hold hholds fun d hpending => ?_
  rw [hnone] at hpending
  cases hpending

theorem Ordered.persist {d : UInt64} (hpending : (s.tasks t).pending = some (u, d))
    (hbelow : Below (s.view u).stored (some d)) (hholds : ((s.view u).storeLock d).Stores u task)
    (hdone : task.pending = none) : Ordered ((s.storeLock u d).setTask t task) u := by
  have hview : ((s.storeLock u d).setTask t task).view u = (s.view u).storeLock d := by simp
  have hledger : ((s.storeLock u d).setTask t task).ledger u =
      ⟨(s.ledger u).held ++ [⟨.locked, d⟩], (s.ledger u).log ++ [d]⟩ := ledger_storeLock s u d
  have halone : ∀ t', t' ≠ t → ∀ d', (s.tasks t').pending ≠ some (u, d') := fun t' hne d' heq =>
    hne (h.single t' t d' d heq hpending)
  have hnone : ∀ t' d', (((s.storeLock u d).setTask t task).tasks t').pending ≠ some (u, d') :=
    (forall_update_iff s.tasks fun _ task => ∀ d', task.pending ≠ some (u, d')).mpr
      ⟨fun _ => by simp [hdone], halone⟩
  refine ⟨?_, ?_, ?_, ?_, ?_, ?_⟩
  · exact fun t₁ t₂ d₁ d₂ h₁ => absurd h₁ (hnone t₁ d₁)
  · rw [hview]
    exact (forall_update_iff s.tasks fun _ => ((s.view u).storeLock d).Stores u).mpr
      ⟨hholds, fun t' ht => (h.tasks t').mono (halone t' ht) hbelow⟩
  · intro state hstate
    rw [hledger]
    exact mem_append_left _ (h.recorded state hstate)
  · intro state hstate hlocked
    rw [hledger] at hstate
    rw [hview]
    refine .inl ?_
    rcases mem_append.mp hstate with hold | hnew
    · rcases h.locks state hold hlocked with hreached | ⟨t', d', hpending', hle⟩
      · exact hreached.trans hbelow
      · have ht : t' = t := by
          by_contra hne
          exact halone t' hne d' hpending'
        rw [ht, hpending] at hpending'
        cases hpending'
        exact ⟨d, rfl, hle⟩
    · cases mem_singleton.mp hnew
      exact ⟨d, rfl, UInt64.le_refl d⟩
  · rw [hledger]
    refine pairwise_append.mpr ⟨h.sorted, pairwise_singleton _ _, ?_⟩
    intro d₁ hd₁ d₂ hd₂
    rw [mem_singleton.mp hd₂]
    obtain ⟨d', hd', hle⟩ := (h.logged d₁ hd₁).trans hbelow
    exact some.inj hd' ▸ hle
  · intro d' hd'
    rw [hledger] at hd'
    rw [hview]
    rcases mem_append.mp hd' with hold | hnew
    · exact (h.logged d' hold).trans hbelow
    · rw [mem_singleton.mp hnew]
      exact ⟨d, rfl, UInt64.le_refl d⟩

theorem Ordered.reportLock {now : UInt64} (hsettled : Settled s u)
    (hstored : ∀ d, (s.view u).stored = some d → d ≤ now ∨ Reaches (s.view u).recordedAt d) :
    Ordered ((s.recordLocal (.manualLock u) now).setTask t
      (.event (.manualLock u) (.persisting (localDate s.states u now) false))) u := by
  have hbelow : Below (s.view u).stored (some (localDate s.states u now)) := by
    intro d hd
    refine ⟨_, rfl, ?_⟩
    rcases hstored d hd with hle | ⟨d', hd', hle⟩
    · exact UInt64.le_trans hle (now_le_localDate _ _ _)
    · obtain ⟨recorded, hrecord, rfl⟩ := map_eq_some_iff.mp hd'
      exact UInt64.le_trans hle
        (UInt64.le_trans (le_saturatingSucc _) (succ_le_localDate hrecord now))
  -- the task that is about to persist the date is in place before the state is recorded
  have hdecided : Ordered (s.setTask t
      (.event (.manualLock u) (.persisting (localDate s.states u now) false))) u :=
    h.setTask (hsettled t) (fun _ => hbelow) fun _ _ => hsettled
  refine hdecided.setStates fun state hstate _ => .inr (.inr ⟨t, localDate s.states u now, ?_, ?_⟩)
  · rw [tasks_setTask_self]
    rfl
  · have hrecord := lookup_recordLocalState s.states u (.locked : LockState κ) now
    cases hrecord.symm.trans hstate
    exact UInt64.le_refl _

end

theorem Ordered.of_frame {other : UserId} (h : Ordered s other) (hframe : Frame s s' t u)
    (hne : other ≠ u) : Ordered s' other := by
  have hsame : ∀ t' d, (s'.tasks t').pending = some (other, d) ↔
      (s.tasks t').pending = some (other, d) := by
    intro t' d
    exact hframe.task_iff (P := fun task => task.pending = some (other, d)) hne
      (fun task huser => Task.pending_ne huser d) t'
  have hview := hframe.view other hne
  have hledger := hframe.ledger other hne
  refine ⟨?_, ?_, ?_, ?_, ?_, ?_⟩
  · intro t₁ t₂ d₁ d₂ h₁ h₂
    exact h.single t₁ t₂ d₁ d₂ ((hsame t₁ d₁).mp h₁) ((hsame t₂ d₂).mp h₂)
  · rw [hview]
    exact hframe.forall_tasks hne (fun _ => View.stores_of_ne _) h.tasks
  · rw [hview, hledger]
    exact h.recorded
  · rw [hview, hledger]
    simpa only [hsame] using h.locks
  · rw [hledger]
    exact h.sorted
  · rw [hview, hledger]
    exact h.logged

theorem ordered_install (lockStates : UserId → LockState κ) (u : UserId) :
    Ordered (install lockStates) u := by
  refine ⟨?_, fun _ => trivial, ?_, ?_, .nil, ?_⟩
  · exact fun t t' d d' h => by cases h
  · exact fun state h => by cases h
  · exact fun state h => by cases h
  · exact fun d h => by cases h

theorem Ordered.reload (h : Ordered s u) (hsettled : Settled s u) : Ordered s.reload u := by
  refine ⟨?_, fun _ => trivial, ?_, ?_, h.sorted, h.logged⟩
  · exact fun t t' d d' h => by cases h
  · exact fun state h => by cases h
  · intro state hstate hlocked
    rcases h.locks state hstate hlocked with hreached | ⟨t, d, hpending, -⟩
    · exact .inl hreached
    · exact absurd hpending (hsettled t d)

/-! ## The parts of `apply_remote_state` -/

section

variable [DecidableEq κ] {restored : Option (TimestampedLockState κ)} (h : Ordered s u)
  (hold : ∀ d, (s.tasks t).pending ≠ some (u, d))

include h hold

theorem Ordered.settle (hr : r.lockState = .locked → Reaches (s.view u).stored r.changedAt) :
    Ordered (s.settle t u r restored) u := by
  rw [Device.settle]
  split
  · exact h.setTask_of_none hold (fun _ => hr) rfl
  · exact (h.recordRemote hr).setTask_of_none hold trivial rfl

theorem Ordered.lookAgain (hr : r.lockState = .locked → Reaches (s.view u).stored r.changedAt) :
    Ordered (s.lookAgain t u r) u := by
  rw [Device.lookAgain]
  split
  · exact h.settle hold hr
  · refine h.setTask_of_none hold (fun _ => ⟨fun a ha => ?_, fun _ => hr⟩) rfl
    cases ha

theorem Ordered.check
    (hdecide : r.lockState = .locked → r.supersedes restored = true →
      Settled s u ∧ Below (s.view u).stored (restored.map (·.changedAt))) :
    Ordered (s.check t u r restored) u := by
  rw [Device.check]
  split
  case isTrue hsup =>
    split
    case h_1 hlocked =>
      obtain ⟨hsettled, hbelow⟩ := hdecide hlocked hsup
      refine h.setTask hold (fun _ => hbelow.trans ?_) fun _ _ => hsettled
      intro d hd
      obtain ⟨state, rfl, rfl⟩ := map_eq_some_iff.mp hd
      rw [supersedes_iff] at hsup
      exact ⟨r.changedAt, rfl, changedAt_le_of_rank_le hsup.le⟩
    case h_2 k hunlocked =>
      refine h.lookAgain hold fun hlocked => ?_
      rw [hunlocked] at hlocked
      cases hlocked
  case isFalse => exact h.setTask_of_none hold trivial rfl

end

/-! ## Steps and runs -/

variable [DecidableEq κ] {action : DeviceAction κ}

/-- A lock is decided upon while no other date is about to be persisted for the user, and
against a state, or a clock, that is not before the persisted date. A reload loses no date
that is about to be persisted. -/
def Orderly (s : Device κ) : LifeAction κ → Prop
  | .act (.receive _ u r) =>
    ∀ recorded, (s.view u).record = some recorded → r.lockState = .locked →
      r.supersedes (some recorded) = true →
        Settled s u ∧ Below (s.view u).stored (some recorded.changedAt)
  | .act (.resume t) =>
    ∀ u r answer, s.tasks t = .applying u r (.restoring false (some answer)) →
      r.lockState = .locked → r.supersedes (restoreState s.states u answer).1 = true →
        Settled s u ∧ Below (s.view u).stored ((restoreState s.states u answer).1.map (·.changedAt))
  | .act (.report t now) =>
    ∀ u, s.tasks t = .event (.manualLock u) .changed →
      Settled s u ∧ ∀ d, (s.view u).stored = some d → d ≤ now ∨ Reaches (s.view u).recordedAt d
  | .reload => ∀ u, Settled s u
  | _ => True

theorem Stepped.ordered (hstep : Stepped s t u action s') (hcondition : Orderly s (.act action))
    (h : Ordered s u) : Ordered s' u := by
  have hidle : ∀ {task : Task κ}, s.tasks t = task → task.pending = none →
      ∀ d, (s.tasks t).pending ≠ some (u, d) := by
    intro task hpc hnone d
    rw [hpc, hnone]
    exact nofun
  have hholds : ∀ {task}, s.tasks t = task → (s.view u).Stores u task := fun hpc =>
    hpc ▸ h.tasks t
  cases hstep with
  | start hpc hnone =>
    refine h.setTask_of_none (hidle hpc rfl) (fun _ => ⟨fun a ha => ?_, fun hagain => ?_⟩) rfl
    · cases ha
    · cases hagain
  | compare hpc hsome => exact h.check (hidle hpc rfl) (hcondition _ hsome)
  | known hpc => exact h
  | look hpc hnone | reported hpc huser => exact h.setTask_of_none (hidle hpc rfl) trivial rfl
  | change hpc huser => exact (h.setLockState _).setTask_of_none (hidle hpc rfl) trivial rfl
  | reportLock hpc =>
    obtain ⟨hsettled, hstored⟩ := hcondition u hpc
    exact h.reportLock hsettled hstored
  | @reportUnlock k now hpc =>
    refine Ordered.setTask_of_none (h.setStates ?_) (hidle hpc rfl) trivial rfl
    intro state hstate hlocked
    have heq := (lookup_recordLocalState s.states u (.unlocked k) now).symm.trans hstate
    cases heq
    cases hlocked
  | @read r again hpc =>
    refine h.setTask_of_none (hidle hpc rfl) (fun huser => ⟨?_, (hholds hpc huser).2⟩) rfl
    intro a ha
    cases ha
    exact Below.refl _
  | readAdvertised hpc => exact h.setTask_of_none (hidle hpc rfl) (fun _ => Below.refl _) rfl
  | @persist r hpc =>
    exact h.persist (by rw [hpc]; rfl) (hholds hpc rfl) (fun _ => ⟨_, rfl, UInt64.le_refl _⟩) rfl
  | @persistEvent event changedAt hpc huser =>
    exact h.persist (by rw [hpc, ← huser]; rfl) (hholds hpc huser) trivial rfl
  | relay hpc =>
    exact h.setTask_of_none (hidle hpc rfl) (fun huser => hholds hpc huser) rfl
  | @drive r ok hpc =>
    cases ok with
    | false => exact h.setTask_of_none (hidle hpc rfl) (fun huser => hholds hpc huser) rfl
    | true =>
      exact (h.setLockState _).setTask_of_none (hidle hpc rfl) (fun huser => hholds hpc huser) rfl
  | @restored r answer hpc =>
    exact (h.restore ((hholds hpc rfl).1 answer rfl)).check (hidle hpc rfl)
      (hcondition u r answer hpc)
  | @restoredAgain r answer hpc =>
    obtain ⟨hanswer, hlocked⟩ := hholds hpc rfl
    exact (h.restore (hanswer answer rfl)).settle (hidle hpc rfl) (hlocked rfl)
  | persisted hpc =>
    exact h.lookAgain (hidle hpc rfl) fun _ => hholds hpc rfl
  | @driven r ok hpc =>
    cases ok with
    | false => exact h.setTask_of_none (hidle hpc rfl) trivial rfl
    | true => exact (h.recordRemote (hholds hpc rfl)).setTask_of_none (hidle hpc rfl) trivial rfl
  | @advertised answer hpc =>
    exact (h.restore (hholds hpc rfl)).setTask_of_none (hidle hpc rfl) trivial rfl

theorem ordered_stepLife {action : LifeAction κ} (hcondition : Orderly s action)
    (hstep : s.stepLife action = some s') (h : ∀ u, Ordered s u) : ∀ u, Ordered s' u := by
  intro user
  cases action with
  | act action =>
    obtain ⟨t, u, hstepped⟩ := stepped_of_step hstep
    by_cases huser : user = u
    · subst huser
      exact hstepped.ordered hcondition (h user)
    · exact (h user).of_frame hstepped.frame huser
  | reload =>
    cases hstep
    exact (h user).reload (hcondition user)

/-- In every life of a device that meets the conditions, the dates persisted for a user do
not recede, and a reload while none is about to be persisted restores a lock at least as new
as every one the peer had recorded. -/
theorem persisted_dates_ordered {lockStates : UserId → LockState κ}
    {actions : List (LifeAction κ)} (hmeets : Meets stepLife Orderly (install lockStates) actions)
    (hrun : run stepLife (install lockStates) actions = some s) (u : UserId) :
    ((s.persisted.filter fun entry => entry.1 = u).map Prod.snd).Pairwise (· ≤ ·) ∧
      (Settled s u → ∀ lockedAt, (u, ⟨.locked, lockedAt⟩) ∈ s.held →
        ∃ restoredAt, lockedAt ≤ restoredAt ∧
          (restoreState s.reload.states u (s.reload.lastManualLock.lookup u)).1 =
            some ⟨.locked, restoredAt⟩) := by
  have hordered : Ordered s u :=
    run_invariant stepLife (fun s => ∀ u, Ordered s u) (fun _ _ _ => ordered_stepLife) hmeets hrun
      (ordered_install lockStates) u
  refine ⟨hordered.sorted, fun hsettled lockedAt hheld => ?_⟩
  rcases hordered.locks _ (mem_held_ledger.mpr hheld) rfl with
    ⟨restoredAt, hstored, hle⟩ | ⟨t, d, hpending, -⟩
  · refine ⟨restoredAt, hle, ?_⟩
    have hlookup : s.reload.lastManualLock.lookup u = some restoredAt := hstored
    rw [hlookup]
    rfl
  · exact absurd hpending (hsettled t d)

/-- The user locks the device, it is reloaded, and a later lock of a peer arrives. -/
def lockReloadLocked : List (LifeAction ℕ) :=
  [.act (.change 1 (.manualLock ⟨1⟩)), .act (.report 1 20), .act (.persist 1), .act (.resume 1),
    .reload, .act (.receive 0 ⟨1⟩ ⟨.locked, 30⟩), .act (.read 0), .act (.resume 0),
    .act (.persist 0)]

theorem orderly_lockReloadLocked :
    Meets stepLife Orderly (install fun _ => .locked) lockReloadLocked := by
  refine .cons trivial rfl (.cons ?_ rfl (.cons trivial rfl (.cons ?_ rfl (.cons ?_ rfl
    (.cons ?_ rfl (.cons trivial rfl (.cons ?_ rfl (.cons trivial rfl trivial))))))))
  · intro u hu
    refine ⟨fun t d => ?_, nofun⟩
    match t with
    | 0 | 1 | t + 2 => exact nofun
  · intro u r answer hu
    cases hu
  · intro u t d
    match t with
    | 0 | 1 | t + 2 => exact nofun
  · intro recorded hrecorded
    cases hrecorded
  · intro u r answer hu _ _
    cases hu
    refine ⟨fun t d => ?_, Below.refl _⟩
    match t with
    | 0 | t + 1 => exact nofun

theorem persisted_dates_ordered_lockReloadLocked :
    ∃ s, run stepLife (install fun _ => .locked) lockReloadLocked = some s ∧
      s.persisted = [(⟨1⟩, 20), (⟨1⟩, 30)] ∧
      ((s.persisted.filter fun entry => entry.1 = ⟨1⟩).map Prod.snd).Pairwise (· ≤ ·) := by
  obtain ⟨s, hrun, hpersisted⟩ : ∃ s,
      run stepLife (install fun _ => .locked) lockReloadLocked = some s ∧
        s.persisted = [(⟨1⟩, 20), (⟨1⟩, 30)] := ⟨_, rfl, rfl⟩
  exact ⟨s, hrun, hpersisted, (persisted_dates_ordered orderly_lockReloadLocked hrun ⟨1⟩).1⟩

/-- The user locks the device while the driver persists the lock of a peer: the earlier date
is persisted last, and a reload restores it. -/
theorem overlapping_locks_recede :
    ∃ s, run stepLife (install fun _ => .locked)
        [.act (.change 1 (.manualUnlock ⟨1⟩ 7)), .act (.report 1 10),
          .act (.receive 0 ⟨1⟩ ⟨.locked, 100⟩), .act (.change 1 (.manualLock ⟨1⟩)),
          .act (.report 1 200), .act (.persist 1), .act (.resume 1), .act (.persist 0),
          .act (.resume 0)] = some s ∧
      (∀ t, s.tasks t = .idle) ∧ s.persisted = [(⟨1⟩, 200), (⟨1⟩, 100)] ∧
      s.states.lookup ⟨1⟩ = some ⟨.locked, 200⟩ ∧ (⟨1⟩, ⟨.locked, 200⟩) ∈ s.held ∧
      (restoreState s.reload.states ⟨1⟩ (s.reload.lastManualLock.lookup ⟨1⟩)).1 =
        some ⟨.locked, 100⟩ := by
  refine ⟨_, rfl, fun t => ?_, rfl, rfl, by decide, rfl⟩
  match t with
  | 0 | 1 | t + 2 => rfl

end Device

end SdkInternal.SharedUnlock
