import SdkInternal.Verification.SharedUnlock.Steps

/-! # The user's newest action wins on the device

A change made on the device is dated after the recorded state and not before the clock. The
persisted date is not looked at, so the new date is after every earlier one only as long as
what the peer has recorded and what the driver has persisted do not drift apart. -/

namespace SdkInternal.SharedUnlock

open Shared TimestampedLockState

variable {κ : Type}

/-! ## The date of a change -/

theorem lt_saturatingSucc {n : UInt64} (h : n ≠ UInt64.ofNat (2 ^ 64 - 1)) :
    n < saturatingSucc n := by
  rw [saturatingSucc, if_neg h]
  have hne : n.toNat ≠ 2 ^ 64 - 1 := fun heq => h (UInt64.toNat_inj.mp heq)
  have hlt := n.toNat_lt
  rw [UInt64.lt_iff_toNat_lt, UInt64.toNat_add]
  simp only [UInt64.toNat_one]
  omega

theorem le_saturatingSucc (n : UInt64) : n ≤ saturatingSucc n := by
  by_cases h : n = UInt64.ofNat (2 ^ 64 - 1)
  · rw [saturatingSucc, if_pos h]
    exact UInt64.le_refl n
  · exact UInt64.le_of_lt (lt_saturatingSucc h)

section LocalDate

variable {states : States κ} {u : UserId}

theorem now_le_localDate (states : States κ) (u : UserId) (now : UInt64) :
    now ≤ localDate states u now := by
  rw [localDate, UInt64.max_def]
  split
  · exact UInt64.le_refl now
  · exact UInt64.le_of_lt (UInt64.not_le.mp ‹_›)

theorem succ_le_localDate {recorded : TimestampedLockState κ}
    (h : states.lookup u = some recorded) (now : UInt64) :
    saturatingSucc recorded.changedAt ≤ localDate states u now := by
  rw [localDate, h, UInt64.max_def]
  split
  · assumption
  · exact UInt64.le_refl _

end LocalDate

def Task.pending : Task κ → Option (UserId × UInt64)
  | .applying userId remote (.persisting false) => some (userId, remote.changedAt)
  | .event reported (.persisting changedAt false) => some (reported.userId, changedAt)
  | _ => none

namespace View

variable (v : View κ)

def recordedAt : Option UInt64 := v.record.map (·.changedAt)

def Covers (d : UInt64) : Prop := Reaches v.recordedAt d ∨ Reaches v.stored d

theorem below_recordedAt {v v' : View κ}
    (h : ∀ recorded, v.record = some recorded → ∃ recorded', v'.record = some recorded' ∧
      recorded.changedAt ≤ recorded'.changedAt) : Below v.recordedAt v'.recordedAt := by
  intro d hd
  obtain ⟨recorded, hrecord, rfl⟩ := Option.map_eq_some_iff.mp hd
  obtain ⟨recorded', hrecord', hle⟩ := h recorded hrecord
  exact ⟨recorded'.changedAt, by rw [recordedAt, hrecord']; rfl, hle⟩

theorem below_recordRemote (r : TimestampedLockState κ) :
    Below v.recordedAt (v.recordRemote r).recordedAt := by
  refine below_recordedAt fun recorded hrecord => ?_
  have hrank := v.rank_le_recordRemote r
  rw [hrecord] at hrank
  obtain ⟨recorded', hrecord'⟩ : ∃ recorded', (v.recordRemote r).record = some recorded' := by
    rw [View.recordRemote, Latest.offer]
    split
    · exact ⟨r, rfl⟩
    · exact ⟨recorded, hrecord⟩
  rw [hrecord'] at hrank
  exact ⟨recorded', hrecord', changedAt_le_of_rank_le hrank⟩

theorem below_restore (answer : Option UInt64) :
    Below v.recordedAt (v.restore answer).recordedAt := by
  refine below_recordedAt fun recorded hrecord => ?_
  exact ⟨recorded, by rw [restore_of_some hrecord, hrecord], UInt64.le_refl _⟩

end View

namespace Device

variable {s s' s'' base : Device κ} {t : ℕ} {u : UserId} {r : TimestampedLockState κ}

/-! ## Dates never recede in the record -/

/-- What is recorded for the user gets later, and what is newly held is recorded. -/
structure Advances (s s' : Device κ) (u : UserId) : Prop where
  recorded : Below (s.view u).recordedAt (s'.view u).recordedAt
  stored : (s'.view u).stored = (s.view u).stored
  held : ∀ state ∈ (s'.ledger u).held,
    state ∈ (s.ledger u).held ∨ Reaches (s'.view u).recordedAt state.changedAt

theorem Advances.trans (h : Advances s s' u) (h' : Advances s' s'' u) : Advances s s'' u := by
  refine ⟨h.recorded.trans h'.recorded, h'.stored.trans h.stored, fun state hstate => ?_⟩
  rcases h'.held state hstate with hheld | hreached
  · exact (h.held state hheld).imp_right fun hreached => hreached.trans h'.recorded
  · exact .inr hreached

theorem advances_of_eq (hview : s'.view u = s.view u) (hledger : s'.ledger u = s.ledger u) :
    Advances s s' u := by
  refine ⟨?_, by rw [hview], fun state hstate => .inl (hledger ▸ hstate)⟩
  rw [hview]
  exact Below.refl _

theorem advances_setTask (s : Device κ) (task : Task κ) : Advances s (s.setTask t task) u :=
  advances_of_eq rfl rfl

theorem advances_setLockState (s : Device κ) (u : UserId) (lockState : LockState κ) :
    Advances s (s.setLockState u lockState) u :=
  ⟨Below.refl _, rfl, fun _ hstate => .inl hstate⟩

theorem advances_setStates {states : States κ}
    (hrecorded : Below (s.view u).recordedAt ((s.setStates u states).view u).recordedAt) :
    Advances s (s.setStates u states) u := by
  refine ⟨hrecorded, rfl, fun state hstate => ?_⟩
  rw [ledger_setStates] at hstate
  refine (List.mem_append.mp hstate).imp_right fun hnew => ?_
  rw [Option.mem_toList] at hnew
  refine ⟨state.changedAt, ?_, UInt64.le_refl _⟩
  exact congrArg (Option.map (·.changedAt)) hnew

theorem advances_recordRemote (s : Device κ) (u : UserId) (r : TimestampedLockState κ) :
    Advances s (s.recordRemote u r) u := by
  refine advances_setStates ?_
  have hbelow := (s.view u).below_recordRemote r
  rwa [← view_recordRemote] at hbelow

theorem advances_restore (s : Device κ) (u : UserId) (answer : Option UInt64) :
    Advances s (s.restore u answer) u := by
  refine advances_setStates ?_
  have hbelow := (s.view u).below_restore answer
  rwa [← view_restore] at hbelow

theorem advances_recordLocal (s : Device κ) (event : DeviceEvent κ) (now : UInt64) :
    Advances s (s.recordLocal event now) event.userId := by
  refine advances_setStates (View.below_recordedAt fun recorded hrecord => ?_)
  refine ⟨_, congrArg View.record (view_recordLocal s event now), ?_⟩
  exact UInt64.le_trans (le_saturatingSucc _) (succ_le_localDate hrecord now)

section

variable [DecidableEq κ]

theorem advances_settle (s : Device κ) (restored : Option (TimestampedLockState κ)) :
    Advances s (s.settle t u r restored) u := by
  rw [settle]
  split
  · exact advances_setTask s _
  · exact (advances_recordRemote s u r).trans (advances_setTask _ _)

theorem advances_lookAgain (s : Device κ) : Advances s (s.lookAgain t u r) u := by
  rw [lookAgain]
  split
  · exact advances_settle s _
  · exact advances_setTask s _

theorem advances_check (s : Device κ) (restored : Option (TimestampedLockState κ)) :
    Advances s (s.check t u r restored) u := by
  rw [check]
  split
  · split
    · exact advances_setTask s _
    · exact advances_lookAgain s
  · exact advances_setTask s _

end

/-! ## Steps and runs -/

variable [DecidableEq κ] {action : DeviceAction κ}

theorem Stepped.advances (h : Stepped s t u action s') :
    Advances s s' u ∨ ∃ d task, action = .persist t ∧ (s.tasks t).pending = some (u, d) ∧
      task.pending = none ∧ s' = (s.storeLock u d).setTask t task := by
  cases h with
  | start hpc hnone | look hpc hnone | read hpc | readAdvertised hpc | relay hpc
  | reported hpc huser => exact .inl (advances_setTask s _)
  | compare hpc hsome => exact .inl (advances_check s _)
  | known hpc => exact .inl (advances_of_eq rfl rfl)
  | change hpc huser => exact .inl ((advances_setLockState s u _).trans (advances_setTask _ _))
  | reportLock hpc =>
    exact .inl ((advances_recordLocal s (.manualLock u) _).trans (advances_setTask _ _))
  | @reportUnlock k now hpc =>
    exact .inl ((advances_recordLocal s (.manualUnlock u k) _).trans (advances_setTask _ _))
  | @persist r hpc =>
    exact .inr ⟨r.changedAt, _, rfl, by rw [hpc]; rfl, rfl, rfl⟩
  | @persistEvent event changedAt hpc huser =>
    exact .inr ⟨changedAt, _, rfl, by rw [hpc, ← huser]; rfl, rfl, rfl⟩
  | @drive r ok hpc =>
    cases ok with
    | false => exact .inl (advances_setTask s _)
    | true => exact .inl ((advances_setLockState s u _).trans (advances_setTask _ _))
  | restored hpc => exact .inl ((advances_restore s u _).trans (advances_check _ _))
  | restoredAgain hpc => exact .inl ((advances_restore s u _).trans (advances_settle _ _))
  | persisted hpc => exact .inl (advances_lookAgain s)
  | @driven r ok hpc =>
    cases ok with
    | false => exact .inl (advances_setTask s _)
    | true => exact .inl ((advances_recordRemote s u r).trans (advances_setTask _ _))
  | advertised hpc => exact .inl ((advances_restore s u _).trans (advances_setTask _ _))

section Forgotten

variable (lost : UserId → Option UInt64)

/-- The last dates that are forgotten of the users: by a reload, if they are recorded and later than
the persisted one, or when a persisted date is replaced by an earlier one. -/
def Forgets (s : Device κ) : LifeAction κ → Prop
  | .reload => ∀ u d, (s.view u).recordedAt = some d →
      Reaches (s.view u).stored d ∨ Reaches (lost u) d
  | .act (.persist t) =>
    ∀ u d, (s.tasks t).pending = some (u, d) → ∀ d', (s.view u).stored = some d' →
      d' ≤ d ∨ Reaches (s.view u).recordedAt d' ∨ Reaches (lost u) d'
  | _ => True

/-- The persisted and the forgotten date are before the clock or not after the recorded one, which
is not the last date there is. -/
structure Timely (s : Device κ) (u : UserId) (now : UInt64) : Prop where
  recorded : (s.view u).recordedAt ≠ some (UInt64.ofNat (2 ^ 64 - 1))
  stored : ∀ d, (s.view u).stored = some d → d < now ∨ Reaches (s.view u).recordedAt d
  lost : ∀ d, lost u = some d → d < now ∨ Reaches (s.view u).recordedAt d

/-- No state that was ever held is later than the recorded, the persisted and the forgotten date. -/
def Covered (s : Device κ) (u : UserId) : Prop :=
  ∀ state ∈ (s.ledger u).held,
    (s.view u).Covers state.changedAt ∨ Reaches (lost u) state.changedAt

variable {lost}

omit [DecidableEq κ] in
theorem Covered.advance (h : Covered lost s u) (hadvances : Advances s s' u) :
    Covered lost s' u := by
  intro state hstate
  rcases hadvances.held state hstate with hheld | hreached
  · refine (h state hheld).imp_left ?_
    rintro (hrecorded | hstored)
    · exact .inl (hrecorded.trans hadvances.recorded)
    · rw [View.Covers, hadvances.stored]
      exact .inr hstored
  · exact .inl (.inl hreached)

omit [DecidableEq κ] in
theorem Covered.storeLock (h : Covered lost s u) {d : UInt64}
    (hd : ∀ d', (s.view u).stored = some d' →
      d' ≤ d ∨ Reaches (s.view u).recordedAt d' ∨ Reaches (lost u) d') :
    Covered lost (s.storeLock u d) u := by
  intro state hstate
  rw [ledger_storeLock] at hstate
  rw [view_storeLock]
  rcases List.mem_append.mp hstate with hheld | hnew
  · rcases h state hheld with (hrecorded | ⟨d', hd', hle⟩) | hlost
    · exact .inl (.inl hrecorded)
    · rcases hd d' hd' with hle' | hrecorded | hlost
      · exact .inl (.inr ⟨d, rfl, UInt64.le_trans hle hle'⟩)
      · exact .inl (.inl (hrecorded.of_le hle))
      · exact .inr (hlost.of_le hle)
    · exact .inr hlost
  · cases List.mem_singleton.mp hnew
    exact .inl (.inr ⟨d, rfl, UInt64.le_refl d⟩)

theorem covered_step (hcondition : Forgets lost s (.act action)) (hstep : s.step action = some s')
    (h : ∀ u, Covered lost s u) : ∀ u, Covered lost s' u := by
  intro user
  obtain ⟨t, u, hstepped⟩ := stepped_of_step hstep
  by_cases huser : user = u
  · subst huser
    rcases hstepped.advances with hadvances | ⟨d, task, rfl, hpending, -, rfl⟩
    · exact (h user).advance hadvances
    · exact (h user).storeLock (hcondition user d hpending)
  · have hframe := hstepped.frame
    intro state hstate
    rw [hframe.ledger user huser] at hstate
    rw [hframe.view user huser]
    exact h user state hstate

omit [DecidableEq κ] in
theorem covered_reload (hcondition : Forgets lost s .reload) (h : ∀ u, Covered lost s u) :
    ∀ u, Covered lost s.reload u := by
  intro u state hstate
  rcases h u state hstate with (⟨d, hd, hle⟩ | hstored) | hlost
  · exact (hcondition u d hd).imp (fun hstored => .inr (hstored.of_le hle)) (·.of_le hle)
  · exact .inl (.inr hstored)
  · exact .inr hlost

theorem covered_stepLife {action : LifeAction κ} (hcondition : Forgets lost s action)
    (hstep : s.stepLife action = some s') (h : ∀ u, Covered lost s u) :
    ∀ u, Covered lost s' u := by
  cases action with
  | act action => exact covered_step hcondition hstep h
  | reload =>
    cases hstep
    exact covered_reload hcondition h

omit [DecidableEq κ] in
/-- The date of the change that is reported is after every date that is covered. -/
theorem Timely.lt_localDate {now d : UInt64} (htimely : Timely lost s u now)
    (h : (s.view u).Covers d ∨ Reaches (lost u) d) : d < localDate s.states u now := by
  have hafter : ∀ d, Reaches (s.view u).recordedAt d → d < localDate s.states u now := by
    rintro d ⟨d', hd', hle⟩
    obtain ⟨recorded, hrecord, rfl⟩ := Option.map_eq_some_iff.mp hd'
    have hne : recorded.changedAt ≠ UInt64.ofNat (2 ^ 64 - 1) :=
      fun heq => htimely.recorded (heq ▸ hd')
    exact UInt64.lt_of_le_of_lt hle
      (UInt64.lt_of_lt_of_le (lt_saturatingSucc hne) (succ_le_localDate hrecord now))
  have hother : ∀ {d'}, d ≤ d' → d' < now ∨ Reaches (s.view u).recordedAt d' →
      d < localDate s.states u now := by
    rintro d' hle (hlt | hrecorded)
    · exact UInt64.lt_of_le_of_lt hle (UInt64.lt_of_lt_of_le hlt (now_le_localDate _ _ _))
    · exact hafter d (hrecorded.of_le hle)
  rcases h with (hrecorded | ⟨d', hd', hle⟩) | ⟨d', hd', hle⟩
  · exact hafter d hrecorded
  · exact hother hle (htimely.stored d' hd')
  · exact hother hle (htimely.lost d' hd')

/-- In every life of a device, a change that is reported in time is recorded with a date after that
of every state held before, so none of them supersedes it. -/
theorem local_change_latest {lockStates : UserId → LockState κ} {actions : List (LifeAction κ)}
    {event : DeviceEvent κ} {now : UInt64}
    (hforgets : Meets stepLife (Forgets lost) (install lockStates) actions)
    (hrun : run stepLife (install lockStates) actions = some s)
    (hevent : s.tasks t = .event event .changed) (htimely : Timely lost s event.userId now) :
    ∃ s' recorded, s.step (.report t now) = some s' ∧
      s'.states.lookup event.userId = some recorded ∧ recorded.lockState = event.lockState ∧
      ∀ state, (event.userId, state) ∈ s.held →
        state.changedAt < recorded.changedAt ∧ state.supersedes (some recorded) = false := by
  have hcovered : ∀ u, Covered lost s u :=
    run_invariant stepLife (fun s => ∀ u, Covered lost s u) (fun _ _ _ => covered_stepLife)
      hforgets hrun fun u state hstate => by cases hstate
  have hlater : ∀ state, (event.userId, state) ∈ s.held →
      state.changedAt < localDate s.states event.userId now := fun state hstate =>
    htimely.lt_localDate (hcovered _ state (mem_held_ledger.mpr hstate))
  obtain ⟨s', hstep, hrecord⟩ : ∃ s', s.step (.report t now) = some s' ∧
      s'.states.lookup event.userId =
        some ⟨event.lockState, localDate s.states event.userId now⟩ := by
    have hrecord := lookup_recordLocalState s.states event.userId event.lockState now
    cases event with
    | manualLock u | manualUnlock u k => exact ⟨_, by rw [step, hevent], hrecord⟩
  refine ⟨s', _, hstep, hrecord, rfl, fun state hstate => ⟨hlater state hstate, ?_⟩⟩
  rw [Bool.eq_false_iff, Ne, supersedes_iff]
  exact not_lt.mpr (rank_le_of_changedAt_lt (hlater state hstate))

end Forgotten

/-- The user unlocks the device, it is reloaded, and the user locks it. -/
def unlockReloadLock : List (LifeAction ℕ) :=
  [.act (.change 1 (.manualUnlock ⟨1⟩ 7)), .act (.report 1 20), .reload,
    .act (.change 1 (.manualLock ⟨1⟩))]

theorem forgets_unlockReloadLock :
    Meets stepLife (Forgets fun _ => some 20) (install fun _ => .locked) unlockReloadLock := by
  refine .cons trivial rfl (.cons trivial rfl (.cons ?_ rfl (.cons trivial rfl trivial)))
  intro u d hd
  by_cases hu : u = ⟨1⟩
  · subst hu
    cases hd
    exact .inr ⟨20, rfl, by decide⟩
  · have hu : u ≠ (DeviceEvent.manualUnlock (κ := ℕ) ⟨1⟩ 7).userId := hu
    rw [view_setTask, view_recordLocal_of_ne _ hu] at hd
    cases hd

theorem local_change_latest_unlockReloadLock :
    ∃ s s' recorded, run stepLife (install fun _ => .locked) unlockReloadLock = some s ∧
      s.step (.report 1 30) = some s' ∧ s'.states.lookup ⟨1⟩ = some recorded ∧
      (⟨1⟩, ⟨.unlocked 7, 20⟩) ∈ s.held ∧ (20 : UInt64) < recorded.changedAt := by
  obtain ⟨s, hrun, hevent, hview, hheld⟩ : ∃ s,
      run stepLife (install fun _ => .locked) unlockReloadLock = some s ∧
        s.tasks 1 = .event (.manualLock ⟨1⟩) .changed ∧ s.view ⟨1⟩ = ⟨none, none, .locked⟩ ∧
        (⟨1⟩, ⟨.unlocked 7, 20⟩) ∈ s.held :=
    ⟨_, rfl, rfl, rfl, by decide⟩
  have htimely : Timely (fun _ => some 20) s ⟨1⟩ 30 := by
    refine ⟨by rw [hview]; simp [View.recordedAt], by rw [hview]; simp, ?_⟩
    rintro d ⟨⟩
    exact .inl (by decide)
  obtain ⟨s', recorded, hstep, hrecord, -, hlatest⟩ :=
    local_change_latest forgets_unlockReloadLock hrun hevent htimely
  exact ⟨s, s', recorded, hrun, hstep, hrecord, hheld, (hlatest _ hheld).1⟩

/-- A peer whose clock is ahead locks the device, which is reloaded. The user unlocks it, and
the lock that the driver still remembers is later. -/
theorem unlock_after_reload_superseded :
    ∃ s s', run stepLife (install fun _ => .locked)
        [.act (.receive 0 ⟨1⟩ ⟨.locked, 100⟩), .act (.read 0), .act (.resume 0),
          .act (.persist 0), .act (.resume 0), .act (.read 0), .act (.resume 0), .reload,
          .act (.change 1 (.manualUnlock ⟨1⟩ 7))] = some s ∧
      s.step (.report 1 50) = some s' ∧ s'.states.lookup ⟨1⟩ = some ⟨.unlocked 7, 50⟩ ∧
      s.lastManualLock.lookup ⟨1⟩ = some 100 ∧ (⟨1⟩, ⟨.locked, 100⟩) ∈ s.held ∧
      (⟨.locked, 100⟩ : TimestampedLockState ℕ).supersedes (some ⟨.unlocked 7, 50⟩) = true :=
  ⟨_, _, rfl, rfl, rfl, rfl, by decide, by decide⟩

end Device

end SdkInternal.SharedUnlock
