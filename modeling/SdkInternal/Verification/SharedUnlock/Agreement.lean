import SdkInternal.Verification.SharedUnlock.Steps

/-! # The device is as its peer advertises it

The decision of `apply_remote_state` and the record that it ends with are apart by several
await points, and so are a change of the device and its report. As long as no two such
sections for one user overlap, the lock state of the device is the recorded one whenever no
section is open. -/

namespace SdkInternal.SharedUnlock

open Shared TimestampedLockState Function TimestampedLockState View Below

variable {κ : Type}

/-- The operation is between the decision and the record of `apply_remote_state`, or between
a change of the device and its record. -/
def Task.critical (userId : UserId) : Task κ → Prop
  | .applying user _ _ => user = userId
  | .event reported .changed => reported.userId = userId
  | _ => False

variable {task : Task κ}

theorem Task.not_critical {userId : UserId} (h : task.userId ≠ some userId) :
    ¬task.critical userId := by
  unfold Task.critical
  split <;> first | exact id | exact fun huser => h (congrArg some huser)

variable {pc : ApplyPc}

namespace View

/-- The device is in the state that its peer advertises. -/
def Agrees (v : View κ) : Prop :=
  v.device = (v.record.getD default).lockState

/-- The answer leads `restored_state` to the state it would find now. -/
structure Answer (v : View κ) (answer : Option UInt64) : Prop where
  current : v.record = none → answer = v.stored
  unrecorded : answer = none → v.record = none

/-- What `apply_remote_state` knows at each of its await points. -/
def Applies (v : View κ) (r : TimestampedLockState κ) : ApplyPc → Prop
  | .restoring false answer => v.Agrees ∧ v.Answer (answer.getD v.stored)
  | .persisting false => v.Agrees ∧ r.lockState = .locked ∧ r.supersedes v.restored = true
  | .persisting true =>
    v.Agrees ∧ r.lockState = .locked ∧
      ∀ recorded, v.record = some recorded → recorded.lockState ≠ .locked →
        r.supersedes v.restored = true
  | .restoring true answer =>
    v.Agrees ∧ (∀ recorded, v.record = some recorded → recorded.lockState = .locked) ∧
      (r.lockState ≠ .locked →
        r.supersedes v.restored = true ∧ v.Answer (answer.getD v.stored))
  | .relaying | .driving none => r.supersedes v.restored = true
  | .driving (some ok) =>
    ok = true ∧ v.device = r.lockState ∧ r.supersedes v.restored = true

/-- What an operation in progress knows about the user `u`. -/
def Holds (v : View κ) (u : UserId) : Task κ → Prop
  | .applying user r pc => user = u → v.Applies r pc
  | .event reported .changed => reported.userId = u → v.device = reported.lockState
  | .event reported (.persisting _ _) => reported.userId = u → v.record.isSome = true
  | .advertising user (some answer) => user = u → v.record = none → Below answer v.stored
  | _ => True

variable {v v' : View κ} {u : UserId} {task : Task κ} {r : TimestampedLockState κ}
  {answer : Option UInt64}

theorem holds_of_ne (v : View κ) (h : task.userId ≠ some u) : v.Holds u task := by
  unfold Holds
  split <;> first | trivial | exact fun huser => absurd (congrArg some huser) h

/-! ## What survives a change of the view -/

theorem Agrees.restore (h : v.Agrees) (answer : Option UInt64) : (v.restore answer).Agrees := by
  unfold Agrees at h ⊢
  cases hrecord : v.record with
  | some recorded => rw [restore_of_some hrecord, h]
  | none =>
    cases answer <;> simp [View.restore, hrecord, h, persistedState, TimestampedLockState.default]

theorem record_insert (h : v.record = none) (d : UInt64) :
    (v.restore (some d)).record = some ⟨.locked, d⟩ := by
  simp [restore, h, persistedState]

section

variable (h : r.supersedes v.restored = true)

include h

theorem supersedes_record : r.supersedes v.record = true := by
  cases hrecord : v.record with
  | some recorded => rwa [restored_of_some hrecord] at h
  | none =>
    rw [supersedes_iff] at h ⊢
    refine lt_of_le_of_lt ?_ h
    rw [restored, hrecord, Option.none_or, recordedRank_persistedState]
    exact Prod.Lex.toLex_mono ⟨Nat.zero_le _, le_rfl⟩

theorem supersedes_restore (hbelow : v.record = none → Below answer v.stored) :
    r.supersedes (v.restore answer).restored = true := by
  cases hrecord : v.record with
  | some recorded => rwa [restore_of_some hrecord]
  | none =>
    have hbelow := hbelow hrecord
    cases answer with
    | none => simpa [restore, restored, persistedState] using h
    | some d =>
      obtain ⟨d', hd', hle⟩ := hbelow d rfl
      rw [supersedes_iff] at h ⊢
      refine lt_of_le_of_lt ?_ h
      have hleft : (v.restore (some d)).restored = persistedState (some d) := by
        simp [restore, restored, hrecord, persistedState]
      have hright : v.restored = persistedState (some d') := by
        simp [restored, hrecord, hd']
      rw [hleft, hright]
      exact Prod.Lex.toLex_mono ⟨UInt64.le_iff_toNat_le.mp hle, le_rfl⟩

theorem below_of_supersedes (hnone : v.record = none) : Below v.stored (some r.changedAt) := by
  intro d hd
  have hrestored : v.restored = some ⟨.locked, d⟩ := by
    simp [restored, hnone, hd, persistedState]
  rw [hrestored, supersedes_iff] at h
  exact ⟨r.changedAt, rfl, changedAt_le_of_rank_le h.le⟩

end

theorem Answer.supersedes (h : v.Answer answer)
    (hsup : r.supersedes (if answer.isSome then (v.restore answer).record else none) = true) :
    r.supersedes (v.restore answer).restored = true := by
  cases answer with
  | none =>
    have hnone := h.unrecorded rfl
    simpa [restore, restored, hnone, ← h.current hnone, persistedState] using hsup
  | some d =>
    obtain ⟨state, hstate⟩ : ∃ state, (v.restore (some d)).record = some state := by
      cases hv : v.record <;> simp [restore, hv, persistedState]
    rwa [restored_of_some hstate, ← hstate]

section

variable (h : ∀ recorded, v.record = some recorded → recorded.lockState = .locked)

include h

theorem locked_restore :
    (((v.restore answer).record).getD TimestampedLockState.default).lockState = .locked := by
  cases hrecord : v.record with
  | some recorded =>
    rw [restore_of_some hrecord, hrecord]
    exact h recorded hrecord
  | none =>
    cases answer <;> simp [restore, hrecord, persistedState, TimestampedLockState.default]

theorem getD_restore :
    ((if answer.isSome then (v.restore answer).record else none).getD
        default).lockState =
      ((v.restore answer).record.getD default).lockState := by
  cases answer with
  | none =>
    rw [locked_restore h]
    rfl
  | some d => rfl

end

/-- What is not in a critical section only needs the record to stay and dates to grow. -/
theorem Holds.of_not_critical (hholds : v.Holds u task) (hcritical : ¬task.critical u)
    (hrecord : v.record.isSome = true → v'.record.isSome = true)
    (hstored : v'.record = none → Below v.stored v'.stored) : v'.Holds u task := by
  match task, hholds, hcritical with
  | .idle, _, _ => trivial
  | .applying user _ _, _, hcritical | .event reported .changed, _, hcritical =>
    exact fun huser => absurd huser hcritical
  | .event reported (.persisting _ _), hholds, _ => exact fun huser => hrecord (hholds huser)
  | .advertising user none, _, _ => trivial
  | .advertising user (some answer), hholds, _ =>
    intro huser hnone
    have hold : v.record = none := by
      cases hv : v.record with
      | none => rfl
      | some recorded => simp [hv, hnone] at hrecord
    exact (hholds huser hold).trans (hstored hnone)

theorem Applies.insert {d : UInt64} (h : v.Applies r pc) (hnone : v.record = none)
    (hbelow : Below (some d) v.stored) : (v.restore (some d)).Applies r pc := by
  obtain ⟨d', hd', -⟩ := hbelow d rfl
  have hinserted : (v.restore (some d)).record = some ⟨.locked, d⟩ := record_insert hnone d
  have hkept : ∀ a, v.Answer a → (v.restore (some d)).Answer a := by
    intro a ha
    refine ⟨fun hrecord => absurd hrecord (by simp [hinserted]), fun hunread => ?_⟩
    rw [ha.current hnone, hd'] at hunread
    cases hunread
  have hsupersedes : r.supersedes v.restored = true →
      r.supersedes (v.restore (some d)).restored = true := fun hsup =>
    supersedes_restore hsup fun _ => hbelow
  cases pc with
  | restoring again a =>
    cases again with
    | false => exact ⟨h.1.restore _, hkept _ h.2⟩
    | true =>
      obtain ⟨hagrees, -, hunlocked⟩ := h
      refine ⟨hagrees.restore _, fun recorded hrecord => ?_, fun hr => ?_⟩
      · rw [hinserted] at hrecord
        cases hrecord
        rfl
      · obtain ⟨hsup, ha⟩ := hunlocked hr
        exact ⟨hsupersedes hsup, hkept _ ha⟩
  | persisting stored =>
    cases stored with
    | false =>
      obtain ⟨hagrees, hlocked, hsup⟩ := h
      exact ⟨hagrees.restore _, hlocked, hsupersedes hsup⟩
    | true =>
      obtain ⟨hagrees, hlocked, -⟩ := h
      refine ⟨hagrees.restore _, hlocked, fun recorded hrecord hunlocked => ?_⟩
      rw [hinserted] at hrecord
      cases hrecord
      exact absurd rfl hunlocked
  | relaying => exact hsupersedes h
  | driving answer =>
    cases answer with
    | none => exact hsupersedes h
    | some ok =>
      obtain ⟨hok, hdevice, hsup⟩ := h
      exact ⟨hok, hdevice, hsupersedes hsup⟩

theorem Holds.restore (hholds : v.Holds u task)
    (hbelow : v.record = none → Below answer v.stored) : (v.restore answer).Holds u task := by
  cases hrecord : v.record with
  | some recorded => rwa [restore_of_some hrecord]
  | none =>
    cases answer with
    | none => simpa [restore, persistedState] using hholds
    | some d =>
      have hinserted := record_insert hrecord d
      cases task with
      | idle => trivial
      | applying user r pc => exact fun huser => (hholds huser).insert hrecord (hbelow hrecord)
      | event reported pc =>
        cases pc with
        | changed => exact hholds
        | persisting _ _ =>
          intro _
          rw [hinserted]
          rfl
      | advertising user answer =>
        cases answer with
        | none => trivial
        | some a =>
          intro _ hnone
          rw [hinserted] at hnone
          cases hnone

theorem Applies.storeLock (h : v.Applies r pc) (hsome : v.record.isSome = true) (d : UInt64) :
    (v.storeLock d).Applies r pc := by
  obtain ⟨recorded, hrecord⟩ := Option.isSome_iff_exists.mp hsome
  have hkept : ∀ a : Option (Option UInt64), v.Answer (a.getD v.stored) →
      (v.storeLock d).Answer (a.getD (some d)) := by
    intro a ha
    refine ⟨fun hnone => absurd (hrecord.symm.trans hnone) (by simp), fun hunread => ?_⟩
    cases a with
    | none => cases hunread
    | some a => exact ha.unrecorded hunread
  have hsame := restored_storeLock hrecord d
  match pc, h with
  | .restoring false a, h => exact ⟨h.1, hkept a h.2⟩
  | .restoring true a, h =>
    obtain ⟨hagrees, hlocked, hunlocked⟩ := h
    refine ⟨hagrees, hlocked, fun hr => ?_⟩
    rw [hsame]
    exact ⟨(hunlocked hr).1, hkept a (hunlocked hr).2⟩
  | .persisting false, h
  | .persisting true, h
  | .relaying, h
  | .driving none, h
  | .driving (some ok), h =>
    simp only [Applies, hsame]
    exact h

theorem Holds.storeLock (hholds : v.Holds u task) (hsome : v.record.isSome = true)
    (d : UInt64) : (v.storeLock d).Holds u task := by
  cases task with
  | idle => trivial
  | applying user r pc => exact fun huser => (hholds huser).storeLock hsome d
  | event reported pc => cases pc <;> exact hholds
  | advertising user answer =>
    cases answer with
    | none => trivial
    | some a =>
      intro _ (hnone : v.record = none)
      rw [hnone] at hsome
      cases hsome

end View

namespace Device

variable {s base s' : Device κ} {t : ℕ} {u : UserId} {r : TimestampedLockState κ} {v : View κ}

/-! ## The invariant -/

/-- At most one section is open for the user, and the device agrees with the record if none
is. -/
structure Sound (s : Device κ) (u : UserId) : Prop where
  alone : ∀ t t', (s.tasks t).critical u → (s.tasks t').critical u → t = t'
  quiet : (∀ t, ¬(s.tasks t).critical u) → (s.view u).Agrees
  tasks : ∀ t, (s.view u).Holds u (s.tasks t)

/-- The invariant as far as the operations other than `t` go, while `t` is the only one that
may be in a section. -/
structure Clear (s : Device κ) (t : ℕ) (u : UserId) : Prop where
  alone : ∀ t', t' ≠ t → ¬(s.tasks t').critical u
  others : ∀ t', t' ≠ t → (s.view u).Holds u (s.tasks t')

theorem Sound.clear (h : Sound s u) (halone : ∀ t', t' ≠ t → ¬(s.tasks t').critical u) :
    Clear s t u :=
  ⟨halone, fun t' _ => h.tasks t'⟩

theorem Sound.clear_of_critical (h : Sound s u) (hcritical : (s.tasks t).critical u) :
    Clear s t u :=
  h.clear fun t' hne hcritical' => hne (h.alone t' t hcritical' hcritical)

theorem Sound.holds (h : Sound s u) (hpc : s.tasks t = task) : (s.view u).Holds u task :=
  hpc ▸ h.tasks t

theorem Sound.clear_of_applying (h : Sound s u) (hpc : s.tasks t = .applying u r pc) :
    Clear s t u :=
  h.clear_of_critical (by rw [hpc]; rfl)

theorem Clear.of_view (h : Clear s t u) (hview : base.view u = v) (htasks : base.tasks = s.tasks)
    (hrecord : (s.view u).record.isSome = true → v.record.isSome = true)
    (hstored : v.record = none → Below (s.view u).stored v.stored) : Clear base t u := by
  subst hview
  refine ⟨?_, ?_⟩
  · rw [htasks]
    exact h.alone
  · intro t' hne
    rw [htasks]
    exact (h.others t' hne).of_not_critical (h.alone t' hne) hrecord hstored

theorem Clear.restore (h : Clear s t u) (answer : Option UInt64) :
    Clear (s.restore u answer) t u := by
  refine h.of_view (view_restore s u answer) rfl ?_ fun _ => refl _
  intro hsome
  obtain ⟨recorded, hrecord⟩ := Option.isSome_iff_exists.mp hsome
  rwa [restore_of_some hrecord]

theorem Clear.sound (h : Clear s t u) (hholds : (s.view u).Holds u task)
    (hquiet : ¬task.critical u → (s.view u).Agrees) : Sound (s.setTask t task) u := by
  have hmine : ∀ t', ((s.setTask t task).tasks t').critical u → t' = t :=
    (forall_update_iff s.tasks fun t' task => task.critical u → t' = t).mpr
      ⟨fun _ => rfl, fun t' hne hcritical => absurd hcritical (h.alone t' hne)⟩
  refine ⟨fun t₁ t₂ h₁ h₂ => (hmine t₁ h₁).trans (hmine t₂ h₂).symm, fun hnone => hquiet ?_, ?_⟩
  · simpa using hnone t
  · exact (forall_update_iff s.tasks fun _ => (s.view u).Holds u).mpr ⟨hholds, h.others⟩

/-- The only operation that may be in a section changes the view and takes a step. -/
theorem Clear.step (h : Clear s t u) (hview : base.view u = v) (htasks : base.tasks = s.tasks)
    (hrecord : (s.view u).record.isSome = true → v.record.isSome = true)
    (hstored : v.record = none → Below (s.view u).stored v.stored) (hholds : v.Holds u task)
    (hquiet : ¬task.critical u → v.Agrees) : Sound (base.setTask t task) u := by
  have hclear := h.of_view hview htasks hrecord hstored
  subst hview
  exact hclear.sound hholds hquiet

theorem Sound.aside (h : Sound s u) (hview : base.view u = v) (htasks : base.tasks = s.tasks)
    (hold : ¬(s.tasks t).critical u) (hnew : ¬task.critical u) (hholds : v.Holds u task)
    (hothers : ∀ task, (s.view u).Holds u task → v.Holds u task)
    (hagrees : (s.view u).Agrees → v.Agrees) : Sound (base.setTask t task) u := by
  subst hview
  have hsame : ∀ t', ((base.setTask t task).tasks t').critical u ↔ (s.tasks t').critical u :=
    (forall_update_iff base.tasks fun t' task =>
      task.critical u ↔ (s.tasks t').critical u).mpr
        ⟨iff_of_false hnew hold, fun t' _ => by rw [htasks]⟩
  refine ⟨?_, ?_, ?_⟩
  · intro t₁ t₂ h₁ h₂
    exact h.alone t₁ t₂ ((hsame t₁).mp h₁) ((hsame t₂).mp h₂)
  · intro hnone
    exact hagrees (h.quiet fun t' => mt (hsame t').mpr (hnone t'))
  · exact (forall_update_iff base.tasks fun _ => (base.view u).Holds u).mpr
      ⟨hholds, fun t' _ => htasks ▸ hothers _ (h.tasks t')⟩

theorem Sound.report {event : DeviceEvent κ} (h : Sound s event.userId)
    (hpc : s.tasks t = .event event .changed) (now : UInt64)
    (htask : ∀ v : View κ, v.record.isSome = true → v.Holds event.userId task) :
    Sound ((s.recordLocal event now).setTask t task) event.userId := by
  have hdevice := h.holds hpc rfl
  refine (h.clear_of_critical (by rw [hpc]; rfl)).step (view_recordLocal s event now) rfl
    (fun _ => rfl) ?_ (htask _ rfl) fun _ => hdevice
  intro hnone
  cases hnone

theorem Sound.of_frame {other : UserId} (h : Sound s other) (hframe : Frame s s' t u)
    (hne : other ≠ u) : Sound s' other := by
  have hsame : ∀ t', (s'.tasks t').critical other ↔ (s.tasks t').critical other :=
    hframe.task_iff hne fun _ => Task.not_critical
  refine ⟨?_, ?_, ?_⟩
  · intro t₁ t₂ h₁ h₂
    exact h.alone t₁ t₂ ((hsame t₁).mp h₁) ((hsame t₂).mp h₂)
  · intro hnone
    rw [hframe.view other hne]
    exact h.quiet fun t' => mt (hsame t').mpr (hnone t')
  · rw [hframe.view other hne]
    exact hframe.forall_tasks hne (fun _ => holds_of_ne _) h.tasks

/-! ## The parts of `apply_remote_state` -/

section

variable [DecidableEq κ] {restored : Option (TimestampedLockState κ)} (h : Clear s t u)
  (hagrees : (s.view u).Agrees)

include h hagrees

theorem Clear.settle
    (hsame : (restored.getD default).lockState =
      ((s.view u).record.getD default).lockState)
    (hsup : r.lockState ≠ (restored.getD default).lockState →
      r.supersedes (s.view u).restored = true) :
    Sound (s.settle t u r restored) u := by
  rw [Device.settle]
  split
  case isTrue hdiffers => exact h.sound (fun _ => hsup hdiffers) fun hnot => absurd rfl hnot
  case isFalse hequal =>
    have hstate : r.lockState = (restored.getD default).lockState :=
      not_not.mp hequal
    have hrecorded : ((s.view u).record.isSome = true →
        ((s.view u).recordRemote r).record.isSome = true) ∧
          ((s.view u).recordRemote r).Agrees := by
      rw [View.recordRemote, Latest.offer]
      split
      · refine ⟨fun _ => rfl, ?_⟩
        rw [hagrees, ← hsame, ← hstate]
        rfl
      · exact ⟨id, hagrees⟩
    exact h.step (view_recordRemote s u r) rfl hrecorded.1 (fun _ => refl _) trivial
      fun _ => hrecorded.2

theorem Clear.lookAgain
    (hsup : ∀ recorded, (s.view u).record = some recorded →
      r.lockState ≠ recorded.lockState → r.supersedes (s.view u).restored = true)
    (hnone : (s.view u).record = none → r.lockState ≠ .locked →
      r.supersedes (s.view u).restored = true) :
    Sound (s.lookAgain t u r) u := by
  rw [Device.lookAgain]
  split
  case h_1 recorded hlookup =>
    have hrecord : (s.view u).record = some recorded := hlookup
    refine h.settle hagrees (by rw [hrecord]) fun hdiffers => hsup recorded hrecord hdiffers
  case h_2 hlookup =>
    have hrecord : (s.view u).record = none := hlookup
    refine h.sound (fun _ => ⟨hagrees, ?_, ?_⟩) fun hnot => absurd rfl hnot
    · intro recorded h
      rw [hrecord] at h
      cases h
    · intro hunlocked
      exact ⟨hnone hrecord hunlocked, fun _ => rfl, fun _ => hrecord⟩

theorem Clear.check
    (hsup : r.supersedes restored = true → r.supersedes (s.view u).restored = true) :
    Sound (s.check t u r restored) u := by
  rw [Device.check]
  split
  case isTrue hsupersedes =>
    have hsup := hsup hsupersedes
    split
    case h_1 hlocked =>
      exact h.sound (fun _ => ⟨hagrees, hlocked, hsup⟩) fun hnot => absurd rfl hnot
    case h_2 k hunlocked =>
      exact h.lookAgain hagrees (fun _ _ _ => hsup) fun _ _ => hsup
  case isFalse => exact h.sound trivial fun _ => hagrees

end

/-! ## Steps and runs -/

/-- A section is opened only while no other one is open for the user, and the driver
succeeds. -/
def Undisturbed (s : Device κ) : DeviceAction κ → Prop
  | .receive _ u _ => ∀ t, ¬(s.tasks t).critical u
  | .change _ event => ∀ t, ¬(s.tasks t).critical event.userId
  | .drive _ ok => ok = true
  | _ => True

variable [DecidableEq κ] {action : DeviceAction κ}

theorem Stepped.sound (hstep : Stepped s t u action s') (hcondition : Undisturbed s action)
    (h : Sound s u) : Sound s' u := by
  have hidle : s.tasks t = .idle → ¬(s.tasks t).critical u := by
    intro hpc
    rw [hpc]
    exact id
  cases hstep with
  | start hpc hnone =>
    refine (h.clear fun t' _ => hcondition t').sound (fun _ => ⟨?_, fun _ => rfl, fun _ => hnone⟩)
      fun hnot => absurd rfl hnot
    exact h.quiet hcondition
  | compare hpc hsome =>
    refine (h.clear fun t' _ => hcondition t').check (h.quiet hcondition) fun hsup => ?_
    rwa [restored_of_some hsome]
  | known hpc => exact h
  | look hpc hnone => exact h.aside rfl rfl (hidle hpc) id trivial (fun _ => id) id
  | @change event hpc huser =>
    subst huser
    exact (h.clear fun t' _ => hcondition t').step (view_setLockState s _ event.lockState) rfl id
      (fun _ => refl _) (fun _ => rfl) fun hnot => absurd rfl hnot
  | @reportLock now hpc => exact Sound.report h hpc now fun _ hsome _ => hsome
  | @reportUnlock k now hpc => exact Sound.report h hpc now fun _ _ => trivial
  | @read r again hpc =>
    refine (h.clear_of_applying hpc).sound (fun _ => ?_) fun hnot => absurd rfl hnot
    cases again <;> exact h.holds hpc rfl
  | readAdvertised hpc =>
    exact h.aside rfl rfl (by rw [hpc]; exact id) id (fun _ _ => refl _) (fun _ => id) id
  | @persist r hpc =>
    obtain ⟨hagrees, hlocked, hsup⟩ := h.holds hpc rfl
    refine (h.clear_of_applying hpc).step (view_storeLock s u r.changedAt) rfl id
      (below_of_supersedes hsup) (fun _ => ⟨hagrees, hlocked, ?_⟩) fun hnot => absurd rfl hnot
    intro recorded hrecord _
    rwa [restored_storeLock (v := s.view u) hrecord]
  | @persistEvent event changedAt hpc huser =>
    have hsome : (s.view u).record.isSome = true := h.holds hpc huser
    exact h.aside (view_storeLock s u changedAt) rfl (by rw [hpc]; exact id) id (fun _ => hsome)
      (fun task hholds => hholds.storeLock hsome changedAt) id
  | relay hpc =>
    exact (h.clear_of_applying hpc).sound (fun _ => h.holds hpc rfl) fun hnot => absurd rfl hnot
  | @drive r ok hpc =>
    cases (hcondition : ok = true)
    exact (h.clear_of_applying hpc).step (view_setLockState s u r.lockState) rfl id
      (fun _ => refl _) (fun _ => ⟨rfl, rfl, h.holds hpc rfl⟩) fun hnot => absurd rfl hnot
  | @restored r answer hpc =>
    obtain ⟨hagrees, hanswer⟩ := h.holds hpc rfl
    refine Clear.check ((h.clear_of_applying hpc).restore answer) ?_ ?_
    · rw [view_restore]
      exact hagrees.restore answer
    · rw [restoreState_fst, view_restore]
      exact hanswer.supersedes
  | @restoredAgain r answer hpc =>
    obtain ⟨hagrees, hlocked, hunlocked⟩ := h.holds hpc rfl
    refine Clear.settle ((h.clear_of_applying hpc).restore answer) ?_ ?_ ?_
    · rw [view_restore]
      exact hagrees.restore answer
    · rw [restoreState_fst, view_restore]
      exact getD_restore hlocked
    · rw [restoreState_fst, view_restore, getD_restore hlocked, locked_restore hlocked]
      intro hr
      obtain ⟨hsup, hanswer⟩ := hunlocked hr
      exact supersedes_restore hsup fun hnone => hanswer.current hnone ▸ refl _
  | @persisted r hpc =>
    obtain ⟨hagrees, hlocked, hsup⟩ := h.holds hpc rfl
    refine (h.clear_of_applying hpc).lookAgain hagrees ?_ ?_
    · intro recorded hrecord hdiffers
      exact hsup recorded hrecord fun h => hdiffers (hlocked.trans h.symm)
    · exact fun _ hunlocked => absurd hlocked hunlocked
  | @driven r ok hpc =>
    obtain ⟨rfl, hdevice, hsup⟩ := h.holds hpc rfl
    have hrecord : ((s.view u).recordRemote r).record = some r :=
      if_pos ((supersedes_iff _ _).mp (supersedes_record hsup))
    refine (h.clear_of_applying hpc).step (view_recordRemote s u r) rfl ?_ (fun _ => refl _)
      trivial ?_
    · exact fun _ => congrArg Option.isSome hrecord
    · intro _
      rw [Agrees, hrecord]
      exact hdevice
  | reported hpc huser =>
    exact h.aside rfl rfl (by rw [hpc]; exact id) id trivial (fun _ => id) id
  | @advertised answer hpc =>
    exact h.aside (view_restore s u answer) rfl (by rw [hpc]; exact id) id trivial
      (fun task htask => htask.restore (h.holds hpc rfl)) fun hagrees => hagrees.restore answer

omit [DecidableEq κ] in
theorem sound_of_idle (hidle : ∀ t, s.tasks t = .idle) (hagrees : (s.view u).Agrees) :
    Sound s u := by
  refine ⟨?_, fun _ => hagrees, ?_⟩
  · intro t t' h
    rw [hidle t] at h
    exact h.elim
  · intro t
    rw [hidle t]
    trivial

theorem sound_step (hcondition : Undisturbed s action) (hstep : s.step action = some s')
    (h : ∀ u, Sound s u) : ∀ u, Sound s' u := by
  intro user
  obtain ⟨t, u, hstepped⟩ := stepped_of_step hstep
  by_cases huser : user = u
  · subst huser
    exact hstepped.sound hcondition (h user)
  · exact (h user).of_frame hstepped.frame huser

/-- If no two sections for one user overlap, then whenever no operation is in progress the
lock state of the device is the recorded one. -/
theorem device_agrees {actions : List (DeviceAction κ)} (hidle : ∀ t, s.tasks t = .idle)
    (hagrees : ∀ u, (s.view u).Agrees) (hmeets : Meets step Undisturbed s actions)
    (hrun : run step s actions = some s') (hended : ∀ t, s'.tasks t = .idle) (u : UserId) :
    (s'.view u).Agrees := by
  have hsound : ∀ u, Sound s' u :=
    run_invariant step (fun s => ∀ u, Sound s u) (fun _ _ _ => sound_step) hmeets hrun
      fun u => sound_of_idle hidle (hagrees u)
  refine (hsound u).quiet fun t => ?_
  rw [hended t]
  exact id

/-- The user unlocks the device, and then a peer's lock is applied. -/
def unlockThenLocked : List (DeviceAction ℕ) :=
  [.change 1 (.manualUnlock ⟨1⟩ 7), .report 1 20, .receive 0 ⟨1⟩ ⟨.locked, 30⟩, .persist 0,
    .resume 0, .relay 0, .drive 0 true, .resume 0]

theorem undisturbed_unlockThenLocked :
    Meets step Undisturbed (install fun _ => .locked) unlockThenLocked := by
  refine .cons (fun _ => id) rfl (.cons trivial rfl (.cons ?_ rfl ?_))
  · intro t
    match t with
    | 0 | 1 | t + 2 => exact id
  · exact .cons trivial rfl (.cons trivial rfl (.cons trivial rfl (.cons rfl rfl
      (.cons trivial rfl trivial))))

theorem device_agrees_unlockThenLocked :
    ∃ s', run step (install fun _ => .locked) unlockThenLocked = some s' ∧
      (s'.view ⟨1⟩).Agrees ∧ s'.states.lookup ⟨1⟩ = some ⟨.locked, 30⟩ := by
  obtain ⟨s', hrun, hended, hrecord⟩ : ∃ s',
      run step (install fun _ => .locked) unlockThenLocked = some s' ∧
        (∀ t, s'.tasks t = .idle) ∧ s'.states.lookup ⟨1⟩ = some ⟨.locked, 30⟩ := by
    refine ⟨_, rfl, fun t => ?_, rfl⟩
    match t with
    | 0 | 1 | t + 2 => rfl
  refine ⟨s', hrun, ?_, hrecord⟩
  exact device_agrees (s := install fun _ => .locked) (fun _ => rfl) (fun _ => rfl)
    undisturbed_unlockThenLocked hrun hended ⟨1⟩

/-- The user locks the device while the driver unlocks it for a peer: the device ends
unlocked, and its peer advertises it as locked. -/
theorem unlock_during_lock_disagrees :
    ∃ s', run step (install fun _ => .locked)
        [.receive 0 ⟨1⟩ ⟨.unlocked 7, 10⟩, .read 0, .resume 0, .read 0, .resume 0, .relay 0,
          .change 1 (.manualLock ⟨1⟩), .report 1 20, .persist 1, .resume 1,
          .drive 0 true, .resume 0] = some s' ∧
      (∀ t, s'.tasks t = .idle) ∧ s'.lockStates ⟨1⟩ = .unlocked 7 ∧
      s'.states.lookup ⟨1⟩ = some ⟨.locked, 20⟩ ∧ ¬(s'.view ⟨1⟩).Agrees := by
  refine ⟨_, rfl, fun t => ?_, rfl, rfl, fun h => ?_⟩
  · match t with
    | 0 | 1 | t + 2 => rfl
  · cases h

end Device

end SdkInternal.SharedUnlock
