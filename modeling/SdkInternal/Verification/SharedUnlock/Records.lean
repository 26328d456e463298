import SdkInternal.Model.SharedUnlock.LockState
import SdkInternal.Shared.Latest

/-! # What a device records

States are ordered by date, with `Locked` above `Unlocked` at one date and a missing record
at the place of a lock at date zero. Recording a peer's state keeps the later of two states. -/

namespace SdkInternal.SharedUnlock

open Shared

variable {κ : Type}

namespace TimestampedLockState

/-- The order of states: by date, with `Locked` above `Unlocked`. -/
def rank (state : TimestampedLockState κ) : ℕ ×ₗ Bool :=
  toLex (state.changedAt.toNat, state.lockState.isLocked)

/-- Nothing recorded counts as the default state. -/
def recordedRank (recorded : Option (TimestampedLockState κ)) : ℕ ×ₗ Bool :=
  (recorded.getD default).rank

variable (state : TimestampedLockState κ)

@[simp] theorem recordedRank_some :
    recordedRank (some state) = state.rank := rfl

variable {a b : TimestampedLockState κ}

theorem rank_lt_iff :
    a.rank < b.rank ↔ a.changedAt < b.changedAt ∨
      (a.changedAt = b.changedAt ∧ a.lockState.isLocked = false ∧
        b.lockState.isLocked = true) := by
  rw [rank, rank, Prod.Lex.toLex_lt_toLex]
  simp only [UInt64.lt_iff_toNat_lt, UInt64.toNat_inj, Bool.lt_iff]

theorem rank_le_of_changedAt_lt (h : a.changedAt < b.changedAt) :
    a.rank ≤ b.rank := (rank_lt_iff.mpr (.inl h)).le

theorem changedAt_le_of_rank_le (h : a.rank ≤ b.rank) : a.changedAt ≤ b.changedAt := by
  refine UInt64.not_lt.mp fun hlt => ?_
  exact not_lt.mpr h (rank_lt_iff.mpr (.inl hlt))

theorem supersedes_iff (recorded : Option (TimestampedLockState κ)) :
    state.supersedes recorded = true ↔ recordedRank recorded < state.rank := by
  have hdate : (recorded.map (·.changedAt)).getD 0 =
      (recorded.getD (default : TimestampedLockState κ)).changedAt := by
    cases recorded <;> rfl
  rw [recordedRank, rank_lt_iff, supersedes, hdate]
  cases hcompare : compare state.changedAt (recorded.getD default).changedAt with
  | lt =>
    have hlt := Std.compare_eq_lt.mp hcompare
    simp only [Bool.false_eq_true, false_iff, not_or]
    exact ⟨UInt64.lt_asymm hlt, fun h => UInt64.ne_of_lt hlt h.1.symm⟩
  | gt =>
    have hgt := Std.compare_eq_gt.mp hcompare
    simp only [true_iff]
    exact .inl hgt
  | eq =>
    have heq := Std.compare_eq_iff_eq.mp hcompare
    cases recorded with
    | none => simp [heq, default, LockState.isLocked]
    | some recorded =>
      simp [heq, and_comm]

theorem eq_of_rank_eq (h : a.rank = b.rank)
    (hkey : ∀ k l, a.lockState = .unlocked k → b.lockState = .unlocked l →
      a.changedAt = b.changedAt → k = l) : a = b := by
  have hpair := toLex_inj.mp h
  have hdate : a.changedAt = b.changedAt := UInt64.toNat_inj.mp (congrArg Prod.fst hpair)
  have hlocked : a.lockState.isLocked = b.lockState.isLocked := congrArg Prod.snd hpair
  obtain ⟨lockState, changedAt⟩ := a
  obtain ⟨lockState', changedAt'⟩ := b
  subst hdate
  cases lockState with
  | locked =>
    cases lockState' with
    | locked => rfl
    | unlocked l => cases hlocked
  | unlocked k =>
    cases lockState' with
    | locked => cases hlocked
    | unlocked l => rw [hkey k l rfl rfl rfl]

end TimestampedLockState

open TimestampedLockState

/-! ## Dates that may be missing -/

def Reaches (date : Option UInt64) (d : UInt64) : Prop := ∃ d', date = some d' ∧ d ≤ d'

def Below (date date' : Option UInt64) : Prop := ∀ d, date = some d → Reaches date' d

theorem Reaches.of_le {date : Option UInt64} {d d' : UInt64} (h : Reaches date d') (hle : d ≤ d') :
    Reaches date d := by
  obtain ⟨d'', hdate, hle'⟩ := h
  exact ⟨d'', hdate, UInt64.le_trans hle hle'⟩

theorem Reaches.trans {date date' : Option UInt64} {d : UInt64} (h : Reaches date d)
    (hbelow : Below date date') : Reaches date' d := by
  obtain ⟨d', hdate, hle⟩ := h
  exact (hbelow d' hdate).of_le hle

theorem Below.refl (date : Option UInt64) : Below date date :=
  fun d h => ⟨d, h, UInt64.le_refl d⟩

theorem Below.trans {a b c : Option UInt64} (hab : Below a b) (hbc : Below b c) : Below a c :=
  fun d hd => (hab d hd).trans hbc

/-! ## Recording -/

section

variable {states : States κ} {userId : UserId}

theorem lookup_recordRemoteState (states : States κ) (userId : UserId)
    (state : TimestampedLockState κ) :
    (recordRemoteState states userId state).lookup userId =
      Latest.offer recordedRank (states.lookup userId) (some state) := by
  rw [recordRemoteState, Latest.offer, recordedRank_some]
  by_cases h : state.supersedes (states.lookup userId) = true
  · rw [if_pos h, if_pos ((supersedes_iff _ _).mp h), AList.lookup_insert]
  · rw [if_neg h, if_neg (mt (supersedes_iff _ _).mpr h)]

theorem recordRemoteState_of_rank_le {state : TimestampedLockState κ}
    (h : state.rank ≤ recordedRank (states.lookup userId)) :
    recordRemoteState states userId state = states := by
  refine if_neg ?_
  rw [supersedes_iff]
  exact not_lt.mpr h

variable {other : UserId}

theorem lookup_recordRemoteState_of_ne (h : other ≠ userId) (state : TimestampedLockState κ) :
    (recordRemoteState states userId state).lookup other = states.lookup other := by
  rw [recordRemoteState]
  split
  · exact AList.lookup_insert_ne h
  · rfl

theorem lookup_recordLocalState (states : States κ) (userId : UserId) (lockState : LockState κ)
    (now : UInt64) :
    (recordLocalState states userId lockState now).lookup userId =
      some ⟨lockState, localDate states userId now⟩ :=
  AList.lookup_insert _

theorem lookup_recordLocalState_of_ne (h : other ≠ userId) (lockState : LockState κ)
    (now : UInt64) :
    (recordLocalState states userId lockState now).lookup other = states.lookup other :=
  AList.lookup_insert_ne h

/-- What an answer of `get_last_manual_lock` stands for. -/
def persistedState (lastManualLock : Option UInt64) : Option (TimestampedLockState κ) :=
  lastManualLock.map fun changedAt => ⟨.locked, changedAt⟩

theorem recordedRank_persistedState (answer : Option UInt64) :
    recordedRank (persistedState answer : Option (TimestampedLockState κ)) =
      toLex ((answer.getD 0).toNat, true) := by
  cases answer <;> rfl

theorem lookup_restoreState (answer : Option UInt64) :
    (restoreState states userId answer).2.lookup userId =
      (states.lookup userId).or (persistedState answer) := by
  cases answer with
  | none => simp [restoreState, persistedState]
  | some changedAt =>
    cases h : states.lookup userId with
    | none => simp [restoreState, persistedState, h]
    | some recorded => simp [restoreState, h]

theorem lookup_restoreState_of_ne (h : other ≠ userId) (answer : Option UInt64) :
    (restoreState states userId answer).2.lookup other = states.lookup other := by
  cases answer with
  | none => rfl
  | some changedAt =>
    cases hlookup : states.lookup userId with
    | none => simp [restoreState, hlookup, AList.lookup_insert_ne h]
    | some recorded => simp [restoreState, hlookup]

theorem restoreState_some (changedAt : UInt64) :
    (restoreState states userId (some changedAt)).1 =
      (restoreState states userId (some changedAt)).2.lookup userId := by
  cases h : states.lookup userId with
  | none | some recorded => simp [restoreState, h]

end

end SdkInternal.SharedUnlock
