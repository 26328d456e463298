import Mathlib.Algebra.Order.Ring.Nat
import SdkInternal.Model.Sync.SyncClient

/-! # Changes that a sync may skip

The server dates a change by its millisecond, and a sync is dated by its start in full. A
change in the rest of that millisecond is dated before the sync that did not fetch it. -/

namespace SdkInternal.Sync

open SyncClient

def reported (change : Date) : Date := change / nanosPerMilli * nanosPerMilli

/-- The revision date of an account at a time, by the changes of its whole history. -/
def revisionMillis (changes : List Date) (time : Date) : ℕ :=
  ((changes.filter (· ≤ time)).map (· / nanosPerMilli)).foldr max 0

/-- A call with the times at which the server answers it. What it reports is its revision
date. -/
structure ServedCall (changes : List Date) extends SyncCall where
  checkedAt : Date
  readAt : Date
  syncStart_le : syncStart ≤ checkedAt
  checkedAt_le : checkedAt ≤ readAt
  revision : ∀ ms ∈ revisionMs, ms = revisionMillis changes checkedAt

structure Synced where
  client : SyncClient
  fetchedAt : Option Date

variable {changes : List Date}

def Synced.step (s : Synced) (call : ServedCall changes) : Synced where
  client := (s.client.sync call.toSyncCall).2
  fetchedAt :=
    if (s.client.sync call.toSyncCall).1 = .ok true then some call.readAt else s.fetchedAt

/-- Every change that has not been fetched is reported with a date after the stored one. -/
def Synced.Covers (changes : List Date) (s : Synced) : Prop :=
  ∀ stored, s.client.lastSync = some (some stored) → ∃ fetched, s.fetchedAt = some fetched ∧
    ∀ change ∈ changes, fetched < change → stored < reported change

theorem le_revisionMillis {time change : Date} (hmem : change ∈ changes) (hle : change ≤ time) :
    change / nanosPerMilli ≤ revisionMillis changes time := by
  induction changes with
  | nil => cases hmem
  | cons first rest ih =>
    rcases List.mem_cons.mp hmem with rfl | hmem
    · simp [revisionMillis, hle]
    · have hrest := ih hmem
      simp only [revisionMillis] at hrest ⊢
      by_cases hfirst : first ≤ time <;> simp [hfirst, hrest]

/-! ## One call -/

variable {s : Synced} {call : ServedCall changes}

theorem sync_error {e : SyncError} (h : (s.client.sync call.toSyncCall).1 = .error e) :
    (s.client.sync call.toSyncCall).2 = s.client := by
  unfold sync at h ⊢
  split at h
  · rfl
  · cases h
  · split at h
    · cases h
    · rfl

theorem sync_ok {fetched : Bool} (h : (s.client.sync call.toSyncCall).1 = .ok fetched) :
    (s.client.sync call.toSyncCall).2 = s.client.updateLastSync call.toSyncCall call.syncStart := by
  unfold sync at h ⊢
  split at h
  · cases h
  · rfl
  · split at h
    · rfl
    · cases h

/-- A sync is left out only if no change is reported with a date after the stored one. -/
theorem reported_le_of_skipped (h : (s.client.sync call.toSyncCall).1 = .ok false) :
    ∃ stored, s.client.lastSync = some (some stored) ∧
      ∀ change ∈ changes, change ≤ call.checkedAt → reported change ≤ stored := by
  have hneeds : s.client.needsSync call.toSyncCall = .ok false := by
    unfold sync at h
    split at h
    · cases h
    case h_2 hneeds =>
      split at hneeds
      · cases hneeds
      · exact hneeds
    · split at h <;> cases h
  unfold needsSync at hneeds
  split at hneeds
  · cases hneeds
  case h_2 stored hbackend =>
    split at hneeds
    · split at hneeds
      · cases hneeds
      · cases hneeds
      case h_3 lastSync ms hms =>
        refine ⟨lastSync, hbackend, fun change hmem hle => ?_⟩
        have hrevision := call.revision ms hms
        simp only [fromTimestampMillis] at hneeds
        split at hneeds
        · cases hneeds
        · split at hneeds
          · cases hneeds
          case h_2 revision hdate =>
            split at hdate
            · cases hdate
              have hnot : ¬lastSync < ms.toNat * nanosPerMilli := by simpa using hneeds
              have hchange := le_revisionMillis hmem hle
              rw [hrevision] at hnot
              exact (Nat.mul_le_mul_right nanosPerMilli hchange).trans (not_lt.mp hnot)
            · cases hdate
    · cases hneeds

/-- No change is left in the millisecond in which a call starts. -/
def StartsApart (changes : List Date) (call : SyncCall) : Prop :=
  ∀ change ∈ changes, call.syncStart < change → call.syncStart < reported change

theorem Synced.Covers.fetched_of_skipped (hs : s.Covers changes)
    (h : (s.client.sync call.toSyncCall).1 = .ok false) :
    ∃ fetched, s.fetchedAt = some fetched ∧
      ∀ change ∈ changes, change ≤ call.checkedAt → change ≤ fetched := by
  obtain ⟨stored, hstored, hreported⟩ := reported_le_of_skipped h
  obtain ⟨fetched, hfetched, hlater⟩ := hs stored hstored
  refine ⟨fetched, hfetched, fun change hmem hle => ?_⟩
  by_contra hnew
  exact (hlater change hmem (not_le.mp hnew)).not_ge (hreported change hmem hle)

theorem Synced.Covers.step (hs : s.Covers changes) (hstart : StartsApart changes call.toSyncCall)
    (hlater : ∀ fetched, s.fetchedAt = some fetched → fetched ≤ call.readAt) :
    (s.step call).Covers changes := by
  intro stored hstored
  cases hresult : (s.client.sync call.toSyncCall).1 with
  | error e =>
    simp only [Synced.step, hresult, sync_error hresult] at hstored ⊢
    exact hs stored hstored
  | ok full =>
    simp only [Synced.step, hresult, sync_ok hresult, updateLastSync] at hstored ⊢
    cases full with
    | true =>
      refine ⟨call.readAt, by simp, fun change hmem hlt => ?_⟩
      split at hstored
      · cases hstored
        exact hstart change hmem ((call.syncStart_le.trans call.checkedAt_le).trans_lt hlt)
      · obtain ⟨fetched, hfetched, hnew⟩ := hs stored hstored
        exact hnew change hmem ((hlater fetched hfetched).trans_lt hlt)
    | false =>
      obtain ⟨fetched, hfetched, hold⟩ := hs.fetched_of_skipped hresult
      refine ⟨fetched, by simpa using hfetched, fun change hmem hlt => ?_⟩
      split at hstored
      · -- the change is not there yet when the revision date is read
        cases hstored
        have hchecked : call.checkedAt < change := by
          by_contra hle
          exact hlt.not_ge (hold change hmem (not_lt.mp hle))
        exact hstart change hmem (call.syncStart_le.trans_lt hchecked)
      · obtain ⟨fetched', hfetched', hnew⟩ := hs stored hstored
        cases hfetched.symm.trans hfetched'
        exact hnew change hmem hlt

/-! ## Runs -/

theorem covers_foldl {calls : List (ServedCall changes)} (hs : s.Covers changes)
    (hstart : ∀ call ∈ calls, StartsApart changes call.toSyncCall)
    (horder : calls.Pairwise fun first second => first.readAt ≤ second.syncStart)
    (hlater : ∀ fetched, s.fetchedAt = some fetched → ∀ call ∈ calls, fetched ≤ call.readAt) :
    (calls.foldl Synced.step s).Covers changes := by
  induction calls generalizing s with
  | nil => exact hs
  | cons call calls ih =>
    obtain ⟨hfirst, horder⟩ := List.pairwise_cons.mp horder
    refine ih (hs.step (hstart call (by simp)) fun fetched h => hlater fetched h call (by simp))
      (fun call hmem => hstart call (by simp [hmem])) horder fun fetched hfetched call' hmem => ?_
    simp only [Synced.step] at hfetched
    split at hfetched
    · cases hfetched
      exact (hfirst call' hmem).trans (call'.syncStart_le.trans call'.checkedAt_le)
    · exact hlater fetched hfetched call' (by simp [hmem])

/-- If no change is left in the millisecond in which a call starts, then after any calls, one
that reports that no sync was needed has nothing to fetch. A call that fails leaves the stored
date as it is. -/
theorem sync_misses_no_change {calls : List (ServedCall changes)} {call : ServedCall changes}
    (backend : Bool)
    (horder : (calls ++ [call]).Pairwise fun first second => first.readAt ≤ second.syncStart)
    (hstart : ∀ call ∈ calls, StartsApart changes call.toSyncCall) :
    let s := calls.foldl Synced.step ⟨⟨if backend then some none else none⟩, none⟩
    ((s.client.sync call.toSyncCall).1 = .ok false → ∃ fetched, s.fetchedAt = some fetched ∧
      ∀ change ∈ changes, change ≤ call.checkedAt → change ≤ fetched) ∧
    ∀ e, (s.client.sync call.toSyncCall).1 = .error e →
      (s.client.sync call.toSyncCall).2 = s.client := by
  intro s
  refine ⟨fun h => ?_, fun e h => sync_error h⟩
  refine Synced.Covers.fetched_of_skipped (covers_foldl ?_ hstart
    (List.pairwise_append.mp horder).1 (by simp)) h
  intro stored hstored
  cases backend <;> cases hstored

/-! ## A change in the same millisecond -/

def midMillisecondCall (force : Bool) (start : Date) (revisionMs : ℤ) : SyncCall :=
  ⟨force, start, true, true, some revisionMs, true, []⟩

theorem change_in_millisecond_of_sync_missed :
    let changes := [1800000]
    ∃ first second : ServedCall changes, first.readAt ≤ second.syncStart ∧
      let s := Synced.step ⟨⟨some none⟩, none⟩ first
      s.fetchedAt = some 1600000 ∧ second.checkedAt = 3000000 ∧
        (s.client.sync second.toSyncCall).1 = .ok false :=
  ⟨⟨midMillisecondCall true 1500000 0, 1500000, 1600000, by decide, by decide, by decide⟩,
    ⟨midMillisecondCall false 3000000 1, 3000000, 3000000, by decide, by decide, by decide⟩,
    by decide, by decide, by decide, by decide⟩

theorem later_change_fetched :
    let changes := [1800000, 2400000]
    ∃ first second : ServedCall changes,
      let s := [first].foldl Synced.step ⟨⟨some none⟩, none⟩
      (s.client.sync second.toSyncCall).1 = .ok true ∧
      ((s.client.sync second.toSyncCall).1 = .ok false → ∃ fetched, s.fetchedAt = some fetched ∧
        ∀ change ∈ changes, change ≤ second.checkedAt → change ≤ fetched) ∧
      ∀ e, (s.client.sync second.toSyncCall).1 = .error e →
        (s.client.sync second.toSyncCall).2 = s.client :=
  ⟨⟨midMillisecondCall true 1900000 1, 1900000, 1900000, by decide, by decide, by decide⟩,
    ⟨midMillisecondCall false 3000000 2, 3000000, 3000000, by decide, by decide, by decide⟩,
    by decide, sync_misses_no_change true (by simp [midMillisecondCall])
      (by simp [StartsApart, midMillisecondCall, reported, nanosPerMilli])⟩

end SdkInternal.Sync
