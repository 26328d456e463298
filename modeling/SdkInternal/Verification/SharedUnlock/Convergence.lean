import SdkInternal.Verification.SharedUnlock.Records
import Mathlib.Data.Finset.Basic

/-! # Devices that hear of the same states record the same state -/

namespace SdkInternal.SharedUnlock

open Shared TimestampedLockState List

variable {κ : Type} (states : States κ) (userId : UserId) (received : List (TimestampedLockState κ))

def recordAll : States κ :=
  received.foldl (fun states state => recordRemoteState states userId state) states

theorem lookup_recordAll :
    (recordAll states userId received).lookup userId =
      Latest.offerAll recordedRank (states.lookup userId) (received.map some) := by
  induction received generalizing states with
  | nil => rfl
  | cons state received ih =>
    rw [map_cons, Latest.offerAll_cons, ← lookup_recordRemoteState]
    exact ih _

/-- No two `Unlocked` states of one date carry different keys. -/
def SameKeys (received : Finset (TimestampedLockState κ)) : Prop :=
  ∀ a ∈ received, ∀ b ∈ received, ∀ k l, a.lockState = .unlocked k → b.lockState = .unlocked l →
    a.changedAt = b.changedAt → k = l

/-- The recorded state is the greatest of the initial and the received ones. -/
structure Greatest (initial : Option (TimestampedLockState κ))
    (received : Finset (TimestampedLockState κ)) (recorded : Option (TimestampedLockState κ)) :
    Prop where
  from_them : recorded = initial ∨ ∃ state ∈ received, recorded = some state
  initial_le : recordedRank initial ≤ recordedRank recorded
  received_le : ∀ state ∈ received, state.rank ≤ recordedRank recorded

theorem greatest_recordAll {received : Finset (TimestampedLockState κ)}
    {order : List (TimestampedLockState κ)} (horder : ∀ state, state ∈ order ↔ state ∈ received) :
    Greatest (states.lookup userId) received ((recordAll states userId order).lookup userId) := by
  rw [lookup_recordAll]
  refine ⟨?_, Latest.rank_le_offerAll recordedRank _ _, ?_⟩
  · rcases Latest.offerAll_eq_or_mem recordedRank (states.lookup userId) (order.map some) with
      heq | ⟨hmem, -⟩
    · exact .inl heq
    · obtain ⟨state, hstate, heq⟩ := mem_map.mp hmem
      exact .inr ⟨state, (horder state).mp hstate, heq.symm⟩
  · intro state hstate
    have hmem : some state ∈ order.map some := mem_map_of_mem ((horder state).mpr hstate)
    exact Latest.rank_mem_le_offerAll recordedRank hmem

/-- Two devices with the same record that receive the same set of states, each in any order
and any number of times, end with the same record. It is the greatest of the states they
started from and received, and none of them, and no older one, changes it when it is received
again. -/
theorem recordAll_converges (states states' : States κ) (userId : UserId)
    (received : Finset (TimestampedLockState κ)) (hkeys : SameKeys received)
    (order order' : List (TimestampedLockState κ))
    (horder : ∀ state, state ∈ order ↔ state ∈ received)
    (horder' : ∀ state, state ∈ order' ↔ state ∈ received)
    (hinitial : states.lookup userId = states'.lookup userId) :
    (recordAll states userId order).lookup userId =
        (recordAll states' userId order').lookup userId ∧
      Greatest (states.lookup userId) received ((recordAll states userId order).lookup userId) ∧
      ∀ state, state ∈ received ∨ states.lookup userId = some state ∨
          (∃ recorded, (recordAll states userId order).lookup userId = some recorded ∧
            (state = recorded ∨ state.changedAt < recorded.changedAt)) →
        recordRemoteState (recordAll states userId order) userId state =
          recordAll states userId order := by
  have hgreatest := greatest_recordAll states userId horder
  refine ⟨?_, hgreatest, ?_⟩
  · rw [lookup_recordAll, lookup_recordAll, hinitial]
    refine Latest.offerAll_eq_of_mem_iff recordedRank ?_ ?_
    · intro offered hoffered offered' hoffered' hrank
      obtain ⟨a, ha, rfl⟩ := mem_map.mp hoffered
      obtain ⟨b, hb, rfl⟩ := mem_map.mp hoffered'
      refine congrArg some (eq_of_rank_eq hrank fun k l hk hl => ?_)
      exact hkeys a ((horder a).mp ha) b ((horder b).mp hb) k l hk hl
    · intro offered
      simp only [mem_map, horder, horder']
  · intro state hstate
    refine recordRemoteState_of_rank_le ?_
    rcases hstate with hstate | hstate | ⟨recorded, hrecorded, hold⟩
    · exact hgreatest.received_le state hstate
    · have hinitial := hgreatest.initial_le
      rwa [hstate] at hinitial
    · rw [hrecorded]
      rcases hold with rfl | hold
      · exact le_rfl
      · exact rank_le_of_changedAt_lt hold

/-- A lock and an unlock of one millisecond, in both orders and with a repetition: both
devices end locked. -/
theorem recordAll_converges_sample :
    (recordAll (∅ : States ℕ) ⟨1⟩ [⟨.unlocked 7, 5⟩, ⟨.locked, 5⟩, ⟨.unlocked 7, 5⟩]).lookup ⟨1⟩ =
        (recordAll (∅ : States ℕ) ⟨1⟩ [⟨.locked, 5⟩, ⟨.unlocked 7, 5⟩]).lookup ⟨1⟩ ∧
      (recordAll (∅ : States ℕ) ⟨1⟩ [⟨.locked, 5⟩, ⟨.unlocked 7, 5⟩]).lookup ⟨1⟩ =
        some ⟨.locked, 5⟩ := by
  refine ⟨?_, by decide⟩
  have hkeys : SameKeys ({⟨.unlocked 7, 5⟩, ⟨.locked, 5⟩} : Finset (TimestampedLockState ℕ)) := by
    intro a ha b hb k l hk hl _
    simp only [Finset.mem_insert, Finset.mem_singleton] at ha hb
    rcases ha with rfl | rfl
    · rcases hb with rfl | rfl
      · rw [hk] at hl
        cases hl
        rfl
      · cases hl
    · cases hk
  exact (recordAll_converges ∅ ∅ ⟨1⟩ _ hkeys _ _ (by simp; tauto) (by simp; tauto) rfl).1

end SdkInternal.SharedUnlock
