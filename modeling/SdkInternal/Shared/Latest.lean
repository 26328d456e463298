import Mathlib.Data.Prod.Lex

/-! # Keeping the latest of what is offered

A register that adopts an offer only if its rank is greater than that of what it holds.
What it holds after a list of offers does not depend on their order or multiplicity, as
long as offers of one rank are equal. -/

namespace SdkInternal.Shared.Latest

variable {σ ρ : Type*} [LinearOrder ρ] (rank : σ → ρ) (held new : σ)

def offer : σ := if rank held < rank new then new else held

def offerAll (held : σ) (offers : List σ) : σ := offers.foldl (offer rank) held

@[simp] theorem offerAll_cons (offers : List σ) :
    offerAll rank held (new :: offers) = offerAll rank (offer rank held new) offers := rfl

theorem offer_of_le {held new : σ} (h : rank new ≤ rank held) : offer rank held new = held :=
  if_neg (not_lt.mpr h)

theorem rank_offer : rank (offer rank held new) = max (rank held) (rank new) := by
  unfold offer
  split_ifs with h
  · exact (max_eq_right h.le).symm
  · exact (max_eq_left (not_lt.mp h)).symm

theorem rank_le_offerAll (held : σ) (offers : List σ) :
    rank held ≤ rank (offerAll rank held offers) := by
  induction offers generalizing held with
  | nil => exact le_rfl
  | cons new offers ih =>
    calc rank held ≤ rank (offer rank held new) := by
          rw [rank_offer rank]
          exact le_max_left _ _
      _ ≤ rank (offerAll rank held (new :: offers)) := ih _

theorem rank_mem_le_offerAll {held new : σ} {offers : List σ} (h : new ∈ offers) :
    rank new ≤ rank (offerAll rank held offers) := by
  induction offers generalizing held with
  | nil => cases h
  | cons first offers ih =>
    rcases List.mem_cons.mp h with rfl | h
    · calc rank new ≤ rank (offer rank held new) := by
            rw [rank_offer rank]
            exact le_max_right _ _
        _ ≤ rank (offerAll rank held (new :: offers)) := rank_le_offerAll rank _ _
    · exact ih h

/-- Nothing but what was held or offered is held, and an offer only if it was greater. -/
theorem offerAll_eq_or_mem (held : σ) (offers : List σ) :
    offerAll rank held offers = held ∨
      (offerAll rank held offers ∈ offers ∧ rank held < rank (offerAll rank held offers)) := by
  induction offers generalizing held with
  | nil => exact .inl rfl
  | cons new offers ih =>
    rw [offerAll_cons]
    by_cases h : rank held < rank new
    · have hnew : offer rank held new = new := if_pos h
      rw [hnew]
      refine .inr ⟨?_, h.trans_le (rank_le_offerAll rank new offers)⟩
      rcases ih new with heq | ⟨hmem, -⟩
      · rw [heq]
        exact List.mem_cons_self
      · exact List.mem_cons_of_mem new hmem
    · rw [offer_of_le rank (not_lt.mp h)]
      exact (ih held).imp_right fun hmem => ⟨List.mem_cons_of_mem new hmem.1, hmem.2⟩

/-- What is held depends only on which offers were made. -/
theorem offerAll_eq_of_mem_iff {held : σ} {offers offers' : List σ}
    (hunique : ∀ a ∈ offers, ∀ b ∈ offers, rank a = rank b → a = b)
    (hsame : ∀ a, a ∈ offers ↔ a ∈ offers') :
    offerAll rank held offers = offerAll rank held offers' := by
  have hle : ∀ a, a = held ∨ a ∈ offers → rank a ≤ rank (offerAll rank held offers') := by
    rintro a (rfl | ha)
    · exact rank_le_offerAll rank a offers'
    · exact rank_mem_le_offerAll rank ((hsame a).mp ha)
  rcases offerAll_eq_or_mem rank held offers with heq | ⟨hmem, hlt⟩
  · rcases offerAll_eq_or_mem rank held offers' with heq' | ⟨hmem', hlt'⟩
    · rw [heq, heq']
    · -- The offer that replaced `held` in one order is greater than `held` in the other.
      have hge : rank (offerAll rank held offers') ≤ rank (offerAll rank held offers) :=
        rank_mem_le_offerAll rank ((hsame _).mpr hmem')
      rw [heq] at hge
      exact absurd hlt' (not_lt.mpr hge)
  · have hge := hle _ (.inr hmem)
    rcases offerAll_eq_or_mem rank held offers' with heq' | ⟨hmem', -⟩
    · rw [heq'] at hge
      exact absurd hlt (not_lt.mpr hge)
    · have hge' : rank (offerAll rank held offers') ≤ rank (offerAll rank held offers) :=
        rank_mem_le_offerAll rank ((hsame _).mpr hmem')
      exact hunique _ hmem _ ((hsame _).mpr hmem') (le_antisymm hge hge')

end SdkInternal.Shared.Latest
