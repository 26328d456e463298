import Mathlib.Data.Set.Insert
import Mathlib.Data.List.Basic

/-! # Handshakes between two parties, one at a time

A party opens a handshake with a start message. The other party answers the message and
both derive their end of a pair of keys. Each party holds keys from earlier handshakes
and may lose them at any time. As long as a party opens a handshake only while no other
one is open, and forgets its old keys before it saves those of an answer, whatever the two
parties hold belongs together. -/

namespace SdkInternal.Shared

open List Set

/-- The messages of a handshake and the keys its two sides derive. -/
structure Scheme (ι μ ν κ : Type*) where
  write : ι → μ
  Answers : μ → ν → κ → Prop
  Reads : ι → ν → κ → Prop
  Pairs : κ → κ → Prop
  pairs_symm : ∀ k l, Pairs k l → Pairs l k
  pairs_of_reads : ∀ i finish k l, Answers (write i) finish l → Reads i finish k → Pairs k l

/-- What matters of one party. The messages are those of its own handshakes: the start
messages that the other party has not taken, and the answers to come. -/
structure Party (ι μ ν κ : Type*) where
  /-- Keys that it stores, or has a copy of. -/
  holds : Set κ
  /-- Keys of a completed handshake, still to be stored. -/
  saving : Set κ
  /-- Handshakes that wait for their answer. -/
  waiting : Set ι
  starts : List μ
  finishes : List ν
  /-- Keys of the other party's handshake, answered and not yet stored. -/
  answer : Option κ

namespace Party

variable {ι μ ν κ : Type*} (p : Party ι μ ν κ)

/-- The keys that the other party's have to belong to. -/
def counterpart : Set κ :=
  match p.answer with
  | some k => {k}
  | none => p.holds

/-- The party loses keys, handshakes or answers, or stores what it was about to. -/
structure Shrinks (p p' : Party ι μ ν κ) : Prop where
  holds : p'.holds ⊆ p.holds ∪ p.saving
  saving : p'.saving ⊆ p.saving
  waiting : p'.waiting ⊆ p.waiting
  starts : p'.starts = p.starts
  finishes : p'.finishes ⊆ p.finishes
  answer : p'.answer = p.answer

theorem Shrinks.refl : p.Shrinks p :=
  ⟨subset_union_left, subset_rfl, subset_rfl, rfl, List.Subset.refl _, rfl⟩

/-! ## The invariant -/

/-- The party `q` has no handshake open, in whatever stage. -/
structure Quiet (p q : Party ι μ ν κ) : Prop where
  waiting : q.waiting = ∅
  saving : q.saving = ∅
  starts : q.starts = []
  answer : p.answer = none

theorem Quiet.mono {p q p' q' : Party ι μ ν κ} (h : Quiet p q)
    (hwaiting : q'.waiting ⊆ q.waiting) (hsaving : q'.saving ⊆ q.saving)
    (hstarts : q'.starts = q.starts) (hanswer : p'.answer = p.answer) : Quiet p' q' where
  waiting := subset_eq_empty hwaiting h.waiting
  saving := subset_eq_empty hsaving h.saving
  starts := hstarts.trans h.starts
  answer := hanswer.trans h.answer

variable (scheme : Scheme ι μ ν κ)

/-- Only `p` may have a handshake open. While its start message is on the way it holds
nothing and no answer is on the way. Afterwards all its keys belong to those of `q`. -/
structure Oriented (p q : Party ι μ ν κ) : Prop extends
    Quiet p q where
  pending : ∀ start rest, p.starts = start :: rest → rest = [] ∧ q.answer = none ∧
    p.holds = ∅ ∧ p.saving = ∅ ∧ (∀ i ∈ p.waiting, start = scheme.write i) ∧ p.finishes = []
  held : p.starts = [] → ∀ k ∈ p.holds ∪ p.saving, ∀ l ∈ q.counterpart, scheme.Pairs k l
  read : p.starts = [] → ∀ i ∈ p.waiting, ∀ finish ∈ p.finishes, ∀ k,
    scheme.Reads i finish k → ∀ l ∈ q.counterpart, scheme.Pairs k l

def Agreeing (p q : Party ι μ ν κ) : Prop :=
  Oriented scheme p q ∨ Oriented scheme q p

variable {scheme : Scheme ι μ ν κ} {p q p' q' : Party ι μ ν κ}

theorem Agreeing.symm (h : Agreeing scheme p q) : Agreeing scheme q p := Or.symm h

/-- If no handshake is on the way, the keys of the two parties belong together. -/
theorem Agreeing.pairs (h : Agreeing scheme p q) (hp : p.starts = []) (hq : q.starts = [])
    (hpa : p.answer = none) (hqa : q.answer = none) {k l : κ} (hk : k ∈ p.holds)
    (hl : l ∈ q.holds) : scheme.Pairs k l := by
  rcases h with h | h
  · apply h.held hp k (.inl hk) l
    rw [counterpart, hqa]
    exact hl
  · apply scheme.pairs_symm
    apply h.held hq l (.inl hl) k
    rw [counterpart, hpa]
    exact hk

/-! ## Steps -/

theorem Oriented.counterpart_subset (h : Oriented scheme p q) (hq : q.Shrinks q') :
    q'.counterpart ⊆ q.counterpart := by
  have hholds : q'.holds ⊆ q.holds := by
    have hsubset := hq.holds
    rwa [h.saving, union_empty] at hsubset
  unfold counterpart
  rw [hq.answer]
  cases q.answer with
  | some k => exact subset_rfl
  | none => exact hholds

theorem Oriented.shrink (h : Oriented scheme p q) (hp : p.Shrinks p') (hq : q.Shrinks q') :
    Oriented scheme p' q' := by
  refine ⟨h.toQuiet.mono hq.waiting hq.saving hq.starts hp.answer, ?_, ?_, ?_⟩
  · intro start rest hstarts
    rw [hp.starts] at hstarts
    obtain ⟨hrest, hanswer, hholds, hsaving, hwaiting, hfinishes⟩ :=
      h.pending start rest hstarts
    refine ⟨hrest, hq.answer.trans hanswer, ?_, ?_, ?_, ?_⟩
    · exact subset_eq_empty hp.holds (by rw [hholds, hsaving, union_empty])
    · exact subset_eq_empty hp.saving hsaving
    · exact fun i hi => hwaiting i (hp.waiting hi)
    · exact subset_nil.mp (hfinishes ▸ hp.finishes)
  · intro hstarts k hk l hl
    rw [hp.starts] at hstarts
    apply h.held hstarts k _ l (h.counterpart_subset hq hl)
    rcases hk with hk | hk
    · exact hp.holds hk
    · exact .inr (hp.saving hk)
  · intro hstarts i hi finish hfinish k hread l hl
    rw [hp.starts] at hstarts
    exact h.read hstarts i (hp.waiting hi) finish (hp.finishes hfinish) k hread l
      (h.counterpart_subset hq hl)

theorem Agreeing.shrink (h : Agreeing scheme p q) (hp : p.Shrinks p') (hq : q.Shrinks q') :
    Agreeing scheme p' q' := by
  rcases h with h | h
  · exact .inl (h.shrink hp hq)
  · exact .inr (h.shrink hq hp)

/-- A party without keys opens a handshake while no other one is open. -/
theorem agreeing_of_opened {i : ι} (hstarts : p.starts.Sublist [scheme.write i])
    (hholds : p.holds = ∅) (hsaving : p.saving = ∅) (hwaiting : p.waiting ⊆ {i})
    (hfinishes : p.finishes = []) (hquiet : Quiet p q) (hanswer : q.answer = none) :
    Agreeing scheme p q := by
  refine .inl ⟨hquiet, ?_, ?_, ?_⟩
  · intro start rest hpending
    rw [hpending] at hstarts
    have hstart : start = scheme.write i := by
      have hmem := hstarts.subset (mem_cons_self)
      simpa using hmem
    have hrest : rest = [] := by
      have hlength := hstarts.length_le
      simp only [length_cons, length_nil] at hlength
      exact length_eq_zero_iff.mp (by omega)
    refine ⟨hrest, hanswer, hholds, hsaving, ?_, hfinishes⟩
    intro j hj
    rw [hstart, hwaiting hj]
  · intro _ k hk
    rw [hholds, hsaving, union_empty] at hk
    exact absurd hk (notMem_empty k)
  · intro _ j _ finish hfinish
    rw [hfinishes] at hfinish
    exact absurd hfinish not_mem_nil

section

variable (h : Agreeing scheme p q)

include h

/-- A party `q` takes the start message of `p` and may answer it. -/
theorem Agreeing.taken {start : μ} {rest : List μ} (hstart : p.starts = start :: rest)
    (hholds : p'.holds ⊆ p.holds) (hsaving : p'.saving ⊆ p.saving)
    (hwaiting : p'.waiting ⊆ p.waiting) (hstarts : p'.starts = rest)
    (hfinishes : ∀ finish ∈ p'.finishes, finish ∈ p.finishes ∨
      ∃ l, scheme.Answers start finish l ∧ q'.answer = some l) (hanswer : p'.answer = p.answer)
    (hqsaving : q'.saving ⊆ q.saving) (hqwaiting : q'.waiting ⊆ q.waiting)
    (hqstarts : q'.starts = q.starts) : Agreeing scheme p' q' := by
  rcases h with h | h
  · obtain ⟨hrest, -, hnone, hnosaving, hwrite, hnofinish⟩ := h.pending start rest hstart
    subst hrest
    refine .inl ⟨h.toQuiet.mono hqwaiting hqsaving hqstarts hanswer, ?_, ?_, ?_⟩
    · intro start rest hpending
      rw [hstarts] at hpending
      cases hpending
    · intro _ k hk
      have hempty : k ∈ p.holds ∪ p.saving := union_subset_union hholds hsaving hk
      rw [hnone, hnosaving, union_empty] at hempty
      exact absurd hempty (notMem_empty k)
    · intro _ i hi finish hfinish k hread l' hl
      rcases hfinishes finish hfinish with hold | ⟨l, hanswers, hqanswer⟩
      · rw [hnofinish] at hold
        exact absurd hold not_mem_nil
      · rw [counterpart, hqanswer] at hl
        rw [hwrite i (hwaiting hi)] at hanswers
        exact scheme.pairs_of_reads i finish k l' (hl ▸ hanswers) hread
  · rw [h.starts] at hstart
    cases hstart

/-- A party reads an answer and derives its keys. -/
theorem Agreeing.completed {i : ι} {finish : ν} {k : κ} (hi : i ∈ p.waiting)
    (hfinish : finish ∈ p.finishes) (hread : scheme.Reads i finish k)
    (hholds : p'.holds ⊆ p.holds) (hsaving : p'.saving ⊆ insert k p.saving)
    (hwaiting : p'.waiting ⊆ p.waiting) (hstarts : p'.starts = p.starts)
    (hfinishes : p'.finishes ⊆ p.finishes) (hanswer : p'.answer = p.answer) (hq : q.Shrinks q') :
    Agreeing scheme p' q' := by
  rcases h with h | h
  · have hstart : p.starts = [] := by
      cases hpending : p.starts with
      | nil => rfl
      | cons start rest =>
        obtain ⟨-, -, -, -, -, hnofinish⟩ := h.pending start rest hpending
        rw [hnofinish] at hfinish
        exact absurd hfinish not_mem_nil
    refine .inl ⟨h.toQuiet.mono hq.waiting hq.saving hq.starts hanswer, ?_, ?_, ?_⟩
    · intro start rest hpending
      rw [hstarts, hstart] at hpending
      cases hpending
    · intro _ k' hk' l hl
      have hl' := h.counterpart_subset hq hl
      rcases hk' with hk' | hk'
      · exact h.held hstart k' (.inl (hholds hk')) l hl'
      · rcases hsaving hk' with rfl | hk'
        · exact h.read hstart i hi finish hfinish k' hread l hl'
        · exact h.held hstart k' (.inr hk') l hl'
    · intro _ j hj finish' hfinish' k' hread' l hl
      exact h.read hstart j (hwaiting hj) finish' (hfinishes hfinish') k' hread' l
        (h.counterpart_subset hq hl)
  · rw [h.waiting] at hi
    exact absurd hi (notMem_empty i)

theorem Agreeing.stored {l : κ} (hl : q.answer = some l) (hp : p.Shrinks p')
    (hqholds : q'.holds ⊆ {l} ∪ q.saving) (hqsaving : q'.saving ⊆ q.saving)
    (hqwaiting : q'.waiting ⊆ q.waiting) (hqstarts : q'.starts = q.starts)
    (hqanswer : q'.answer = none) : Agreeing scheme p' q' := by
  rcases h with h | h
  · have hstart : p.starts = [] := by
      cases hpending : p.starts with
      | nil => rfl
      | cons start rest =>
        obtain ⟨-, hnone, -⟩ := h.pending start rest hpending
        rw [hl] at hnone
        cases hnone
    have hcounterpart : q'.counterpart ⊆ q.counterpart := by
      rw [h.saving, union_empty] at hqholds
      rw [counterpart, counterpart, hqanswer, hl]
      exact hqholds
    refine .inl ⟨h.toQuiet.mono hqwaiting hqsaving hqstarts hp.answer, ?_, ?_, ?_⟩
    · intro start rest hpending
      rw [hp.starts, hstart] at hpending
      cases hpending
    · intro _ k hk l' hl'
      apply h.held hstart k _ l' (hcounterpart hl')
      rcases hk with hk | hk
      · exact hp.holds hk
      · exact .inr (hp.saving hk)
    · intro _ i hi finish hfinish k hread l' hl'
      exact h.read hstart i (hp.waiting hi) finish (hp.finishes hfinish) k hread l'
        (hcounterpart hl')
  · rw [h.answer] at hl
    cases hl

end

end Party

end SdkInternal.Shared
