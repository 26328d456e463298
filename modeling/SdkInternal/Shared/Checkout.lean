import Mathlib.Data.List.Nodup

/-! # Counters checked out of a store

Every place of a store may hold a key with a counter. One holder at a time checks a copy
out, counts it up for each use of the key, and puts it back. Meanwhile anybody may issue a
new key to a place or clear it, also the place the copy came from.

No pair of a key and a count is used twice, as long as every issued key is new. A key that
was replaced while nobody held a copy of its place never comes back. -/

namespace SdkInternal.Shared

open List Function Prod

variable {ι κ : Type*}

/-- A copy that is checked out of `place`: `drawn` once its key has been used, and `doomed`
once its place is to be cleared instead of getting it back. -/
structure Holding (ι κ : Type*) where
  place : ι
  key : κ
  count : ℕ
  drawn : Bool
  doomed : Bool

/-- The store, the copy that is out, the keys issued so far and the pairs used so far. -/
@[ext]
structure Checkout (ι κ : Type*) where
  stored : ι → Option (κ × ℕ)
  held : Option (Holding ι κ)
  issued : List (ι × κ)
  used : List (κ × ℕ)

namespace Checkout

def Fresh (c : Checkout ι κ) : Prop := (c.issued.map snd).Nodup

variable {c c' : Checkout ι κ} {p place : ι} {key : κ} {count : ℕ} {out : Holding ι κ}
  {entry : Option (κ × ℕ)}

theorem Fresh.place_unique (h : c.Fresh) {q : ι} (hp : (p, key) ∈ c.issued)
    (hq : (q, key) ∈ c.issued) : p = q := by
  have hinj := inj_on_of_nodup_map h hp hq rfl
  exact congrArg fst hinj

theorem Fresh.not_mem_issued (h : ((c.issued ++ [(place, key)]).map snd).Nodup) :
    key ∉ c.issued.map snd := by
  rw [map_append, nodup_append] at h
  intro hmem
  exact h.2.2 key hmem key (by simp) rfl

/-! ## No pair is used twice -/

/-- Every key in sight was issued, and no copy of a key lags behind its uses, except that
the store may lag behind the copy that is out. -/
structure Sound (c : Checkout ι κ) : Prop where
  stored_issued : ∀ p key count, c.stored p = some (key, count) → (p, key) ∈ c.issued
  held_issued : ∀ h, c.held = some h → (h.place, h.key) ∈ c.issued
  used_issued : ∀ u ∈ c.used, u.1 ∈ c.issued.map snd
  stored_bound : ∀ p key count, c.stored p = some (key, count) → ∀ n, (key, n) ∈ c.used →
    n ≤ count ∨ ∃ h, c.held = some h ∧ h.place = p ∧ h.key = key ∧ h.drawn = true
  held_bound : ∀ h, c.held = some h → ∀ n, (h.key, n) ∈ c.used → n ≤ h.count
  used_nodup : c.used.Nodup

theorem Sound.take (h : c.Sound) (hheld : c.held = none)
    (hstored : c.stored place = some (key, count)) :
    Sound { c with held := some ⟨place, key, count, false, false⟩ } := by
  have hbound : ∀ n, (key, n) ∈ c.used → n ≤ count := by
    intro n hn
    rcases h.stored_bound place key count hstored n hn with hle | ⟨h', hheld', -⟩
    · exact hle
    · rw [hheld] at hheld'
      cases hheld'
  refine { h with held_issued := ?_, stored_bound := ?_, held_bound := ?_ }
  · rintro _ ⟨⟩
    exact h.stored_issued place key count hstored
  · intro p key' count' hp n hn
    rcases h.stored_bound p key' count' hp n hn with hle | ⟨h', hheld', -⟩
    · exact .inl hle
    · rw [hheld] at hheld'
      cases hheld'
  · rintro _ ⟨⟩ n hn
    exact hbound n hn

theorem Sound.draw (h : c.Sound) (hfresh : c.Fresh) (hheld : c.held = some out) :
    Sound { c with
      held := some { out with count := out.count + 1, drawn := true }
      used := c.used ++ [(out.key, out.count + 1)] } := by
  have hissued := h.held_issued out hheld
  refine ⟨h.stored_issued, ?_, ?_, ?_, ?_, ?_⟩
  · rintro _ ⟨⟩
    exact hissued
  · intro u hu
    rcases mem_append.mp hu with hu | hu
    · exact h.used_issued u hu
    · rw [mem_singleton.mp hu]
      exact mem_map_of_mem hissued
  · intro p key count hp n hn
    rcases mem_append.mp hn with hn | hn
    · rcases h.stored_bound p key count hp n hn with hle | ⟨h', hheld', hplace, hkey, -⟩
      · exact .inl hle
      · rw [hheld] at hheld'
        cases hheld'
        exact .inr ⟨_, rfl, hplace, hkey, rfl⟩
    · -- The store lags behind the copy, which came from this very place.
      obtain ⟨rfl, -⟩ := Prod.mk.inj (mem_singleton.mp hn)
      have hplace := hfresh.place_unique hissued (h.stored_issued p _ count hp)
      exact .inr ⟨_, rfl, hplace, rfl, rfl⟩
  · rintro _ ⟨⟩ n hn
    rcases mem_append.mp hn with hn | hn
    · exact Nat.le_succ_of_le (h.held_bound out hheld n hn)
    · exact Nat.le_of_eq (Prod.mk.inj (mem_singleton.mp hn)).2
  · apply nodup_append.mpr
    refine ⟨h.used_nodup, nodup_singleton _, ?_⟩
    rintro u hu v hv rfl
    rw [mem_singleton.mp hv] at hu
    have hle := h.held_bound out hheld _ hu
    omega

theorem Sound.doom (h : c.Sound) (hheld : c.held = some out) :
    Sound { c with held := some { out with doomed := true } } := by
  refine { h with held_issued := ?_, stored_bound := ?_, held_bound := ?_ }
  · rintro _ ⟨⟩
    exact h.held_issued out hheld
  · intro p key count hp n hn
    rcases h.stored_bound p key count hp n hn with hle | ⟨h', hheld', hplace, hkey, hdrawn⟩
    · exact .inl hle
    · rw [hheld] at hheld'
      cases hheld'
      exact .inr ⟨_, rfl, hplace, hkey, hdrawn⟩
  · rintro _ ⟨⟩ n hn
    exact h.held_bound out hheld n hn

theorem Sound.drop (h : c.Sound) (hheld : c.held = some out) (hdrawn : out.drawn = false) :
    Sound { c with held := none } := by
  refine { h with held_issued := by simp, stored_bound := ?_, held_bound := by simp }
  intro p key count hp n hn
  rcases h.stored_bound p key count hp n hn with hle | ⟨h', hheld', -, -, hdrawn'⟩
  · exact .inl hle
  · rw [hheld] at hheld'
    cases hheld'
    rw [hdrawn] at hdrawn'
    cases hdrawn'

variable [DecidableEq ι]

theorem update_eq_some {f : ι → Option (κ × ℕ)} {x : κ × ℕ}
    (h : update f place entry p = some x) :
    p = place ∧ entry = some x ∨ p ≠ place ∧ f p = some x := by
  by_cases hplace : p = place
  · rw [hplace, update_self] at h
    exact .inl ⟨hplace, h⟩
  · rw [update_of_ne hplace] at h
    exact .inr ⟨hplace, h⟩

/-- The copy leaves, and its place holds it or nothing. -/
theorem Sound.putBack (h : c.Sound) (hheld : c.held = some out)
    (hentry : entry = some (out.key, out.count) ∨ entry = none) :
    Sound { c with held := none, stored := update c.stored out.place entry } := by
  have hstored : ∀ p key count, update c.stored out.place entry p = some (key, count) →
      p = out.place ∧ key = out.key ∧ count = out.count ∨
        p ≠ out.place ∧ c.stored p = some (key, count) := by
    intro p key count hp
    rcases update_eq_some hp with ⟨hplace, hnew⟩ | hold
    · rcases hentry with rfl | rfl
      · cases hnew
        exact .inl ⟨hplace, rfl, rfl⟩
      · cases hnew
    · exact .inr hold
  refine ⟨?_, by simp, h.used_issued, ?_, by simp, h.used_nodup⟩
  · intro p key count hp
    rcases hstored p key count hp with ⟨rfl, rfl, rfl⟩ | ⟨-, hp⟩
    · exact h.held_issued out hheld
    · exact h.stored_issued p key count hp
  · intro p key count hp n hn
    rcases hstored p key count hp with ⟨rfl, rfl, rfl⟩ | ⟨hne, hp⟩
    · exact .inl (h.held_bound out hheld n hn)
    · rcases h.stored_bound p key count hp n hn with hle | ⟨h', hheld', hplace, -⟩
      · exact .inl hle
      · rw [hheld] at hheld'
        cases hheld'
        exact absurd hplace.symm hne

theorem Sound.issue (h : c.Sound) (hnew : key ∉ c.issued.map snd) :
    Sound { c with
      stored := update c.stored place (some (key, count))
      issued := c.issued ++ [(place, key)] } := by
  refine ⟨?_, ?_, ?_, ?_, h.held_bound, h.used_nodup⟩
  · intro p key' count hp
    rcases update_eq_some hp with ⟨rfl, hentry⟩ | ⟨-, hp⟩
    · cases hentry
      simp
    · exact mem_append_left _ (h.stored_issued p key' count hp)
  · intro out hheld
    exact mem_append_left _ (h.held_issued out hheld)
  · intro u hu
    rw [map_append]
    exact mem_append_left _ (h.used_issued u hu)
  · intro p key' count hp n hn
    rcases update_eq_some hp with ⟨rfl, hentry⟩ | ⟨-, hp⟩
    · cases hentry
      exact absurd (h.used_issued _ hn) hnew
    · exact h.stored_bound p key' count hp n hn

theorem Sound.clear (h : c.Sound) (place : ι) :
    Sound { c with stored := update c.stored place none } := by
  have hstored : ∀ p key count, update c.stored place none p = some (key, count) →
      c.stored p = some (key, count) := by
    intro p key count hp
    rcases update_eq_some hp with ⟨-, hentry⟩ | ⟨-, hp⟩
    · cases hentry
    · exact hp
  exact { h with
    stored_issued := fun p key count hp => h.stored_issued p key count (hstored p key count hp)
    stored_bound := fun p key count hp => h.stored_bound p key count (hstored p key count hp) }

/-! ## Steps -/

/-- One step. A copy whose key was used cannot merely be dropped: it is put back, or its
place is cleared with it. -/
inductive Step : Checkout ι κ → Checkout ι κ → Prop where
  | rest (c : Checkout ι κ) : Step c c
  | take {c : Checkout ι κ} {place : ι} {key : κ} {count : ℕ} (hheld : c.held = none)
      (hstored : c.stored place = some (key, count)) :
      Step c { c with held := some ⟨place, key, count, false, false⟩ }
  | draw {c : Checkout ι κ} {h} (hheld : c.held = some h) :
      Step c { c with
        held := some { h with count := h.count + 1, drawn := true }
        used := c.used ++ [(h.key, h.count + 1)] }
  | doom {c : Checkout ι κ} {h} (hheld : c.held = some h) :
      Step c { c with held := some { h with doomed := true } }
  | put {c : Checkout ι κ} {h} (hheld : c.held = some h) (hdoomed : h.doomed = false) :
      Step c { c with
        held := none
        stored := Function.update c.stored h.place (some (h.key, h.count)) }
  | drop {c : Checkout ι κ} {h} (hheld : c.held = some h) (hdrawn : h.drawn = false) :
      Step c { c with held := none }
  | discard {c : Checkout ι κ} {h} (hheld : c.held = some h) :
      Step c { c with held := none, stored := Function.update c.stored h.place none }
  | issue {c : Checkout ι κ} (place : ι) (key : κ) (count : ℕ) :
      Step c { c with
        stored := Function.update c.stored place (some (key, count))
        issued := c.issued ++ [(place, key)] }
  | clear {c : Checkout ι κ} (place : ι) :
      Step c { c with stored := Function.update c.stored place none }

theorem Step.issued_sublist (h : Step c c') : c.issued.Sublist c'.issued := by
  cases h with
  | issue place key count => exact sublist_append_left _ _
  | _ => exact List.Sublist.refl _

theorem Step.fresh (h : Step c c') (hfresh : c'.Fresh) : c.Fresh :=
  hfresh.sublist (h.issued_sublist.map _)

theorem Sound.step (h : c.Sound) (hstep : Step c c') (hfresh : c'.Fresh) : c'.Sound := by
  have hbefore := hstep.fresh hfresh
  cases hstep with
  | rest => exact h
  | take hheld hstored => exact h.take hheld hstored
  | draw hheld => exact h.draw hbefore hheld
  | doom hheld => exact h.doom hheld
  | put hheld hdoomed => exact h.putBack hheld (.inl rfl)
  | drop hheld hdrawn => exact h.drop hheld hdrawn
  | discard hheld => exact h.putBack hheld (.inr rfl)
  | issue place key count => exact h.issue (Fresh.not_mem_issued hfresh)
  | clear place => exact h.clear place

/-! ## Replaced keys do not come back -/

/-- None of the keys `old` is stored at `place` or can be put back there. -/
structure Renewed (place : ι) (old : List κ) (c : Checkout ι κ) : Prop where
  stored : ∀ key count, c.stored place = some (key, count) → key ∉ old
  held : ∀ h, c.held = some h → h.doomed = false → h.place = place → h.key ∉ old
  old_issued : ∀ key ∈ old, key ∈ c.issued.map snd

section

variable (hfree : ∀ h, c.held = some h → h.doomed = false → h.place ≠ place)

include hfree

end

theorem Renewed.update {old : List κ} (h : Renewed place old c)
    (hentry : p = place → ∀ key count, entry = some (key, count) → key ∉ old)
    (hp : update c.stored p entry place = some (key, count)) :
    key ∉ old := by
  rcases update_eq_some hp with ⟨hplace, hp⟩ | ⟨-, hp⟩
  · exact hentry hplace.symm key count hp
  · exact h.stored key count hp

theorem Renewed.step {old : List κ} (h : Renewed place old c) (hstep : Step c c')
    (hfresh : c'.Fresh) :
    Renewed place old c' := by
  cases hstep with
  | rest => exact h
  | take hheld hstored =>
    refine { h with held := ?_ }
    rintro _ ⟨⟩ - rfl
    exact h.stored _ _ hstored
  | @draw out hheld =>
    refine { h with held := ?_ }
    rintro _ ⟨⟩ hdoomed hplace
    exact h.held out hheld hdoomed hplace
  | doom hheld =>
    refine { h with held := ?_ }
    rintro _ ⟨⟩ hdoomed
    cases hdoomed
  | put hheld hdoomed =>
    refine ⟨fun key count => h.update ?_, by simp, h.old_issued⟩
    rintro hplace key count ⟨⟩
    exact h.held _ hheld hdoomed hplace
  | drop hheld hdrawn => exact { h with held := by simp }
  | discard hheld =>
    exact ⟨fun key count => h.update (fun _ _ _ hentry => by cases hentry), by simp,
      h.old_issued⟩
  | issue p key count =>
    have hnew := Fresh.not_mem_issued hfresh
    refine ⟨fun key' count => h.update ?_, h.held, ?_⟩
    · rintro - _ _ ⟨⟩ hold
      exact hnew (h.old_issued key hold)
    · intro key' hkey
      rw [map_append]
      exact mem_append_left _ (h.old_issued key' hkey)
  | clear p =>
    exact ⟨fun key count => h.update (fun _ _ _ hentry => by cases hentry), h.held,
      h.old_issued⟩

end Checkout

end SdkInternal.Shared
