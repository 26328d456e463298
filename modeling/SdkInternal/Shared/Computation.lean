/-! # Computations that may fail

When a computation that is put together from others succeeds. -/

namespace SdkInternal.Shared

section Except

variable {ε α β : Type}

variable {m : Except ε α} {a : α}

theorem bind_eq_ok_iff {f : α → Except ε β} {b : β} :
    (m >>= f) = .ok b ↔ ∃ a, m = .ok a ∧ f a = .ok b := by
  cases m <;> simp [Bind.bind, Except.bind]

theorem map_eq_ok_iff {f : α → β} {b : β} : f <$> m = .ok b ↔ ∃ a, m = .ok a ∧ f a = b := by
  cases m <;> simp [Functor.map, Except.map]

theorem pure_eq_ok_iff {b : α} : (pure a : Except ε α) = .ok b ↔ a = b := by
  simp [pure, Except.pure]

theorem toOption_eq_some_iff : m.toOption = some a ↔ m = .ok a := by
  cases m <;> simp [Except.toOption]

section MapError

variable {δ : Type} {f : ε → δ}

theorem mapError_ok : (.ok a : Except ε α).mapError f = .ok a := rfl

theorem mapError_error {e : ε} : (.error e : Except ε α).mapError f = .error (f e) := rfl

theorem mapError_eq_ok_iff : m.mapError f = .ok a ↔ m = .ok a := by
  cases m <;> simp [mapError_ok, mapError_error]

end MapError

/-- Fails unless the condition holds. -/
def ensure (p : Prop) [Decidable p] (error : ε) : Except ε Unit :=
  if p then .ok () else .error error

theorem ensure_eq_ok_iff {p : Prop} [Decidable p] {error : ε} {u : Unit} :
    ensure p error = .ok u ↔ p := by
  unfold ensure
  split <;> simp [*]

end Except

/-! ## With a state -/

section

variable {σ ε α β : Type} {s s' : σ}

variable {m : StateT σ (Except ε) α} {f : α → StateT σ (Except ε) β} {b : β}

theorem run_bind_eq_ok_iff :
    (m >>= f) s = .ok (b, s') ↔ ∃ a mid, m s = .ok (a, mid) ∧ f a mid = .ok (b, s') := by
  have hrun : (m >>= f) s = (m s >>= fun p => f p.1 p.2) := rfl
  rw [hrun, bind_eq_ok_iff]
  simp

theorem run_map_eq_ok_iff {f : α → β} :
    (f <$> m) s = .ok (b, s') ↔ ∃ a, m s = .ok (a, s') ∧ f a = b := by
  have hrun : (f <$> m) s = (m s >>= fun p => .ok (f p.1, p.2)) := rfl
  rw [hrun, bind_eq_ok_iff]
  constructor
  · rintro ⟨⟨a, mid⟩, hm, h⟩
    cases h
    exact ⟨a, hm, rfl⟩
  · rintro ⟨a, hm, rfl⟩
    exact ⟨(a, s'), hm, rfl⟩

theorem run_seq_eq_ok_iff {f : StateT σ (Except ε) (α → β)} :
    (f <*> m) s = .ok (b, s') ↔ ∃ g mid a, f s = .ok (g, mid) ∧ m mid = .ok (a, s') ∧ g a = b := by
  have hrun : (f <*> m) s = (f >>= fun g => g <$> m) s := rfl
  rw [hrun, run_bind_eq_ok_iff]
  simp only [run_map_eq_ok_iff]
  constructor
  · rintro ⟨g, mid, hf, a, hm, hb⟩
    exact ⟨g, mid, a, hf, hm, hb⟩
  · rintro ⟨g, mid, a, hf, hm, hb⟩
    exact ⟨g, mid, hf, a, hm, hb⟩

theorem run_pure_eq_ok_iff {a b : α} :
    (pure a : StateT σ (Except ε) α) s = .ok (b, s') ↔ a = b ∧ s = s' := by
  have hrun : (pure a : StateT σ (Except ε) α) s = .ok (a, s) := rfl
  rw [hrun]
  simp

theorem run_lift_eq_ok_iff {m : Except ε α} {b : α} :
    (liftM m : StateT σ (Except ε) α) s = .ok (b, s') ↔ m = .ok b ∧ s = s' := by
  have hrun : (liftM m : StateT σ (Except ε) α) s = (m >>= fun a => .ok (a, s)) := rfl
  rw [hrun, bind_eq_ok_iff]
  constructor
  · rintro ⟨a, hm, h⟩
    cases h
    exact ⟨hm, rfl⟩
  · rintro ⟨hm, rfl⟩
    exact ⟨b, hm, rfl⟩

def translateError {δ : Type} (f : ε → δ) (m : StateT σ (Except ε) α) : StateT σ (Except δ) α :=
  fun s => (m s).mapError f

theorem run_translateError_eq_ok_iff {δ : Type} {f : ε → δ} {a : α} :
    translateError f m s = .ok (a, s') ↔ m s = .ok (a, s') :=
  mapError_eq_ok_iff

def Succeeds (m : StateT σ (Except ε) α) : Prop :=
  ∀ s, ∃ a s', m s = .ok (a, s')

theorem succeeds_pure (a : α) : Succeeds (pure a : StateT σ (Except ε) α) :=
  fun s => ⟨a, s, rfl⟩

theorem Succeeds.bind_of_run (hm : Succeeds m) (hf : ∀ s a s', m s = .ok (a, s') → Succeeds (f a)) :
    Succeeds (m >>= f) := by
  intro s
  obtain ⟨a, mid, ha⟩ := hm s
  obtain ⟨b, s', hb⟩ := hf s a mid ha mid
  exact ⟨b, s', run_bind_eq_ok_iff.mpr ⟨a, mid, ha, hb⟩⟩

theorem succeeds_lift {m : Except ε α} (h : ∃ a, m = .ok a) :
    Succeeds (liftM m : StateT σ (Except ε) α) := by
  obtain ⟨a, rfl⟩ := h
  exact succeeds_pure a

theorem Succeeds.translateError {δ : Type} (hm : Succeeds m) (f : ε → δ) :
    Succeeds (Shared.translateError f m) := by
  intro s
  obtain ⟨a, s', ha⟩ := hm s
  exact ⟨a, s', run_translateError_eq_ok_iff.mpr ha⟩

theorem Succeeds.bind (hm : Succeeds m) (hf : ∀ a, Succeeds (f a)) : Succeeds (m >>= f) :=
  hm.bind_of_run fun _ a _ _ => hf a

end

end SdkInternal.Shared
