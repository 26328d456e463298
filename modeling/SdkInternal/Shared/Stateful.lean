import SdkInternal.Shared.Computation

/-! # Computations whose changes outlive a failure

A computation over a state may fail, and what it changed before stays changed. Postconditions speak
about the result and the state in both cases. -/

namespace SdkInternal.Shared

/-- A computation ends early with an error of its own, or panics. -/
inductive Stop (ε : Type) where
  | failed (error : ε)
  | panicked

/-- A computation over a state that is kept when the computation fails. -/
abbrev Stateful (σ ε α : Type) := ExceptT ε (StateM σ) α

namespace Stateful

variable {σ ε δ ρ α β : Type}

def ofExcept (result : Except ε α) : Stateful σ ε α := fun s => (result, s)

def require (error : ε) (value : Option α) : Stateful σ ε α :=
  match value with
  | some a => pure a
  | none => throw error

def mapError (f : ε → δ) (m : Stateful σ ε α) : Stateful σ δ α := fun s =>
  ((m s).1.mapError f, (m s).2)

/-- A computation on a part of the state. The part is not changed by a failure. -/
def zoom (part : σ → ρ) (update : ρ → σ → σ) (m : StateT ρ (Except ε) α) : Stateful σ ε α :=
  fun s =>
    match m (part s) with
    | .ok (a, r) => (.ok a, update r s)
    | .error e => (.error e, s)

/-- A computation on a part of the state, which is changed by a failure too. -/
def focus (part : σ → ρ) (update : ρ → σ → σ) (m : Stateful ρ ε α) : Stateful σ ε α := fun s =>
  ((m (part s)).1, update (m (part s)).2 s)

/-- The result and the state after the computation. -/
def Post (m : Stateful σ ε α) (s : σ) (post : Except ε α → σ → Prop) : Prop :=
  post (m s).1 (m s).2

/-- The rest of a computation is about its value, and a failure ends it. -/
def Continues (next : α → σ → Prop) (failed : ε → σ → Prop) : Except ε α → σ → Prop
  | .ok a, s => next a s
  | .error e, s => failed e s

variable {failed : ε → σ → Prop} {next : α → σ → Prop}

@[simp] theorem continues_ok {a : α} {s : σ} : Continues next failed (.ok a) s ↔ next a s :=
  Iff.rfl

@[simp] theorem continues_error {e : ε} {s : σ} : Continues next failed (.error e) s ↔ failed e s :=
  Iff.rfl

variable {c : StateT ρ (Except ε) α}

section

variable {m : Stateful σ ε α} {s : σ} {post : Except ε α → σ → Prop}

theorem Post.mono {weaker : Except ε α → σ → Prop} (h : m.Post s post)
    (hweaker : ∀ result s', post result s' → weaker result s') : m.Post s weaker :=
  hweaker _ _ h

variable {a : α} {f : α → Stateful σ ε β} {last : Except ε β → σ → Prop}

@[simp] theorem post_pure : (pure a : Stateful σ ε α).Post s post ↔ post (.ok a) s :=
  Iff.rfl

@[simp] theorem post_throw {e : ε} : (throw e : Stateful σ ε α).Post s post ↔ post (.error e) s :=
  Iff.rfl

@[simp] theorem post_get {post : Except ε σ → σ → Prop} :
    (get : Stateful σ ε σ).Post s post ↔ post (.ok s) s :=
  Iff.rfl

@[simp] theorem post_modify {f : σ → σ} {post : Except ε Unit → σ → Prop} :
    (modify f : Stateful σ ε Unit).Post s post ↔ post (.ok ()) (f s) :=
  Iff.rfl

variable {result : Except ε α}

@[simp] theorem post_ofExcept : (ofExcept result : Stateful σ ε α).Post s post ↔ post result s :=
  Iff.rfl

@[simp] theorem post_mapError {f : ε → δ} {post : Except δ α → σ → Prop} :
    (m.mapError f).Post s post ↔ m.Post s fun result s' => post (result.mapError f) s' :=
  Iff.rfl

theorem post_bind :
    (m >>= f).Post s last ↔
      m.Post s (Continues (fun a s' => (f a).Post s' last) fun e s' => last (.error e) s') := by
  have hrun : (m >>= f) s = match m s with
      | (.ok a, s') => f a s'
      | (.error e, s') => (.error e, s') := by
    change (ExceptT.bindCont f (m s).1) (m s).2 = _
    generalize m s = result
    obtain ⟨result, s'⟩ := result
    cases result with
    | ok a | error e => rfl
  unfold Post
  rw [hrun]
  generalize m s = result
  obtain ⟨result, s'⟩ := result
  cases result with
  | ok a | error e => exact Iff.rfl

theorem post_mapError_bind {f : ε → δ} {g : α → Stateful σ δ β} {post : Except δ β → σ → Prop} :
    (m.mapError f >>= g).Post s post ↔
      m.Post s (Continues (fun a s' => (g a).Post s' post) fun e s' => post (.error (f e)) s') := by
  rw [post_bind, post_mapError]
  unfold Post
  cases (m s).1 with
  | ok a | error e => exact Iff.rfl

variable {value : Option α} {error : ε}

theorem post_require :
    (require error value : Stateful σ ε α).Post s post ↔
      (∀ a, value = some a → post (.ok a) s) ∧ (value = none → post (.error error) s) := by
  cases value with
  | none | some a => simp [require]

theorem post_get_bind {f : σ → Stateful σ ε β} : (get >>= f).Post s last ↔ (f s).Post s last := by
  rw [post_bind, post_get, continues_ok]

theorem post_modify_bind {change : σ → σ} {f : Unit → Stateful σ ε β} :
    (modify change >>= f).Post s last ↔ (f ()).Post (change s) last := by
  rw [post_bind, post_modify, continues_ok]

/-- A result is passed on, or ends the computation. -/
theorem post_ofExcept_bind :
    (ofExcept result >>= f).Post s last ↔
      (∀ a, result = .ok a → (f a).Post s last) ∧
        ∀ e, result = .error e → (∀ a, result ≠ .ok a) → last (.error e) s := by
  rw [post_bind]
  cases result with
  | ok a | error e => simp

theorem post_ensure_bind {p : Prop} [Decidable p] {e : ε} {f : Unit → Stateful σ ε β} :
    (ofExcept (ensure p e) >>= f).Post s last ↔
      (p → (f ()).Post s last) ∧ (¬p → last (.error e) s) := by
  rw [post_bind, ensure]
  by_cases hp : p
  · simp [hp]
  · simp [hp]

theorem post_require_bind :
    (require error value >>= f).Post s last ↔
      (∀ a, value = some a → (f a).Post s last) ∧ (value = none → last (.error error) s) := by
  rw [post_bind, post_require]
  rfl

theorem post_require_bind_some (h : value = some a) :
    (require error value >>= f).Post s last ↔ (f a).Post s last := by
  subst h
  exact post_bind

variable {update : ρ → σ → σ} {part : σ → ρ}

theorem post_focus {c : Stateful ρ ε α} :
    (focus part update c).Post s post ↔ c.Post (part s) fun result r => post result (update r s) :=
  Iff.rfl

theorem post_zoom :
    (zoom part update c).Post s post ↔
      (∀ a r, c (part s) = .ok (a, r) → post (.ok a) (update r s)) ∧
        ∀ e, c (part s) = .error e → post (.error e) s := by
  unfold Post zoom
  cases c (part s) with
  | ok value =>
    obtain ⟨a, r⟩ := value
    simp
  | error e => simp

end

section Success

variable {m : Stateful σ ε α} {s s' : σ}

theorem bind_eq_ok_iff {f : α → Stateful σ ε β} {b : β} :
    (m >>= f) s = (.ok b, s') ↔ ∃ a t, m s = (.ok a, t) ∧ f a t = (.ok b, s') := by
  change (m >>= f).Post s (fun result after => (result, after) = (.ok b, s')) ↔ _
  rw [post_bind]
  unfold Post
  cases m s with
  | mk result t =>
    cases result with
    | ok a =>
      constructor
      · intro h
        exact ⟨a, t, rfl, h⟩
      · rintro ⟨_, _, ⟨⟩, h⟩
        exact h
    | error e =>
      constructor
      · rintro ⟨⟩
      · rintro ⟨_, _, ⟨⟩, _⟩

theorem pure_eq_ok_iff {a b : α} : (pure a : Stateful σ ε α) s = (.ok b, s') ↔ a = b ∧ s = s' := by
  refine Prod.ext_iff.trans (and_congr_left fun _ => ?_)
  exact ⟨Except.ok.inj, congrArg Except.ok⟩

variable {a : α}

theorem throw_eq_ok_iff {e : ε} : (throw e : Stateful σ ε α) s = (.ok a, s') ↔ False := by
  refine iff_of_false ?_ not_false
  rintro ⟨⟩

theorem get_eq_ok_iff {t : σ} : (get : Stateful σ ε σ) s = (.ok t, s') ↔ s = t ∧ s = s' :=
  pure_eq_ok_iff

theorem modify_eq_ok_iff {f : σ → σ} {u : Unit} :
    (modify f : Stateful σ ε Unit) s = (.ok u, s') ↔ f s = s' :=
  Prod.ext_iff.trans (and_iff_right rfl)

theorem zoom_eq_ok_iff {part : σ → ρ} {update : ρ → σ → σ} :
    zoom part update c s = (.ok a, s') ↔ ∃ r, c (part s) = .ok (a, r) ∧ update r s = s' := by
  unfold zoom
  cases c (part s) with
  | ok value =>
    obtain ⟨b, r⟩ := value
    constructor
    · rintro ⟨⟩
      exact ⟨r, rfl, rfl⟩
    · rintro ⟨_, ⟨⟩, rfl⟩
      rfl
  | error e =>
    constructor
    · rintro ⟨⟩
    · rintro ⟨_, ⟨⟩, _⟩

theorem mapError_eq_ok_iff {f : ε → δ} : m.mapError f s = (.ok a, s') ↔ m s = (.ok a, s') := by
  unfold mapError
  rw [Prod.ext_iff, Prod.ext_iff, Shared.mapError_eq_ok_iff]

theorem ofExcept_eq_ok_iff {result : Except ε α} :
    (ofExcept result : Stateful σ ε α) s = (.ok a, s') ↔ result = .ok a ∧ s = s' :=
  Prod.ext_iff

theorem require_eq_ok_iff {error : ε} {value : Option α} :
    (require error value : Stateful σ ε α) s = (.ok a, s') ↔ value = some a ∧ s = s' := by
  cases value with
  | none =>
    constructor
    · rintro ⟨⟩
    · rintro ⟨⟨⟩, _⟩
  | some b =>
    refine Prod.ext_iff.trans (and_congr_left fun _ => ?_)
    exact ⟨fun h => congrArg some (Except.ok.inj h),
      fun h => congrArg Except.ok (Option.some.inj h)⟩

end Success

end Stateful

end SdkInternal.Shared
