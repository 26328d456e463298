import Mathlib.Data.List.Basic

/-! # Runs of machines

A machine with partial steps takes a state and a label to the next state, or is not
enabled. A machine with outputs is total and answers every input. Runs, and the rules
that carry a property of one step to a whole run, are stated here for both. -/

namespace SdkInternal.Shared

open Option

/-! ## Partial machines -/

section

variable {σ α : Type*} (step : σ → α → Option σ)

/-- The state after performing `labels` in order, or `none` if one is not enabled. -/
def run : σ → List α → Option σ
  | s, [] => some s
  | s, a :: labels => (step s a).bind fun s' => run s' labels

variable (s : σ)

@[simp] theorem run_nil : run step s [] = some s := rfl

@[simp] theorem run_cons (a : α) (labels : List α) :
    run step s (a :: labels) = (step s a).bind fun s' => run step s' labels := rfl

theorem run_append (first second : List α) :
    run step s (first ++ second) = (run step s first).bind fun s' => run step s' second := by
  induction first generalizing s with
  | nil => rfl
  | cons a first ih =>
    simp only [List.cons_append, run_cons, bind_assoc]
    congr 1
    funext s'
    exact ih s'

theorem run_concat (labels : List α) (a : α) :
    run step s (labels ++ [a]) = (run step s labels).bind fun s' => step s' a := by
  rw [run_append]
  congr 1
  funext s'
  rw [run_cons]
  cases step s' a with
  | none | some last => rfl

/-- Every step of the run from `s` starts in a state that meets `condition`. -/
def Meets (condition : σ → α → Prop) : σ → List α → Prop
  | _, [] => True
  | s, a :: labels => condition s a ∧ ∀ s', step s a = some s' → Meets condition s' labels

variable {condition : σ → α → Prop} {s s' : σ} {labels : List α}

variable {step} in
theorem Meets.cons {a : α} (hcondition : condition s a) (hstep : step s a = some s')
    (h : Meets step condition s' labels) : Meets step condition s (a :: labels) :=
  ⟨hcondition, fun _ hother => some.inj (hstep.symm.trans hother) ▸ h⟩

/-- Steps that meet one condition meet a second one under a property that they keep. -/
theorem meets_of_invariant {condition second : σ → α → Prop} (invariant : σ → Prop)
    (hstep : ∀ s a s', condition s a → step s a = some s' → invariant s →
      second s a ∧ invariant s')
    {s s' : σ} {labels : List α} (hmeets : Meets step condition s labels)
    (hrun : run step s labels = some s') (hs : invariant s) :
    Meets step second s labels ∧ invariant s' := by
  induction labels generalizing s with
  | nil =>
    simp only [run_nil, some.injEq] at hrun
    exact ⟨trivial, hrun ▸ hs⟩
  | cons a labels ih =>
    rw [run_cons, bind_eq_some_iff] at hrun
    obtain ⟨next, hnext, hrest⟩ := hrun
    obtain ⟨hsecond, hinvariant⟩ := hstep s a next hmeets.1 hnext hs
    obtain ⟨hlater, hlast⟩ := ih (hmeets.2 next hnext) hrest hinvariant
    exact ⟨.cons hsecond hnext hlater, hlast⟩

theorem run_invariant {condition : σ → α → Prop} (invariant : σ → Prop)
    (hstep : ∀ s a s', condition s a → step s a = some s' → invariant s → invariant s')
    {s s' : σ} {labels : List α} (hmeets : Meets step condition s labels)
    (hrun : run step s labels = some s') (hs : invariant s) : invariant s' :=
  (meets_of_invariant step invariant
    (fun s a s' hmet hnext h => ⟨hmet, hstep s a s' hmet hnext h⟩) hmeets hrun hs).2

theorem meets_append_iff {first second : List α} (hrun : run step s first = some s') :
    Meets step condition s (first ++ second) ↔
      Meets step condition s first ∧ Meets step condition s' second := by
  induction first generalizing s with
  | nil =>
    simp only [run_nil, some.injEq] at hrun
    subst hrun
    exact ⟨fun h => ⟨trivial, h⟩, fun h => h.2⟩
  | cons a first ih =>
    rw [run_cons, bind_eq_some_iff] at hrun
    obtain ⟨next, hnext, hrest⟩ := hrun
    have honly : ∀ {P : σ → Prop}, (∀ s', step s a = some s' → P s') ↔ P next := by
      intro P
      refine ⟨fun h => h next hnext, ?_⟩
      intro h s' hs'
      rw [hnext] at hs'
      exact some.inj hs' ▸ h
    simp only [List.cons_append, Meets, honly, ih hrest, and_assoc]

theorem meets_append_of_run {first second : List α} (hfirst : Meets step condition s first)
    (hrun : run step s first = some s') (hsecond : Meets step condition s' second) :
    Meets step condition s (first ++ second) :=
  (meets_append_iff step hrun).mpr ⟨hfirst, hsecond⟩

instance decidableMeets {condition : σ → α → Prop} [∀ s a, Decidable (condition s a)] :
    ∀ (s : σ) (labels : List α), Decidable (Meets step condition s labels)
  | _, [] => .isTrue trivial
  | s, a :: labels =>
    match h : step s a with
    | none => decidable_of_iff (condition s a) (by simp [Meets, h])
    | some s' =>
      have : Decidable (Meets step condition s' labels) := decidableMeets s' labels
      decidable_of_iff (condition s a ∧ Meets step condition s' labels) (by simp [Meets, h])

theorem Meets.mono {weaker : σ → α → Prop} (hmeets : Meets step condition s labels)
    (h : ∀ s a, condition s a → weaker s a) :
    Meets step weaker s labels := by
  induction labels generalizing s with
  | nil => trivial
  | cons a labels ih => exact ⟨h s a hmeets.1, fun s' hs' => ih (hmeets.2 s' hs')⟩

theorem meets_of_forall (h : ∀ a ∈ labels, ∀ s, condition s a) (s : σ) :
    Meets step condition s labels := by
  induction labels generalizing s with
  | nil => trivial
  | cons a labels ih =>
    exact ⟨h a (by simp) s, fun s' _ => ih (fun b hb => h b (List.mem_cons_of_mem a hb)) s'⟩

theorem meets_true (s : σ) (labels : List α) : Meets step (fun _ _ => True) s labels :=
  meets_of_forall step (fun _ _ _ => trivial) s

end

/-! ## Machines with outputs -/

section

variable {σ α β : Type*} (step : σ → α → β × σ)

/-- The outputs of feeding `inputs` in order, and the state reached. -/
def feed : σ → List α → List β × σ
  | s, [] => ([], s)
  | s, a :: inputs =>
    let answer := step s a
    let rest := feed answer.2 inputs
    (answer.1 :: rest.1, rest.2)

@[simp] theorem feed_nil (s : σ) : feed step s [] = ([], s) := rfl

@[simp] theorem feed_cons (s : σ) (a : α) (inputs : List α) :
    feed step s (a :: inputs) =
      ((step s a).1 :: (feed step (step s a).2 inputs).1,
        (feed step (step s a).2 inputs).2) := rfl

theorem feed_append (s : σ) (first second : List α) :
    feed step s (first ++ second) =
      ((feed step s first).1 ++ (feed step (feed step s first).2 second).1,
        (feed step (feed step s first).2 second).2) := by
  induction first generalizing s with
  | nil => rfl
  | cons a first ih => simp [ih]

theorem feed_length (s : σ) (inputs : List α) : (feed step s inputs).1.length = inputs.length := by
  induction inputs generalizing s with
  | nil => rfl
  | cons a inputs ih => simp [ih]

theorem feed_invariant (invariant : σ → Prop)
    (hstep : ∀ s a, invariant s → invariant (step s a).2) {s : σ} (inputs : List α)
    (hs : invariant s) : invariant (feed step s inputs).2 := by
  induction inputs generalizing s with
  | nil => exact hs
  | cons a inputs ih => exact ih (hstep s a hs)

/-- Deleting inputs is unobservable at the inputs that are kept, if a relation between
the two runs makes kept inputs answer alike and survives a deleted input on one side. The
relation may depend on the inputs still to come. -/
theorem feed_filter (keep : α → Bool) (related : List α → σ → σ → Prop)
    (hkeep : ∀ a inputs s s', keep a = true → related (a :: inputs) s s' →
      (step s a).1 = (step s' a).1 ∧ related inputs (step s a).2 (step s' a).2)
    (hdelete : ∀ a inputs s s', keep a = false → related (a :: inputs) s s' →
      related inputs (step s a).2 s')
    {s s' : σ} {inputs : List α} (hrelated : related inputs s s') :
    ((inputs.zip (feed step s inputs).1).filter fun p => keep p.1).map Prod.snd =
      (feed step s' (inputs.filter keep)).1 := by
  induction inputs generalizing s s' with
  | nil => rfl
  | cons a inputs ih =>
    cases ha : keep a with
    | true =>
      obtain ⟨houtput, hrest⟩ := hkeep a inputs s s' ha hrelated
      simp [ha, houtput, ih hrest]
    | false => simpa [ha] using ih (hdelete a inputs s s' ha hrelated)

end

end SdkInternal.Shared
