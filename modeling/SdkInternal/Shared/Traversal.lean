import Mathlib.Control.Traversable.Lemmas
import Mathlib.Control.Traversable.Instances
import SdkInternal.Shared.Computation

/-! # Traversals

A relation between computations and values that holds of pure computations and is kept by
application carries over to the traversals of every lawful traversable type. Results about
computations that may fail follow: what a traversal that succeeds returns, and which traversals
can be undone. -/

namespace SdkInternal.Shared

open Functor LawfulTraversable

/-! ## Nested functors -/

section

variable {F G H : Type → Type} [Functor F] [LawfulFunctor F] [Functor G] [LawfulFunctor G]
  [Functor H] [LawfulFunctor H] {α β γ : Type}

theorem nested_id_map (x : F (G (H α))) : map (map (map id)) x = x := by
  have hinner : (map id : H α → H α) = id := funext id_map
  have houter : (map id : G (H α) → G (H α)) = id := funext id_map
  rw [hinner, houter, id_map]

theorem nested_comp_map (g : α → β) (h : β → γ) (x : F (G (H α))) :
    map (map (map (h ∘ g))) x =
      map (map (map h)) (map (map (map g)) x) := by
  have hinner : (map (h ∘ g) : H α → H γ) = map h ∘ map g :=
    funext (comp_map g h)
  have houter : (map (map h ∘ map g) : G (H α) → G (H γ)) =
      map (map h) ∘ map (map g) :=
    funext (comp_map _ _)
  rw [hinner, houter, comp_map]

end

/-! ## Relations -/

/-- A relation between computations and values that is kept by `pure` and `<*>`. -/
structure ApplicativeRelation (F : Type → Type) [Applicative F] where
  rel : {α : Type} → F α → α → Prop
  pure : ∀ {α : Type} (a : α), rel (Pure.pure a) a
  seq : ∀ {α β : Type} {f : F (α → β)} {g : α → β} {m : F α} {a : α},
    rel f g → rel m a → rel (f <*> m) (g a)

namespace ApplicativeRelation

variable {F : Type → Type} [Applicative F]

/-- The computations that come with a value they are related to. -/
def Related (R : ApplicativeRelation F) (α : Type) : Type :=
  {p : α × F α // R.rel p.2 p.1}

variable {R : ApplicativeRelation F}

namespace Related

variable {α β : Type} (r : R.Related α)

def value : α := r.val.1

def computation : F α := r.val.2

theorem ext {r s : R.Related α} (hvalue : r.value = s.value)
    (hcomputation : r.computation = s.computation) : r = s :=
  Subtype.ext (Prod.ext hvalue hcomputation)

instance : Applicative R.Related where
  pure a := ⟨(a, Pure.pure a), R.pure a⟩
  seq f m := ⟨(f.value (m ()).value, f.computation <*> (m ()).computation),
    R.seq f.property (m ()).property⟩

@[simp] theorem value_pure (a : α) : (Pure.pure a : R.Related α).value = a := rfl

@[simp] theorem computation_pure (a : α) :
    (Pure.pure a : R.Related α).computation = Pure.pure a := rfl

variable (f : R.Related (α → β)) (m : R.Related α)

@[simp] theorem value_seq :
    (f <*> m).value = f.value m.value := rfl

@[simp] theorem computation_seq :
    (f <*> m).computation = f.computation <*> m.computation := rfl

@[simp] theorem value_map (f : α → β) (m : R.Related α) : (f <$> m).value = f m.value := rfl

variable [LawfulApplicative F]

@[simp] theorem computation_map (f : α → β) (m : R.Related α) :
    (f <$> m).computation = f <$> m.computation :=
  pure_seq f m.computation

instance : LawfulApplicative R.Related where
  seqLeft_eq _ _ := rfl
  seqRight_eq _ _ := rfl
  pure_seq _ _ := rfl
  map_pure f a := by
    apply ext
    · rfl
    · simp
  seq_pure f a := by
    apply ext
    · rfl
    · simp
  seq_assoc m f g := by
    apply ext
    · rfl
    · simp [seq_assoc]
  map_const := rfl
  id_map m := by
    apply ext
    · rfl
    · simp
  comp_map f g m := by
    apply ext
    · rfl
    · rw [computation_map, comp_map, computation_map, computation_map]

def valueTransformation : ApplicativeTransformation R.Related Id where
  app _ := value
  preserves_pure' _ := rfl
  preserves_seq' _ _ := rfl

def computationTransformation : ApplicativeTransformation R.Related F where
  app _ := computation
  preserves_pure' _ := rfl
  preserves_seq' _ _ := rfl

end Related

variable {t : Type → Type} [Traversable t] [LawfulTraversable t] [LawfulApplicative F]

theorem rel_traverse {α β : Type} {f : α → F β} {u : α → β} (h : ∀ a, R.rel (f a) (u a))
    (x : t α) : R.rel (traverse f x) (u <$> x) := by
  let g : α → R.Related β := fun a => ⟨(u a, f a), h a⟩
  have hvalue : (traverse g x).value = u <$> x := by
    have hnatural := naturality Related.valueTransformation g x
    have hmap := traverse_eq_map_id u x
    exact hnatural.trans hmap
  have hcomputation : (traverse g x).computation = traverse f x :=
    naturality Related.computationTransformation g x
  rw [← hvalue, ← hcomputation]
  exact (traverse g x).property

end ApplicativeRelation

/-! ## Computations that may fail -/

section

variable {ε : Type} {t : Type → Type} [Traversable t] [LawfulTraversable t] {α β : Type}

/-- If the computation succeeds, then with the value. -/
def onlyYields : ApplicativeRelation (Except ε) where
  rel m a := ∀ b, m = .ok b → b = a
  pure a := by
    rintro b ⟨⟩
    rfl
  seq := by
    intro α β f g m a hf hm b hb
    cases f with
    | error e => cases hb
    | ok f =>
      cases m with
      | error e => cases hb
      | ok m =>
        cases hb
        rw [hf f rfl, hm m rfl]

variable {f : α → Except ε β} {u : α → β} {as : List α} {bs : List β}

theorem eq_map_of_traverse_eq_ok (h : ∀ a b, f a = .ok b → b = u a) {x : t α} {y : t β}
    (hy : traverse f x = .ok y) :
    y = u <$> x :=
  onlyYields.rel_traverse h x y hy

theorem traverse_ok (u : α → β) (x : t α) :
    traverse (fun a => (.ok (u a) : Except ε β)) x = .ok (u <$> x) := by
  have hpure : traverse pure (u <$> x) = (pure (u <$> x) : Except ε (t β)) :=
    Traversable.pure_traverse (u <$> x)
  rw [Traversable.traverse_map] at hpure
  exact hpure

theorem traverse_map_ok {γ : Type} {f : β → Except ε γ} {v : α → γ} (h : ∀ a, f (u a) = .ok (v a))
    (x : t α) : traverse f (u <$> x) = .ok (v <$> x) := by
  have hok : f ∘ u = fun a => .ok (v a) := funext h
  rw [Traversable.traverse_map, hok, traverse_ok]

theorem traverse_map_ok_self {f : β → Except ε α} (h : ∀ a, f (u a) = .ok a) (x : t α) :
    traverse f (u <$> x) = .ok x := by
  have hread := traverse_map_ok h x (v := id)
  rwa [id_map] at hread

theorem exists_of_traverse_eq_ok {x : Option α} {y : Option β} (h : traverse f x = .ok y)
    (hy : y.isSome) :
    ∃ a b, x = some a ∧ y = some b ∧ f a = .ok b := by
  cases x with
  | none =>
    cases h
    cases hy
  | some a =>
    obtain ⟨b, hb, rfl⟩ := map_eq_ok_iff.mp h
    exact ⟨a, b, rfl, rfl, hb⟩

theorem traverse_cons_eq_ok_iff {a : α} :
    traverse f (a :: as) = .ok bs ↔
      ∃ b rest, f a = .ok b ∧ traverse f as = .ok rest ∧ bs = b :: rest := by
  have hcons : traverse f (a :: as) = List.cons <$> f a <*> traverse f as := rfl
  rw [hcons]
  cases f a with
  | error e => simp [Seq.seq, Except.bind]
  | ok b =>
    cases traverse f as with
    | error e => simp [Seq.seq, Except.bind, Except.map]
    | ok rest => simp [Seq.seq, Except.bind, Except.map, eq_comm]

theorem traverse_eq_ok_iff_forall₂ :
    traverse f as = .ok bs ↔ List.Forall₂ (fun a b => f a = .ok b) as bs := by
  induction as generalizing bs with
  | nil =>
    rw [List.forall₂_nil_left_iff, eq_comm (b := [])]
    exact pure_eq_ok_iff
  | cons a as ih => simp only [traverse_cons_eq_ok_iff, ih, List.forall₂_cons_left_iff]

theorem exists_traverse_eq_ok (h : ∀ a ∈ as, ∃ b, f a = .ok b) : ∃ bs, traverse f as = .ok bs := by
  induction as with
  | nil => exact ⟨[], rfl⟩
  | cons a as ih =>
    obtain ⟨⟨b, hb⟩, has⟩ := List.forall_mem_cons.mp h
    obtain ⟨rest, hrest⟩ := ih has
    exact ⟨b :: rest, traverse_cons_eq_ok_iff.mpr ⟨b, rest, hb, hrest, rfl⟩⟩

theorem exists_mem_of_forall₂ {α β : Type*} {r : α → β → Prop} {as : List α} {bs : List β}
    (h : List.Forall₂ r as bs) {a : α} (ha : a ∈ as) : ∃ b ∈ bs, r a b := by
  induction h with
  | nil => cases ha
  | cons hab _ ih =>
    rcases List.mem_cons.mp ha with rfl | ha
    · exact ⟨_, List.mem_cons_self, hab⟩
    · obtain ⟨b, hb, hr⟩ := ih ha
      exact ⟨b, List.mem_cons_of_mem _ hb, hr⟩

theorem forall₂_of_mapM {f : α → Option β} (h : as.mapM f = some bs) :
    List.Forall₂ (fun a b => f a = some b) as bs := by
  induction as generalizing bs with
  | nil =>
    cases h
    exact .nil
  | cons a as ih =>
    rw [List.mapM_cons] at h
    obtain ⟨b, hb, htail⟩ := Option.bind_eq_some_iff.mp h
    obtain ⟨rest, hrest, hcons⟩ := Option.bind_eq_some_iff.mp htail
    cases hcons
    exact .cons hb (ih hrest)

theorem forall₂_comp {α β γ : Type*} {r : α → β → Prop} {p : β → γ → Prop} {as : List α}
    {bs : List β} {cs : List γ} (hr : List.Forall₂ r as bs) (hp : List.Forall₂ p bs cs) :
    List.Forall₂ (Relation.Comp r p) as cs := by
  induction hr generalizing cs with
  | nil =>
    cases hp
    exact .nil
  | cons hab _ ih =>
    cases hp with
    | cons hbc hrest => exact .cons ⟨_, hab, hbc⟩ (ih hrest)

/-- A computation of a family that succeeds. -/
structure Success (f : α → Except ε β) where
  argument : α
  result : β
  eq_ok : f argument = .ok result

def successAt (f : α → Except ε β) (a : α) : Except ε (Success f) :=
  match h : f a with
  | .error e => .error e
  | .ok b => .ok ⟨a, b, h⟩

theorem result_successAt (f : α → Except ε β) (a : α) : Success.result <$> successAt f a = f a := by
  unfold successAt
  split
  next h => exact h.symm
  next h => exact h.symm

theorem argument_successAt {a b : α} (h : Success.argument <$> successAt f a = .ok b) : b = a := by
  unfold successAt at h
  split at h
  · cases h
  · cases h
    rfl

/-- A traversal succeeds with `y` if and only if there is one container of successes whose
arguments are `x` and whose results are `y`. -/
theorem traverse_eq_ok_iff {x : t α} {y : t β} :
    traverse f x = .ok y ↔
      ∃ w : t (Success f), Success.argument <$> w = x ∧ Success.result <$> w = y := by
  constructor
  · intro hy
    have hresults : (map Success.result) <$> traverse (successAt f) x = .ok y := by
      rw [Traversable.map_traverse, ← hy]
      congr 1
      funext a
      exact result_successAt f a
    cases hw : traverse (successAt f) x with
    | error e =>
      rw [hw] at hresults
      cases hresults
    | ok w =>
      rw [hw] at hresults
      refine ⟨w, ?_, Except.ok.inj hresults⟩
      have harguments : traverse (map Success.argument ∘ successAt f) x =
          .ok (Success.argument <$> w) := by
        rw [← Traversable.map_traverse, hw]
        rfl
      have hid := eq_map_of_traverse_eq_ok (u := id) (fun _ _ => argument_successAt) harguments
      rw [hid, id_map]
  · rintro ⟨w, rfl, rfl⟩
    exact traverse_map_ok Success.eq_ok w

end

/-! ## Traversals that are undone -/

section

variable {σ ε δ : Type} {t : Type → Type} [Traversable t] [LawfulTraversable t] {α β : Type}

/-- If the first computation succeeds, then the second one succeeds with the value. -/
def onlyYieldsBack : ApplicativeRelation (Functor.Comp (StateT σ (Except ε)) (Except δ)) where
  rel m a := ∀ s r s', m.run s = .ok (r, s') → r = .ok a
  pure a := by
    intro s r s' h
    cases h
    rfl
  seq := by
    intro α β f g m a hf hm s r s' h
    rw [Functor.Comp.run_seq] at h
    obtain ⟨apply, mid, second, hfirst, hsecond, rfl⟩ := run_seq_eq_ok_iff.mp h
    obtain ⟨first, hf', rfl⟩ := run_map_eq_ok_iff.mp hfirst
    show (first <*> second) = .ok (g a)
    rw [hf s first mid hf', hm mid second s' hsecond]
    rfl

variable {s s' : σ} {f : α → StateT σ (Except ε) β} {as : List α} {g : α → StateT σ (Except ε) β}

/-- If `f` reads back `u a` from what `g` makes of `a`, then so do the traversals. -/
theorem traverse_inverse {γ : Type} {f : β → Except δ γ} {u : α → γ}
    (h : ∀ a s b s', g a s = .ok (b, s') → f b = .ok (u a)) {x : t α} {y : t β}
    (hy : traverse g x s = .ok (y, s')) : traverse f y = .ok (u <$> x) := by
  let composed : α → Functor.Comp (StateT σ (Except ε)) (Except δ) γ :=
    Functor.Comp.mk ∘ map f ∘ g
  have hcomposed : ∀ a, onlyYieldsBack.rel (composed a) (u a) := by
    intro a s r s' hr
    obtain ⟨b, hb, rfl⟩ := run_map_eq_ok_iff.mp hr
    exact h a s b s' hb
  have hback := onlyYieldsBack.rel_traverse hcomposed x
  have hcomp : traverse composed x = Functor.Comp.mk (traverse f <$> traverse g x) :=
    comp_traverse f g x
  rw [hcomp] at hback
  exact hback s (traverse f y) s' (run_map_eq_ok_iff.mpr ⟨y, hy, rfl⟩)

/-- `f` reads back what `g` makes of a value. -/
def Undoes (f : β → Except δ α) (g : α → StateT σ (Except ε) β) : Prop :=
  ∀ ⦃a s b s'⦄, g a s = .ok (b, s') → f b = .ok a

theorem Undoes.traverse {f : β → Except δ α} (h : Undoes f g) :
    Undoes (traverse f) (traverse g : t α → StateT σ (Except ε) (t β)) := by
  intro x s y s' hy
  have hread := traverse_inverse (u := id) (fun _ _ _ _ hb => h hb) hy
  rwa [id_map] at hread

theorem run_traverse_cons_eq_ok_iff {a : α} {bs : List β} :
    traverse f (a :: as) s = .ok (bs, s') ↔
      ∃ b mid rest, f a s = .ok (b, mid) ∧ traverse f as mid = .ok (rest, s') ∧ bs = b :: rest := by
  have hcons : traverse f (a :: as) = List.cons <$> f a <*> traverse f as := rfl
  rw [hcons, run_seq_eq_ok_iff]
  simp only [run_map_eq_ok_iff]
  constructor
  · rintro ⟨_, mid, rest, ⟨b, hb, rfl⟩, hrest, rfl⟩
    exact ⟨b, mid, rest, hb, hrest, rfl⟩
  · rintro ⟨b, mid, rest, hb, hrest, rfl⟩
    exact ⟨_, mid, rest, ⟨b, hb, rfl⟩, hrest, rfl⟩

theorem forall₂_of_run_traverse {bs : List β} (h : traverse f as s = .ok (bs, s')) :
    List.Forall₂ (fun a b => ∃ s s', f a s = .ok (b, s')) as bs := by
  induction as generalizing bs s with
  | nil =>
    cases h
    exact .nil
  | cons a as ih =>
    obtain ⟨b, mid, rest, hb, hrest, rfl⟩ := run_traverse_cons_eq_ok_iff.mp h
    exact .cons ⟨s, mid, hb⟩ (ih hrest)

/-- The computation succeeds in every state. -/
def alwaysSucceeds : ApplicativeRelation (StateT σ (Except ε)) where
  rel m _ := Succeeds m
  pure a := succeeds_pure a
  seq := by
    intro α β f g m a hf hm s
    obtain ⟨apply, mid, happly⟩ := hf s
    obtain ⟨b, s', hb⟩ := hm mid
    exact ⟨apply b, s', run_seq_eq_ok_iff.mpr ⟨apply, mid, b, happly, hb, rfl⟩⟩

theorem Succeeds.traverse (h : ∀ a, Succeeds (f a)) (x : t α) :
    Succeeds (traverse f x) := by
  intro s
  exact alwaysSucceeds.rel_traverse (u := fun a => (h a s).choose) h x s

theorem Succeeds.traverse_list (h : ∀ a ∈ as, Succeeds (f a)) :
    Succeeds (Traversable.traverse f as) := by
  induction as with
  | nil => exact succeeds_pure []
  | cons a as ih =>
    obtain ⟨ha, has⟩ := List.forall_mem_cons.mp h
    intro s
    obtain ⟨b, mid, hb⟩ := ha s
    obtain ⟨rest, s', hrest⟩ := ih has mid
    exact ⟨b :: rest, s', run_traverse_cons_eq_ok_iff.mpr ⟨b, mid, rest, hb, hrest, rfl⟩⟩

end

end SdkInternal.Shared
