import Mathlib.Order.Lattice
import Mathlib.Data.List.Basic

/-! # Sets in increasing order

A finite set as the list of its elements in strictly increasing order, which is the order in
which it is read. -/

namespace SdkInternal.Shared

open List

section Insertion

variable {α : Type*} [LinearOrder α]

/-- The list with `a` at its place, unless it is there. -/
def insertAt (a : α) : List α → List α
  | [] => [a]
  | b :: rest => if a < b then a :: b :: rest else if a = b then b :: rest else b :: insertAt a rest

theorem mem_insertAt {a c : α} {list : List α} : c ∈ insertAt a list ↔ c = a ∨ c ∈ list := by
  induction list with
  | nil => simp [insertAt]
  | cons b rest ih =>
    rw [insertAt]
    split_ifs with hlt heq
    · exact mem_cons
    · rw [heq, mem_cons]
      tauto
    · rw [mem_cons, mem_cons]
      tauto

theorem pairwise_insertAt (a : α) {list : List α} (h : list.Pairwise (· < ·)) :
    (insertAt a list).Pairwise (· < ·) := by
  induction list with
  | nil => simp [insertAt]
  | cons b rest ih =>
    obtain ⟨hb, hrest⟩ := pairwise_cons.mp h
    rw [insertAt]
    split_ifs with hlt heq
    · refine pairwise_cons.mpr ⟨?_, h⟩
      intro c hc
      rcases mem_cons.mp hc with rfl | hc
      · exact hlt
      · exact hlt.trans (hb c hc)
    · exact h
    · refine pairwise_cons.mpr ⟨?_, ih hrest⟩
      intro c hc
      rcases mem_insertAt.mp hc with rfl | hc
      · exact lt_of_le_of_ne (not_lt.mp hlt) (Ne.symm heq)
      · exact hb c hc

end Insertion

structure OrdSet (α : Type*) [LinearOrder α] where
  elements : List α
  sorted : elements.Pairwise (· < ·)
  deriving DecidableEq

namespace OrdSet

variable {α : Type*} [LinearOrder α]

def empty : OrdSet α := ⟨[], .nil⟩

instance : Membership α (OrdSet α) := ⟨fun set a => a ∈ set.elements⟩

instance (a : α) (set : OrdSet α) : Decidable (a ∈ set) :=
  inferInstanceAs (Decidable (a ∈ set.elements))

def isEmpty (set : OrdSet α) : Bool := set.elements.isEmpty

variable (set : OrdSet α)

def insert (a : α) : OrdSet α :=
  ⟨insertAt a set.elements, pairwise_insertAt a set.sorted⟩

def extend (more : List α) : OrdSet α := more.foldl insert set

def difference (other : List α) : OrdSet α :=
  ⟨set.elements.filter (· ∉ other), set.sorted.filter _⟩

variable {a : α} {set : OrdSet α}

theorem mem_elements : a ∈ set.elements ↔ a ∈ set := Iff.rfl

@[simp] theorem not_mem_empty (a : α) : a ∉ (empty : OrdSet α) := not_mem_nil

@[simp] theorem mem_insert {b : α} : b ∈ set.insert a ↔ b = a ∨ b ∈ set :=
  mem_insertAt

@[simp] theorem mem_extend {b : α} {more : List α} : b ∈ set.extend more ↔ b ∈ set ∨ b ∈ more := by
  induction more generalizing set with
  | nil => simp [extend]
  | cons a more ih =>
    have hcons : set.extend (a :: more) = (set.insert a).extend more := rfl
    rw [hcons, ih, mem_insert, mem_cons]
    tauto

@[simp] theorem mem_difference {other : List α} :
    a ∈ set.difference other ↔ a ∈ set ∧ a ∉ other := by
  rw [← mem_elements, difference, mem_filter, decide_eq_true_eq, mem_elements]

theorem isEmpty_iff : set.isEmpty = true ↔ ∀ a, a ∉ set := by
  rw [isEmpty, List.isEmpty_iff, eq_nil_iff_forall_not_mem]
  rfl

end OrdSet

end SdkInternal.Shared
