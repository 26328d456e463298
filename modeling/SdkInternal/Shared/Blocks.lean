import Mathlib.Data.Vector.Defs
import Mathlib.Data.List.Basic
import Mathlib.Algebra.Order.Ring.Nat

/-! # Lists cut into blocks

A list is cut from its front into blocks of `n` elements. What is shorter than a block
remains. -/

namespace SdkInternal.Shared.Blocks

open List hiding Vector

variable {α : Type*} {n : ℕ}

def join (blocks : List (Vector α n)) : List α :=
  (blocks.map Vector.toList).flatten

def first (n : ℕ) (elements : List α) : Option (Vector α n × List α) :=
  if h : n ≤ elements.length then
    some (⟨(elements.take n).toArray, by simp [h]⟩, elements.drop n)
  else none

/-- The first `count` blocks of a list, or all of them if it has fewer. -/
def initial (n : ℕ) : ℕ → List α → List (Vector α n)
  | 0, _ => []
  | count + 1, elements =>
    match first n elements with
    | none => []
    | some (block, rest) => block :: initial n count rest

def whole (n : ℕ) (elements : List α) : List (Vector α n) :=
  initial n (elements.length / n) elements

def remainder (n : ℕ) (elements : List α) : List α :=
  elements.drop (elements.length / n * n)

/-! ## Joining -/

@[simp] theorem join_nil : join ([] : List (Vector α n)) = [] := rfl

@[simp] theorem join_cons (block : Vector α n) (blocks : List (Vector α n)) :
    join (block :: blocks) = block.toList ++ join blocks := rfl

@[simp] theorem join_append (first second : List (Vector α n)) :
    join (first ++ second) = join first ++ join second := by
  simp [join]

variable (blocks : List (Vector α n))

@[simp] theorem length_join : (join blocks).length = blocks.length * n := by
  induction blocks with
  | nil => simp
  | cons block blocks ih =>
    rw [join_cons, length_append, Vector.length_toList, ih, length_cons]
    exact (Nat.add_comm _ _).trans (Nat.succ_mul _ _).symm

/-! ## Cutting what was joined -/

@[simp] theorem first_append (block : Vector α n) (rest : List α) :
    first n (block.toList ++ rest) = some (block, rest) := by
  have hlength : n ≤ (block.toList ++ rest).length := by simp
  rw [first, dif_pos hlength]
  simp [← Vector.toList_inj]

variable {elements : List α}

theorem first_eq_none (h : elements.length < n) : first n elements = none :=
  dif_neg (not_le.mpr h)

theorem eq_append_of_first {elements rest : List α} {block : Vector α n}
    (h : first n elements = some (block, rest)) : elements = block.toList ++ rest := by
  unfold first at h
  split at h
  case isTrue =>
    cases h
    simp
  case isFalse => cases h

theorem exists_append (h : n ≤ elements.length) :
    ∃ (block : Vector α n) (rest : List α), elements = block.toList ++ rest :=
  ⟨_, _, eq_append_of_first (dif_pos h)⟩

theorem initial_join (rest : List α) : initial n blocks.length (join blocks ++ rest) = blocks := by
  induction blocks with
  | nil => rfl
  | cons block blocks ih =>
    rw [length_cons, initial, join_cons, append_assoc, first_append]
    simp [ih]

theorem exists_join_append {count : ℕ} (h : count * n ≤ elements.length) :
    ∃ (blocks : List (Vector α n)) (rest : List α),
      elements = join blocks ++ rest ∧ blocks.length = count := by
  induction count generalizing elements with
  | zero => exact ⟨[], elements, rfl, rfl⟩
  | succ count ih =>
    have hmul : (count + 1) * n = count * n + n := Nat.succ_mul count n
    have hdrop : count * n ≤ (elements.drop n).length := by
      rw [length_drop]
      omega
    obtain ⟨blocks, rest, hrest, hlength⟩ := ih hdrop
    have htake : (elements.take n).toArray.size = n := by
      rw [size_toArray, length_take]
      omega
    refine ⟨⟨_, htake⟩ :: blocks, rest, ?_, by simp [hlength]⟩
    rw [join_cons, append_assoc, ← hrest]
    exact (take_append_drop n elements).symm

section

variable {blocks : List (Vector α n)} {rest : List α}

theorem length_div (hrest : rest.length < n) :
    (join blocks ++ rest).length / n = blocks.length := by
  rw [length_append, length_join, Nat.add_comm, Nat.add_mul_div_right _ _ (by omega),
    Nat.div_eq_of_lt hrest, Nat.zero_add]

theorem whole_join_append (hrest : rest.length < n) : whole n (join blocks ++ rest) = blocks := by
  rw [whole, length_div hrest, initial_join]

theorem remainder_join_append (hrest : rest.length < n) :
    remainder n (join blocks ++ rest) = rest := by
  rw [remainder, length_div hrest, ← length_join, drop_left]

theorem exists_whole (hn : 0 < n) (elements : List α) :
    ∃ (blocks : List (Vector α n)) (rest : List α),
      elements = join blocks ++ rest ∧ rest.length < n := by
  obtain ⟨blocks, rest, hjoin, hlength⟩ :=
    exists_join_append (n := n) (Nat.div_mul_le_self elements.length n)
  refine ⟨blocks, rest, hjoin, ?_⟩
  have htotal : elements.length = elements.length / n * n + rest.length := by
    conv_lhs => rw [hjoin, length_append, length_join, hlength]
  have hmod := Nat.div_add_mod' elements.length n
  have hlt := Nat.mod_lt elements.length hn
  omega

theorem exists_whole_append (hn : 0 < n) (elements more : List α) :
    ∃ (blocks added : List (Vector α n)) (rest left : List α),
      elements = join blocks ++ rest ∧ rest.length < n ∧ rest ++ more = join added ++ left ∧
      left.length < n ∧ elements ++ more = join (blocks ++ added) ++ left := by
  obtain ⟨blocks, rest, rfl, hrest⟩ := exists_whole hn elements
  obtain ⟨added, left, hadded, hleft⟩ := exists_whole hn (rest ++ more)
  refine ⟨blocks, added, rest, left, rfl, hrest, hadded, hleft, ?_⟩
  rw [append_assoc, hadded, join_append, append_assoc]

end

end SdkInternal.Shared.Blocks
