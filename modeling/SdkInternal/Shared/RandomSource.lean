import Mathlib.Data.List.Basic
import Mathlib.Algebra.Order.Ring.Nat

/-! # Random sources

A random source answers with an index below a bound and rearranges arrays. What holds for
every source holds for every run of a random generator. A scripted source answers with given
indices, so that every choice is the answer of some source. -/

namespace SdkInternal.Shared

open List Option

structure RandomSource (α ρ : Type) where
  randomRange : ρ → ℕ → ℕ × ρ
  randomRange_lt : ∀ state bound, 0 < bound → (randomRange state bound).1 < bound
  shuffle : ρ → Array α → Array α × ρ
  shuffle_perm : ∀ state items, (shuffle state items).1.toList.Perm items.toList

namespace RandomSource

variable {α ρ : Type} (source : RandomSource α ρ)

def sample (state : ρ) (items : List α) : Option (α × ρ) :=
  let (index, state) := source.randomRange state items.length
  items[index]?.map (·, state)

def sampleMany : ℕ → ρ → List α → Option (List α × ρ)
  | 0, state, _ => some ([], state)
  | count + 1, state, items => do
    let (first, state) ← source.sample state items
    let (rest, state) ← sampleMany count state items
    return (first :: rest, state)

/-- Several samples, each of a number of elements of its own list. -/
def drawAll : ρ → List (List α × ℕ) → Option (List α × ρ)
  | state, [] => some ([], state)
  | state, (items, count) :: draws => do
    let (drawn, state) ← source.sampleMany count state items
    let (rest, state) ← drawAll state draws
    return (drawn ++ rest, state)

/-! ## What samples are -/

variable {items : List α} (state : ρ)

theorem sample_spec (h : items ≠ []) :
    ∃ item state', source.sample state items = some (item, state') ∧ item ∈ items := by
  have hlt := source.randomRange_lt state items.length (length_pos_iff.mpr h)
  refine ⟨items[(source.randomRange state items.length).1],
    (source.randomRange state items.length).2, ?_, getElem_mem hlt⟩
  simp only [sample, getElem?_eq_getElem hlt, map_some]

theorem sampleMany_spec {count : ℕ} (h : 0 < count → items ≠ []) :
    ∃ drawn state', source.sampleMany count state items = some (drawn, state') ∧
      drawn.length = count ∧ ∀ item ∈ drawn, item ∈ items := by
  induction count generalizing state with
  | zero => exact ⟨[], state, rfl, rfl, by simp⟩
  | succ count ih =>
    have hne := h (Nat.succ_pos count)
    obtain ⟨first, next, hfirst, hmem⟩ := source.sample_spec state hne
    obtain ⟨rest, last, hrest, hlength, hrestMem⟩ := ih next (fun _ => hne)
    refine ⟨first :: rest, last, ?_, ?_, ?_⟩
    · simp only [sampleMany, hfirst, hrest, bind_eq_bind, bind_some]
      rfl
    · rw [length_cons, hlength]
    · intro item hitem
      rcases mem_cons.mp hitem with rfl | hitem
      · exact hmem
      · exact hrestMem item hitem

/-- The drawn elements are in parts, one for each list. -/
def Parts (parts : List (List α)) (draws : List (List α × ℕ)) : Prop :=
  List.Forall₂ (fun part draw => part.length = draw.2 ∧ ∀ item ∈ part, item ∈ draw.1) parts draws

variable {draws : List (List α × ℕ)}

theorem drawAll_spec (h : ∀ draw ∈ draws, 0 < draw.2 → draw.1 ≠ []) :
    ∃ parts state', source.drawAll state draws = some (parts.flatten, state') ∧
      Parts parts draws := by
  induction draws generalizing state with
  | nil => exact ⟨[], state, rfl, .nil⟩
  | cons draw draws ih =>
    obtain ⟨items, count⟩ := draw
    obtain ⟨drawn, next, hdrawn, hpart⟩ :=
      source.sampleMany_spec state (h (items, count) mem_cons_self)
    obtain ⟨parts, last, hparts, hrest⟩ := ih next
      (fun draw hdraw => h draw (mem_cons_of_mem _ hdraw))
    refine ⟨drawn :: parts, last, ?_, .cons hpart hrest⟩
    simp only [drawAll, hdrawn, hparts, bind_eq_bind, bind_some, flatten_cons]
    rfl

section

variable {parts : List (List α)} {draws : List (List α × ℕ)}

theorem Parts.length_flatten (h : Parts parts draws) :
    parts.flatten.length = (draws.map Prod.snd).sum := by
  induction h with
  | nil => rfl
  | cons hpart _ ih =>
    rw [flatten_cons, length_append, ih, hpart.1, map_cons, sum_cons]

theorem Parts.mem_flatten (h : Parts parts draws) {item : α} (hitem : item ∈ parts.flatten) :
    ∃ draw ∈ draws, item ∈ draw.1 := by
  induction h with
  | nil => cases hitem
  | cons hpart _ ih =>
    rcases mem_append.mp hitem with hitem | hitem
    · exact ⟨_, mem_cons_self, hpart.2 item hitem⟩
    · obtain ⟨draw, hdraw, hmem⟩ := ih hitem
      exact ⟨draw, mem_cons_of_mem _ hdraw, hmem⟩

theorem Parts.le_countP (h : Parts parts draws) {draw : List α × ℕ} (hdraw : draw ∈ draws)
    {p : α → Bool} (hp : ∀ item ∈ draw.1, p item = true) : draw.2 ≤ parts.flatten.countP p := by
  induction h with
  | nil => cases hdraw
  | cons hpart _ ih =>
    rw [flatten_cons, countP_append]
    rcases mem_cons.mp hdraw with rfl | hdraw
    · rw [countP_eq_length.mpr fun item hitem => hp item (hpart.2 item hitem), hpart.1]
      exact Nat.le_add_right _ _
    · exact (ih hdraw).trans (Nat.le_add_left _ _)

end

/-! ## Scripts -/

/-- The source that answers with the indices of a script and leaves arrays as they are. -/
def scripted : RandomSource α (List ℕ) where
  randomRange script bound := (script.headD 0 % bound, script.tail)
  randomRange_lt _ _ hbound := Nat.mod_lt _ hbound
  shuffle script items := (items, script)
  shuffle_perm _ _ := .rfl

theorem sampleMany_scripted {index : ℕ} (hindex : index < items.length) (count : ℕ)
    (script : List ℕ) :
    scripted.sampleMany count (replicate count index ++ script) items =
      some (replicate count items[index], script) := by
  induction count with
  | zero => rfl
  | succ count ih =>
    have hsample : scripted.sample (index :: (replicate count index ++ script)) items =
        some (items[index], replicate count index ++ script) := by
      simp only [sample, scripted, headD_cons, tail_cons, Nat.mod_eq_of_lt hindex,
        getElem?_eq_getElem hindex, map_some]
    simp only [sampleMany, replicate_succ, cons_append, hsample, ih, bind_eq_bind, bind_some]
    rfl

/-- If every list that is drawn from has an element with a property, then some script draws
only such elements. -/
theorem exists_script (p : α → Prop) (h : ∀ draw ∈ draws, 0 < draw.2 → ∃ item ∈ draw.1, p item) :
    ∃ script drawn, scripted.drawAll script draws = some (drawn, []) ∧ ∀ item ∈ drawn, p item := by
  induction draws with
  | nil => exact ⟨[], [], rfl, by simp⟩
  | cons draw draws ih =>
    obtain ⟨items, count⟩ := draw
    obtain ⟨script, drawn, hdrawn, hp⟩ :=
      ih (fun draw hdraw => h draw (mem_cons_of_mem _ hdraw))
    rcases Nat.eq_zero_or_pos count with rfl | hcount
    · refine ⟨script, drawn, ?_, hp⟩
      simp only [drawAll, sampleMany, hdrawn, bind_eq_bind, bind_some, nil_append]
      rfl
    · obtain ⟨item, hitem, hpitem⟩ := h (items, count) mem_cons_self hcount
      obtain ⟨index, hindex, rfl⟩ := getElem_of_mem hitem
      refine ⟨replicate count index ++ script, replicate count items[index] ++ drawn,
        ?_, ?_⟩
      · simp only [drawAll, sampleMany_scripted hindex, hdrawn, bind_eq_bind, bind_some]
        rfl
      · intro other hother
        rcases mem_append.mp hother with hother | hother
        · rw [eq_of_mem_replicate hother]
          exact hpitem
        · exact hp other hother

end RandomSource

end SdkInternal.Shared
