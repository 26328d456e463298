import Mathlib.Algebra.Order.BigOperators.Group.List
import Mathlib.Algebra.Order.Ring.Nat
import Mathlib.Data.List.AList
import Mathlib.Data.List.Induction

/-! # Keyed stores

Maps with finitely many entries are Mathlib's `AList`. A store is swept by keeping the
entries that pass a test, and weighed by adding up a weight over its entries; both are
what quota and expiry arguments need. -/

namespace SdkInternal.Shared

open List AList List

variable {κ : Type*} {ν : Type*}

/-- A finite map from keys to values of one type. -/
abbrev Store (κ ν : Type*) := AList (fun _ : κ => ν)

namespace Store

def retain (keep : κ → ν → Bool) (s : Store κ ν) : Store κ ν :=
  ⟨s.entries.filter (fun e => keep e.1 e.2),
    s.nodupKeys.sublist (filter_sublist)⟩

def weigh (weight : κ → ν → ℕ) (s : Store κ ν) : ℕ :=
  (s.entries.map fun e => weight e.1 e.2).sum

@[simp] theorem entries_retain (keep : κ → ν → Bool) (s : Store κ ν) :
    (retain keep s).entries = s.entries.filter (fun e => keep e.1 e.2) := rfl

variable {s : Store κ ν} {k : κ} {v : ν} {ξ : Type*}

theorem mem_entries_retain {keep : κ → ν → Bool} {e : Sigma fun _ : κ => ν} :
    e ∈ (retain keep s).entries ↔ e ∈ s.entries ∧ keep e.1 e.2 = true := by
  simp

variable (keep keep' : κ → ν → Bool)

theorem retain_retain (s : Store κ ν) :
    retain keep (retain keep' s) = retain (fun k v => keep k v && keep' k v) s := by
  apply ext
  simp [filter_filter]

theorem retain_comm (s : Store κ ν) :
    retain keep (retain keep' s) = retain keep' (retain keep s) := by
  rw [retain_retain, retain_retain]
  simp only [Bool.and_comm]

variable (weight : κ → ν → ℕ)

theorem weigh_retain_le (keep : κ → ν → Bool) (s : Store κ ν) :
    weigh weight (retain keep s) ≤ weigh weight s :=
  ((filter_sublist (l := s.entries)).map _).sum_le_sum (by simp)

/-! ## Lookups -/

variable [DecidableEq κ]

theorem lookup_eq_some : s.lookup k = some v ↔ ⟨k, v⟩ ∈ s.entries :=
  mem_lookup_iff

theorem lookup_retain (keep : κ → ν → Bool) (s : Store κ ν) (k : κ) :
    (retain keep s).lookup k = (s.lookup k).filter (keep k) := by
  cases h : s.lookup k with
  | none =>
    cases h' : (retain keep s).lookup k with
    | none => rfl
    | some v =>
      rw [lookup_eq_some, mem_entries_retain, ← lookup_eq_some, h] at h'
      exact absurd h'.1 (by simp)
  | some v =>
    cases hkeep : keep k v with
    | true =>
      have hmem : (retain keep s).lookup k = some v := by
        rw [lookup_eq_some, mem_entries_retain, ← lookup_eq_some]
        exact ⟨h, hkeep⟩
      simp [hmem, Option.filter, hkeep]
    | false =>
      cases h' : (retain keep s).lookup k with
      | none => simp [Option.filter, hkeep]
      | some v' =>
        rw [lookup_eq_some, mem_entries_retain, ← lookup_eq_some, h] at h'
        obtain ⟨hv, hkeep'⟩ := h'
        obtain rfl : v = v' := Option.some.inj hv
        simp [hkeep] at hkeep'

@[simp] theorem erase_insert (k : κ) (v : ν) (s : Store κ ν) :
    (s.insert k v).erase k = s.erase k := by
  apply ext
  exact @kerase_cons_eq κ (fun _ => ν) _ k ⟨k, v⟩ _ rfl

theorem erase_of_lookup_eq_none (h : s.lookup k = none) : s.erase k = s := by
  apply ext
  exact kerase_of_notMem_keys (lookup_eq_none.mp h)

/-! ## Filters on keys commute with updates -/

variable (keep : κ → Bool)

theorem filter_kerase (k : κ) (l : List (Sigma fun _ : κ => ν)) :
    (kerase k l).filter (fun e => keep e.1) = kerase k (l.filter fun e => keep e.1) := by
  induction l with
  | nil => rfl
  | cons e l ih =>
    by_cases hk : k = e.1
    · rw [kerase_cons_eq hk]
      by_cases hkeep : keep e.1 = true
      · rw [filter_cons_of_pos (by simpa using hkeep), kerase_cons_eq hk]
      · rw [filter_cons_of_neg (by simpa using hkeep)]
        symm
        apply kerase_of_notMem_keys
        intro hmem
        obtain ⟨e', he', hke'⟩ := mem_map.mp hmem
        have hkeep' : keep e'.1 = true := by simpa using (mem_filter.mp he').2
        exact hkeep (by rw [← hk, ← hke']; exact hkeep')
    · rw [kerase_cons_ne hk]
      by_cases hkeep : keep e.1 = true
      · rw [filter_cons_of_pos (by simpa using hkeep),
          filter_cons_of_pos (by simpa using hkeep), kerase_cons_ne hk, ih]
      · rw [filter_cons_of_neg (by simpa using hkeep),
          filter_cons_of_neg (by simpa using hkeep), ih]

theorem retain_key_erase (k : κ) (s : Store κ ν) :
    retain (fun k' _ => keep k') (s.erase k) = (retain (fun k' _ => keep k') s).erase k :=
  ext (filter_kerase keep k s.entries)

theorem retain_key_insert (hk : keep k = true) (v : ν) (s : Store κ ν) :
    retain (fun k' _ => keep k') (s.insert k v) = (retain (fun k' _ => keep k') s).insert k v := by
  apply ext
  rw [entries_retain, entries_insert, filter_cons_of_pos (by simpa using hk), filter_kerase]
  rfl

theorem retain_key_insert_of_neg (hk : keep k = false) (v : ν) (s : Store κ ν) :
    retain (fun k' _ => keep k') (s.insert k v) = retain (fun k' _ => keep k') s := by
  apply ext
  rw [entries_retain, entries_insert, filter_cons_of_neg (by simp [hk]),
    filter_kerase]
  apply kerase_of_notMem_keys
  intro hmem
  obtain ⟨e, he, hke⟩ := mem_map.mp hmem
  have hkeep : keep e.1 = true := by simpa using (mem_filter.mp he).2
  simp [hke, hk] at hkeep

theorem retain_key_erase_of_neg (hk : keep k = false) (s : Store κ ν) :
    retain (fun k' _ => keep k') (s.erase k) = retain (fun k' _ => keep k') s := by
  rw [retain_key_erase]
  apply erase_of_lookup_eq_none
  rw [lookup_retain]
  cases s.lookup k with
  | none => rfl
  | some v => simp [Option.filter, hk]

/-! ## Weights -/

theorem weigh_erase_le (k : κ) (s : Store κ ν) : weigh weight (s.erase k) ≤ weigh weight s :=
  ((kerase_sublist k s.entries).map _).sum_le_sum (by simp)

@[simp] theorem weigh_insert (k : κ) (v : ν) (s : Store κ ν) :
    weigh weight (s.insert k v) = weight k v + weigh weight (s.erase k) := by
  rfl

theorem weigh_eq_add_weigh_erase (h : s.lookup k = some v) :
    weigh weight s = weight k v + weigh weight (s.erase k) := by
  have hmem : ⟨k, v⟩ ∈ s.entries := lookup_eq_some.mp h
  obtain ⟨v', l₁, l₂, -, hentries, hkerase⟩ :=
    exists_of_kerase (mem_map.mpr ⟨_, hmem, rfl⟩)
  have hv : v' = v := by
    apply s.nodupKeys.eq_of_mk_mem _ hmem
    rw [hentries]
    simp
  subst v'
  have herase : (s.erase k).entries = l₁ ++ l₂ := hkerase
  rw [weigh, weigh, hentries, herase]
  simp only [map_append, map_cons, sum_append, sum_cons]
  omega

theorem lookup_of_insert {k' : κ} {w : ν} (h : (s.insert k v).lookup k' = some w) :
    w = v ∨ s.lookup k' = some w := by
  by_cases hk : k' = k
  · subst hk
    rw [lookup_insert] at h
    exact .inl (Option.some.inj h).symm
  · rw [lookup_insert_ne hk] at h
    exact .inr h

theorem lookup_of_erase {k' : κ} {w : ν} (h : (s.erase k).lookup k' = some w) :
    s.lookup k' = some w := by
  by_cases hk : k' = k
  · subst hk
    rw [lookup_erase] at h
    cases h
  · rwa [lookup_erase_ne hk] at h

/-! ## Stores of lists -/

/-- The pairs as a store, in which a later pair replaces an earlier one with its key. -/
def ofList (pairs : List (κ × ν)) : Store κ ν :=
  pairs.foldl (fun store pair => store.insert pair.1 pair.2) ∅

variable (pairs : List (κ × ν))

theorem ofList_concat (pair : κ × ν) :
    ofList (pairs ++ [pair]) = (ofList pairs).insert pair.1 pair.2 := by
  simp [ofList]

theorem lookup_ofList (k : κ) :
    (ofList pairs).lookup k = (pairs.reverse.find? (·.1 = k)).map (·.2) := by
  induction pairs using reverseRecOn with
  | nil => rfl
  | append_singleton pairs pair ih =>
    rw [ofList_concat]
    by_cases hk : pair.1 = k
    · subst hk
      simp
    · rw [lookup_insert_ne (Ne.symm hk), ih]
      simp [hk]

/-- Of the values with a key, the last one with this key is found. -/
theorem lookup_ofList_filterMap (key : ν → Option κ) (values : List ν) (k : κ) :
    (ofList (values.filterMap fun v => (key v).map fun k' => (k', v))).lookup k =
      values.reverse.find? (key · = some k) := by
  rw [lookup_ofList, ← filterMap_reverse, find?_filterMap]
  have hkey : ∀ v, ((key v).map fun k' => (k', v)).any (·.1 = k) = decide (key v = some k) := by
    intro v
    cases key v <;> simp
  simp only [hkey]
  cases hfound : values.reverse.find? (key · = some k) with
  | none => rfl
  | some v =>
    have hv : key v = some k := by simpa using find?_some hfound
    simp [hv]

def mapValues {ξ : Type*} (f : ν → ξ) (s : Store κ ν) : Store κ ξ :=
  ⟨s.entries.map fun e => ⟨e.1, f e.2⟩, by
    have hkeys := s.nodupKeys
    rw [List.NodupKeys] at hkeys ⊢
    rw [List.keys, List.map_map]
    exact hkeys⟩

omit [DecidableEq κ] in
@[simp] theorem entries_mapValues (f : ν → ξ) (s : Store κ ν) :
    (mapValues f s).entries = s.entries.map fun e => ⟨e.1, f e.2⟩ := rfl

theorem mapValues_insert (f : ν → ξ) (s : Store κ ν) (k : κ) (v : ν) :
    mapValues f (s.insert k v) = (mapValues f s).insert k (f v) := by
  apply ext
  have herased : ∀ entries : List (Sigma fun _ : κ => ν),
      (kerase k entries).map (fun e => (⟨e.1, f e.2⟩ : Sigma fun _ : κ => ξ)) =
        kerase k (entries.map fun e => ⟨e.1, f e.2⟩) := by
    intro entries
    induction entries with
    | nil => rfl
    | cons e entries ih =>
      by_cases hk : k = e.1
      · simp [hk]
      · simp [hk, ih]
  simp [entries_insert, herased]

theorem ofList_map (f : ν → ξ) (pairs : List (κ × ν)) :
    ofList (pairs.map fun pair => (pair.1, f pair.2)) = mapValues f (ofList pairs) := by
  induction pairs using reverseRecOn with
  | nil => rfl
  | append_singleton pairs pair ih =>
    simp only [map_append, map_cons, map_nil]
    rw [ofList_concat, ofList_concat, ih, mapValues_insert]

theorem find?_entries_reverse (s : Store κ ν) (k : κ) :
    (s.entries.reverse.find? (·.1 = k)).map (·.2) = s.lookup k := by
  cases hfound : s.entries.reverse.find? (·.1 = k) with
  | none =>
    rw [find?_eq_none] at hfound
    cases hlookup : s.lookup k with
    | none => rfl
    | some v =>
      have hmem := mem_reverse.mpr (lookup_eq_some.mp hlookup)
      exact absurd (hfound _ hmem) (by simp)
  | some e =>
    obtain ⟨k', v⟩ := e
    have hk : k' = k := by simpa using find?_some hfound
    subst hk
    have hmem := mem_reverse.mp (mem_of_find?_eq_some hfound)
    exact (lookup_eq_some.mpr hmem).symm

end Store

end SdkInternal.Shared
