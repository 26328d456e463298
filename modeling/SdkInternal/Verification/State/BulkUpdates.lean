import SdkInternal.Model.State.Repository
import SdkInternal.Verification.State.Migrations

/-! # Bulk updates that fail

A transaction that fails has no effect. The memory backend keeps what it did before a value was not
serialised, and replacing all items is two updates. -/

namespace SdkInternal.State

open Shared Stateful SqliteDatabase Option AList

variable {data : RepositoryItemData} {V : Type} {serialize : V → Option String}
  {values : List (String × V)} {changes : Changes}

def held (tables : Tables) (data : RepositoryItemData) (key : String) : Option String :=
  ((tables.lookup data).getD ∅).lookup key

/-- A call that fails leaves what the database holds. -/
def AllOrNothing (call : Database.M) : Prop :=
  ∀ db, call.Post db (Continues (fun _ _ => True) fun _ after => after.map held = db.map held)

@[simp] theorem forall_mem_insertions_iff :
    (∀ change ∈ insertions serialize values, change.isSome) ↔
      ∀ item ∈ values, (serialize item.2).isSome := by
  simp only [insertions, List.forall_mem_map, isSome_map]

@[simp] theorem held_insert (tables : Tables) (table : Table) (key : String) :
    held (tables.insert data table) data key = table.lookup key := by
  simp [held]

theorem held_insert_of_eq {tables : Tables} {table : Table}
    (h : (tables.lookup data).getD ∅ = table) : held (tables.insert data table) = held tables := by
  funext other key
  by_cases hother : other = data
  · rw [hother, held_insert, ← h, held]
  · simp [held, hother]

namespace MemoryDatabase

open Classical in
theorem fst_applyAll (table : Table) : (applyAll changes table).1 =
    if ∀ change ∈ changes, change.isSome then .ok () else .error .serialization := by
  fun_induction applyAll changes table with
  | case1 | case2 => simp
  | case3 _ _ _ ih => simp [ih]

theorem isSome_lookup_applyAll {table : Table} {key : String} (h : (table.lookup key).isSome) :
    ((applyAll (insertions serialize values) table).2.lookup key).isSome := by
  induction values generalizing table with
  | nil => exact h
  | cons item values ih =>
    cases hjson : serialize item.2 with
    | none => simpa [insertions, applyAll, hjson] using h
    | some json =>
      simp only [insertions, List.map_cons, hjson, map_some, applyAll]
      apply ih
      by_cases hkey : key = item.1
      · rw [hkey, lookup_insert]
        rfl
      · rwa [lookup_insert_ne hkey]

theorem setBulk_allOrNothing_iff : AllOrNothing (setBulk data serialize values) ↔
    ∀ first ∈ values.head?, (serialize first.2).isSome →
      ∀ item ∈ values, (serialize item.2).isSome := by
  have hresult (table : Table) : (applyAll (insertions serialize values) table).1 = _ :=
    fst_applyAll table
  simp only [forall_mem_insertions_iff] at hresult
  constructor
  · intro hall first hfirst hsome
    by_contra hfails
    have hfailed := hall (some ∅)
    obtain ⟨values, rfl⟩ := List.head?_eq_some_iff.mp hfirst
    obtain ⟨json, hjson⟩ := isSome_iff_exists.mp hsome
    simp only [Post, setBulk, withStoreMut, focus, hresult] at hfailed
    rw [if_neg hfails] at hfailed
    have hlookup := congrFun (congrFun (some.inj hfailed) data) first.1
    simp only [held_insert, insertions, List.map_cons, hjson, map_some, applyAll] at hlookup
    have hkept : (held ∅ data first.1).isSome := by
      rw [← hlookup]
      exact isSome_lookup_applyAll (by rw [lookup_insert]; rfl)
    cases hkept
  · rintro hcond (_ | store)
    · rfl
    · simp only [Post, setBulk, withStoreMut, focus, hresult]
      split_ifs with hall
      · trivial
      · cases values with
        | nil => simp at hall
        | cons first values =>
          cases hjson : serialize first.2 with
          | none =>
            simp only [continues_error, insertions, List.map_cons, hjson, map_none, applyAll,
              map_some, held_insert_of_eq]
          | some json =>
            exact absurd (hcond first rfl (by rw [hjson]; rfl)) hall

theorem replaceAll_allOrNothing_iff :
    AllOrNothing (replaceAll (removeAll data) (setBulk data serialize values)) ↔
      ∀ item ∈ values, (serialize item.2).isSome := by
  have hresult : (applyAll (insertions serialize values) ∅).1 = _ := fst_applyAll ∅
  simp only [forall_mem_insertions_iff] at hresult
  simp only [AllOrNothing, replaceAll, post_bind]
  simp only [Post, removeAll, setBulk]
  constructor
  · intro hall
    by_contra hfails
    rw [if_neg hfails] at hresult
    -- what is left does not depend on what was there
    have hleft (store : Tables) :
        (applyAll (insertions serialize values) ∅).2.lookup "" = held store data "" := by
      have hfailed := hall (some store)
      simp only [withStoreMut, continues_ok, focus, lookup_erase, getD_none, hresult,
        continues_error, map_some, some.injEq] at hfailed
      rw [← hfailed, held_insert]
    have hempty := hleft ∅
    rw [hleft ((∅ : Tables).insert data ((∅ : Table).insert "" "")), held_insert] at hempty
    cases hempty
  · rintro hall (_ | store)
    · rfl
    · rw [if_pos hall] at hresult
      simp only [withStoreMut, continues_ok, focus, lookup_erase, getD_none, hresult]

end MemoryDatabase

theorem withTx_allOrNothing (tx : Transaction) (f : Tables → Except DatabaseError Tables) :
    AllOrNothing (withTx tx f) := by
  rintro (_ | tables)
  · rfl
  · simp only [Post, withTx]
    split
    · rfl
    · split_ifs <;> trivial

/-- SQLite performs all of a bulk update or nothing, and memory does so if no value is stored before
one that is not serialised. Replacing all items in memory is all or nothing if every value is
serialised, and on SQLite it never is. -/
theorem bulkUpdates_allOrNothing (data : RepositoryItemData) (serialize : V → Option String)
    (values : List (String × V)) (keys : List String) :
    (AllOrNothing (MemoryDatabase.setBulk data serialize values) ↔
      ∀ first ∈ values.head?, (serialize first.2).isSome →
        ∀ item ∈ values, (serialize item.2).isSome) ∧
    AllOrNothing (MemoryDatabase.removeBulk data keys) ∧
    (AllOrNothing (replaceAll (MemoryDatabase.removeAll data)
        (MemoryDatabase.setBulk data serialize values)) ↔
      ∀ item ∈ values, (serialize item.2).isSome) ∧
    (∀ tx, AllOrNothing (setBulk data serialize tx values)) ∧
    (∀ tx, AllOrNothing (removeBulk data tx keys)) ∧
    ¬∀ removing setting, AllOrNothing (replaceAll (removeAll data removing)
      (setBulk data serialize setting values)) := by
  refine ⟨MemoryDatabase.setBulk_allOrNothing_iff, ?_, MemoryDatabase.replaceAll_allOrNothing_iff,
    fun _ => withTx_allOrNothing _ _, fun _ => withTx_allOrNothing _ _, ?_⟩
  · rintro (_ | store)
    · rfl
    · simp only [Post, MemoryDatabase.removeBulk, MemoryDatabase.withStoreMut]
      split
      · trivial
      · rw [MemoryDatabase.fst_applyAll, if_pos (by simp [removals])]
        trivial
  · intro hall
    -- the items are removed, and then the second transaction does not begin
    have hfailed := hall ⟨true, fun _ => true, true⟩ ⟨false, fun _ => true, true⟩
      (some ((∅ : Tables).insert data.foldCase ((∅ : Table).insert "" "")))
    rw [replaceAll, post_bind] at hfailed
    simp only [Post, removeAll, setBulk, withTx, executeAll, sqliteTable_eq, if_true, bind_some,
      lookup_insert, continues_ok, Bool.false_eq_true, if_false, continues_error, map_some,
      some.injEq] at hfailed
    have hlost := congrFun (congrFun hfailed data.foldCase) ""
    rw [held_insert, held_insert] at hlost
    cases hlost

/-- The first value is stored although the second is not serialised, and a store is emptied when
the new items are not committed. -/
theorem failedUpdates_changeStores :
    (∃ after, MemoryDatabase.setBulk cipherItem id [("a", some "1"), ("b", none)] (some ∅) =
        (.error .serialization, some after) ∧
      held ∅ cipherItem "a" = none ∧ held after cipherItem "a" = some "1") ∧
    ∃ after, replaceAll (removeAll cipherItem ⟨true, fun _ => true, true⟩)
        (setBulk cipherItem some ⟨true, fun _ => true, false⟩ [("b", "2")])
        (some (filledTables cipherItem.foldCase)) = (.error .internal, some after) ∧
      held (filledTables cipherItem.foldCase) cipherItem.foldCase "key" = some "value" ∧
      held after cipherItem.foldCase "key" = none :=
  ⟨⟨_, rfl, rfl, rfl⟩, _, rfl, rfl, rfl⟩

end SdkInternal.State
