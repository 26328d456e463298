import SdkInternal.Model.State.Migrations
import SdkInternal.Shared.Stateful

/-! # Bulk updates of a repository

The memory backend changes its map in place. SQLite performs each call in a transaction, which has
no effect unless it is committed. -/

namespace SdkInternal.State

open Shared

inductive DatabaseError where
  | serialization
  | internal
  | closed

abbrev Database := Option Tables

abbrev Database.M := Stateful Database DatabaseError Unit

/-- What a call does to a map, step by step. A value that is not serialised stops it. -/
abbrev Changes := List (Option (Table → Table))

def insertions {V : Type} (serialize : V → Option String) (values : List (String × V)) : Changes :=
  values.map fun (key, value) => (serialize value).map fun json table => table.insert key json

def removals (keys : List String) : Changes := keys.map fun key => some fun table => table.erase key

variable (data : RepositoryItemData) {V : Type} (serialize : V → Option String)

namespace MemoryDatabase

def withStoreMut (f : Stateful Tables DatabaseError Unit) : Database.M
  | none => (.error .closed, none)
  | some store => ((f store).1, some (f store).2)

def applyAll : Changes → Stateful Table DatabaseError Unit
  | [], typeMap => (.ok (), typeMap)
  | none :: _, typeMap => (.error .serialization, typeMap)
  | some change :: changes, typeMap => applyAll changes (change typeMap)

def setBulk (values : List (String × V)) : Database.M :=
  withStoreMut (.focus (fun store => (store.lookup data).getD ∅)
    (fun typeMap store => store.insert data typeMap) (applyAll (insertions serialize values)))

def removeBulk (keys : List String) : Database.M :=
  withStoreMut fun store =>
    match store.lookup data with
    | none => (.ok (), store)
    | some typeMap =>
      ((applyAll (removals keys) typeMap).1,
        store.insert data (applyAll (removals keys) typeMap).2)

def removeAll : Database.M := withStoreMut fun store => (.ok (), store.erase data)

end MemoryDatabase

/-- The parts of a transaction that do not fail. -/
structure Transaction where
  begins : Bool
  executes : ℕ → Bool
  commits : Bool

namespace SqliteDatabase

variable (tx : Transaction)

def withTx (f : Tables → Except DatabaseError Tables) : Database.M
  | none => (.error .closed, none)
  | some tables =>
    match if tx.begins then f tables else .error .internal with
    | .error error => (.error error, some tables)
    | .ok after =>
      if tx.commits then (.ok (), some after) else (.error .internal, some tables)

/-- One statement for each change, from the one with number `n`. -/
def executeAll : ℕ → Changes → Tables → Except DatabaseError Tables
  | _, [], tables => .ok tables
  | _, none :: _, _ => .error .serialization
  | n, some change :: changes, tables =>
    match (sqliteTable data).bind (tables.lookup ·) with
    | some table =>
      if tx.executes n then executeAll (n + 1) changes (tables.insert data.foldCase (change table))
      else .error .internal
    | none => .error .internal

def setBulk (values : List (String × V)) : Database.M :=
  withTx tx (executeAll data tx 0 (insertions serialize values))

def removeBulk (keys : List String) : Database.M :=
  withTx tx (executeAll data tx 0 (removals keys))

def removeAll : Database.M := withTx tx (executeAll data tx 0 [some fun _ => ∅])

end SqliteDatabase

/-- `Repository::replace_all`. -/
def replaceAll (removeAll setBulk : Database.M) : Database.M := do
  removeAll
  setBulk

end SdkInternal.State
