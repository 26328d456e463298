import Mathlib
import SdkInternal.Shared.KeyedStore
import SdkInternal.Shared.Run

/-! # Migrations of the databases

A database is opened with the list of all migration steps. SQLite performs every step on every
open. IndexedDB performs every step when the number of steps exceeds the stored version. -/

namespace SdkInternal.State

open Shared

/-- Letters and underscores only. -/
def validateRegistryName (name : String) : Bool :=
  name.toList.all fun c => c.isAlpha || c == '_'

/-- The name is checked when a type is registered. -/
structure RepositoryItemData where
  name : String
  valid : validateRegistryName name = true
  deriving DecidableEq

/-- The name that stands for all names that differ from it in the case of letters only. -/
def RepositoryItemData.foldCase (data : RepositoryItemData) : RepositoryItemData where
  name := String.ofList (data.name.toList.map Char.toLower)
  valid := by
    have hvalid := data.valid
    simp only [validateRegistryName, List.all_eq_true, Bool.or_eq_true, beq_iff_eq,
      String.toList_ofList, List.forall_mem_map, Char.isAlpha_toLower_eq_isAlpha] at hvalid ⊢
    refine fun c hc => (hvalid c hc).imp id ?_
    rintro rfl
    rfl

inductive RepositoryMigrationStep where
  | add (data : RepositoryItemData)
  | remove (data : RepositoryItemData)
  deriving DecidableEq

namespace RepositoryMigrationStep

def data : RepositoryMigrationStep → RepositoryItemData
  | .add data => data
  | .remove data => data

def foldCase : RepositoryMigrationStep → RepositoryMigrationStep
  | .add data => .add data.foldCase
  | .remove data => .remove data.foldCase

end RepositoryMigrationStep

/-- The version is the number of steps. -/
structure RepositoryMigrations where
  steps : List RepositoryMigrationStep
  version : ℕ

def RepositoryMigrations.new (steps : List RepositoryMigrationStep) : RepositoryMigrations where
  steps
  version := steps.length

section Backends

/-- The items of one store by their keys, with their serialised values. -/
abbrev Table := Store String String

abbrev Tables := Store RepositoryItemData Table

/-! ## SQLite -/

def validateIdentifier (data : RepositoryItemData) : Option RepositoryItemData :=
  if validateRegistryName data.name then some data else none

/-- SQLite does not look at the case of a table's name. -/
def sqliteTable (data : RepositoryItemData) : Option RepositoryItemData :=
  (validateIdentifier data).map (·.foldCase)

/-- `CREATE TABLE IF NOT EXISTS` and `DROP TABLE IF EXISTS`. -/
def sqliteStep (tables : Tables) : RepositoryMigrationStep → Option Tables
  | .add data => do
    let data ← sqliteTable data
    return if (tables.lookup data).isSome then tables else tables.insert data ∅
  | .remove data => do
    let data ← sqliteTable data
    return tables.erase data

/-- `none` leaves the transaction uncommitted. -/
def initializeInternal (tables : Tables) (migrations : RepositoryMigrations) : Option Tables :=
  run sqliteStep tables migrations.steps

/-! ## IndexedDB -/

structure IndexedDb where
  version : ℕ
  stores : Tables

/-- A store that exists cannot be created. One that does not exist may be deleted. -/
def indexedDbStep (stores : Tables) : RepositoryMigrationStep → Option Tables
  | .add data => if (stores.lookup data).isSome then none else some (stores.insert data ∅)
  | .remove data => some (stores.erase data)

/-- The callback runs if the requested version is greater than the stored one. Opening with a
smaller version fails, and so does opening with version 0. -/
def initializeIndexedDb (db : IndexedDb) (migrations : RepositoryMigrations) : Option IndexedDb :=
  if migrations.version = 0 ∨ migrations.version < db.version then none
  else if db.version < migrations.version then do
    let stores ← run indexedDbStep db.stores migrations.steps
    return { version := migrations.version, stores }
  else some db

end Backends

/-! ## The migrations of the SDK -/

def cipherItem : RepositoryItemData := ⟨"Cipher", by simp [validateRegistryName]⟩

def folderItem : RepositoryItemData := ⟨"Folder", by simp [validateRegistryName]⟩

def getSdkManagedMigrations : RepositoryMigrations :=
  .new
    [ .add cipherItem
    , .add folderItem
    , .add ⟨"Setting", by simp [validateRegistryName]⟩
    , .add ⟨"OrganizationSharedKey", by simp [validateRegistryName]⟩
    , .add ⟨"Send", by simp [validateRegistryName]⟩
    , .add ⟨"Policy", by simp [validateRegistryName]⟩
    , .add ⟨"ProfileOrganization", by simp [validateRegistryName]⟩ ]

end SdkInternal.State
