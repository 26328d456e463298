import SdkInternal.Model.KeyManagement.Client

/-! # The key of the local data

The key of the local data is stored under the key of the user. At first it is the key of the user
itself. When the key of the user is upgraded, the stored key is wrapped again. -/

namespace SdkInternal.KeyManagement

open Crypto Shared

structure WrappingCrypto (T : CryptoTypes) extends
    KeyWriter T.EncString T.SymmetricKey T.Random where
  /-- `EncString::Aes256Cbc_HmacSha256_B64`. -/
  isAes256CbcHmacSha256 : T.EncString → Bool

inductive EncryptionSettingsError where
  | crypto (error : CryptoError)
  | cryptoInitialization
  | missingPrivateKey
  | userIdAlreadySet
  | wrongPin
  | pinUnlockNotAvailable
  | userKeyStateUpdateFailed
  | userKeyStateRetrievalFailed
  | invalidUpgradeToken
  | keyConnectorRetrievalFailed
  | localUserDataKeyInitFailed
  | localUserDataKeyLoadFailed
  | localUserDataMigrationFailed

inductive LocalUserDataKeyError where
  | decryptionFailed
  | encryptionFailed

structure InitLocalUserDataKeyError where

structure MigrateLocalUserDataKeyForUserKeyUpgradeError where

structure UnableToGetError where

section

variable {T : CryptoTypes} (crypto : WrappingCrypto T)

/-! ## Wrapped keys -/

namespace WrappedLocalUserDataKey

variable (userKey : Option T.SymmetricKey)

def fromContextUserKey : StateT T.Random (Except LocalUserDataKeyError) T.EncString :=
  match userKey with
  | none => throw .encryptionFailed
  | some key => translateError (fun _ => .encryptionFailed) (crypto.wrapSymmetricKey key key)

def rewrapWithUserKey (wrapped : T.EncString) (oldWrappingKey userKey : T.SymmetricKey) :
    StateT T.Random (Except LocalUserDataKeyError) T.EncString := do
  let localKey ← (crypto.unwrapSymmetricKey oldWrappingKey wrapped).mapError
    fun _ => LocalUserDataKeyError.decryptionFailed
  translateError (fun _ => .encryptionFailed) (crypto.wrapSymmetricKey userKey localKey)

def unwrap (wrapped : T.EncString) : Except LocalUserDataKeyError T.SymmetricKey :=
  match userKey with
  | none => .error .decryptionFailed
  | some key => (crypto.unwrapSymmetricKey key wrapped).mapError fun _ => .decryptionFailed

end WrappedLocalUserDataKey

/-! ## The stored key -/

def draw {ε α : Type} (m : StateT T.Random (Except ε) α) : Stateful (LocalDataStore T) ε α :=
  .zoom (·.random) (fun random store => { store with random }) m

section

variable (userKey : Option T.SymmetricKey) (access : RepositoryAccess)

/-- A key is stored if none is. A read that fails counts as none. -/
def initializeLocalUserDataKeyIntoState :
    Stateful (LocalDataStore T) InitLocalUserDataKeyError Unit := do
  access.acquire ⟨⟩
  let store ← get
  if access.readable && store.localUserDataKey.isSome then
    return
  else
    let wrapped ← draw (translateError (fun _ => InitLocalUserDataKeyError.mk)
      (WrappedLocalUserDataKey.fromContextUserKey crypto userKey))
    access.set ⟨⟩ wrapped

variable (token : V2UpgradeToken T.EncString)

/-- The stored key is wrapped again, if the token has the key that wraps it. -/
def rewrapStoredKey (wrappedKey : T.EncString) :
    Stateful (LocalDataStore T) MigrateLocalUserDataKeyForUserKeyUpgradeError Unit :=
  match userKey.map fun key => (key, token.unwrapV1 crypto.toKeyReader key) with
  | some (key, .ok v1UserKey) => do
    let rewrapped ← draw (translateError
      (fun _ => MigrateLocalUserDataKeyForUserKeyUpgradeError.mk)
      (WrappedLocalUserDataKey.rewrapWithUserKey crypto wrappedKey v1UserKey key))
    access.set ⟨⟩ rewrapped
  | _ => return

def migrateWithToken :
    Stateful (LocalDataStore T) MigrateLocalUserDataKeyForUserKeyUpgradeError Unit := do
  access.acquire ⟨⟩
  match ← access.get ⟨⟩ with
  | none => return
  | some wrappedKey =>
    if crypto.isAes256CbcHmacSha256 wrappedKey then
      rewrapStoredKey crypto userKey access token wrappedKey
    else
      return

/-- `token` is absent if there is none, or if no bridge is registered. -/
def migrateLocalUserDataKeyForUserKeyUpgrade (token : Option (V2UpgradeToken T.EncString))
    (access : RepositoryAccess) :
    Stateful (LocalDataStore T) MigrateLocalUserDataKeyForUserKeyUpgradeError Unit :=
  match token with
  | none => return
  | some token => migrateWithToken crypto userKey access token

end

def getLocalUserDataKeyFromState (access : RepositoryAccess) :
    Stateful (LocalDataStore T) UnableToGetError T.EncString := do
  access.acquire ⟨⟩
  .require ⟨⟩ (← access.get ⟨⟩)

/-- The calls to the repository that the three steps of one unlock make. -/
structure LocalUserDataAccess where
  migration : RepositoryAccess
  creation : RepositoryAccess
  loading : RepositoryAccess

variable (access : LocalUserDataAccess)

def localDataKeyFor (userId : Option UserId) (token : Option (V2UpgradeToken T.EncString))
    (userKey : Option T.SymmetricKey) :
    Stateful (LocalDataStore T) EncryptionSettingsError T.SymmetricKey := do
  let _ ← .require .localUserDataKeyInitFailed userId
  (migrateLocalUserDataKeyForUserKeyUpgrade crypto userKey token access.migration).mapError
    fun _ => .localUserDataMigrationFailed
  (initializeLocalUserDataKeyIntoState crypto userKey access.creation).mapError
    fun _ => .localUserDataKeyInitFailed
  let wrappedKey ← (getLocalUserDataKeyFromState access.loading).mapError
    fun _ => .localUserDataKeyLoadFailed
  .ofExcept ((WrappedLocalUserDataKey.unwrap crypto userKey wrappedKey).mapError
    fun _ => .localUserDataKeyLoadFailed)

def Client.upgradeToken (client : Client T) : Option (V2UpgradeToken T.EncString) :=
  client.bridge.bind (·.v2UpgradeToken)

def initializeUserLocalDataKey :
    Stateful (Client T) EncryptionSettingsError Unit := do
  let client ← get
  let localKey ← .focus (fun client => ⟨client.localUserDataKey, client.random⟩)
    (fun store client =>
      { client with localUserDataKey := store.localUserDataKey, random := store.random })
    (localDataKeyFor crypto access client.userId client.upgradeToken (client.symmetricKeys .user))
  setSymmetricKey .localUserData (some localKey)

end

end SdkInternal.KeyManagement
