import SdkInternal.Model.KeyManagement.PinLockSystem

/-! # Unlocking a client

The key of the user comes from one of several methods. It is installed together with the keys of the
account, and steps that may fail follow: loading the key of the local data, and with a session key
the keys of the organizations. -/

namespace SdkInternal.KeyManagement

open Crypto Shared

structure UnlockCrypto (T : CryptoTypes) extends PinCrypto T where
  unwrapPrivateKey : T.SymmetricKey → T.EncString → Except CryptoError T.PrivateKey
  unwrapSigningKey : T.SymmetricKey → T.EncString → Except CryptoError T.SigningKey
  /-- Whether the public key is signed by the signing key. -/
  verifiesPublicKey : T.SigningKey → T.SignedPublicKey → Bool
  verifySecurityState : T.SigningKey → T.SignedSecurityState → Option T.SecurityState
  securityVersion : T.SecurityState → ℕ
  decapsulate : T.PrivateKey → T.SharedKey → Except CryptoError T.SymmetricKey
  /-- Opens an envelope of the namespace for session keys. -/
  unsealWithSessionKey : T.SymmetricKey → T.SymmetricKeyEnvelope → Option T.SymmetricKey

inductive WrappedAccountCryptographicState (T : CryptoTypes) where
  | v1 (privateKey : T.EncString)
  | v2 (privateKey : T.EncString) (signedPublicKey : T.SignedPublicKey) (signingKey : T.EncString)
      (securityState : T.SignedSecurityState)

inductive AccountCryptographyInitializationError where
  | wrongUserKeyType
  | wrongUserKey
  | tamperedData
  | genericCrypto (error : CryptoError)

/-- How the key of the user is obtained. The methods that decrypt it with what the request and a
key connector have are given by what this yields. -/
inductive InitUserCryptoMethod (T : CryptoTypes) where
  | masterPasswordUnlock (userKey : Except CryptoError T.SymmetricKey)
  | clientManagedState
  | decryptedKey (userKey : Except CryptoError T.SymmetricKey)
  | pin (userKey : Except CryptoError T.SymmetricKey)
  | pinState (pin : String)
  | pinEnvelope (pin : String) (envelope : T.PinEnvelope)
  | authRequest (userKey : Except CryptoError T.SymmetricKey)
  | deviceKey (userKey : Except CryptoError T.SymmetricKey)
  | keyConnector (userKey : Except CryptoError T.SymmetricKey)
  /-- Without a response the retrieval failed. -/
  | keyConnectorUrl (response : Option (Except CryptoError T.SymmetricKey))

structure InitUserCryptoRequest (T : CryptoTypes) where
  userId : Option UserId
  accountCryptographicState : WrappedAccountCryptographicState T
  method : InitUserCryptoMethod T
  upgradeToken : Option (V2UpgradeToken T.EncString)

/-- Whether the crate is built for WASM, and what happens to the calls to the repository. -/
structure UnlockEnvironment where
  wasm : Bool
  access : LocalUserDataAccess

section

variable {T : CryptoTypes} (crypto : UnlockCrypto T)

/-! ## Installing keys -/

variable {ε : Type}

def persistPrivateKey (privateKey : T.PrivateKey) : Stateful (Client T) ε Unit :=
  modify fun client => { client with userPrivateKey := some privateKey }

def persistSigningKey (signingKey : T.SigningKey) : Stateful (Client T) ε Unit :=
  modify fun client => { client with userSigningKey := some signingKey }

def setSecurityState (securityState : T.SecurityState) : Stateful (Client T) ε Unit := do
  modify fun client => { client with securityStateVersion := crypto.securityVersion securityState }
  modify fun client => { client with securityState := some securityState }

def checkUserKeyType (expected : SymmetricKeyAlgorithm) (userKey : T.SymmetricKey) :
    Except AccountCryptographyInitializationError Unit := do
  let algorithm ← (crypto.algorithm userKey).mapError
    AccountCryptographyInitializationError.genericCrypto
  ensure (algorithm = expected) .wrongUserKeyType

/-- A private key of the first version that cannot be read is left out. -/
def persistReadablePrivateKey (userKey : T.SymmetricKey) (privateKey : T.EncString) :
    Stateful (Client T) ε Unit :=
  match crypto.unwrapPrivateKey userKey privateKey with
  | .ok privateKey => persistPrivateKey privateKey
  | .error _ => return

def setToContext (state : WrappedAccountCryptographicState T) (userKey : T.SymmetricKey) :
    Stateful (Client T) AccountCryptographyInitializationError Unit :=
  match state with
  | .v1 privateKey => do
    .ofExcept (checkUserKeyType crypto .aes256CbcHmac userKey)
    persistReadablePrivateKey crypto userKey privateKey
    setSymmetricKey .user (some userKey)
  | .v2 privateKey signedPublicKey signingKey securityState => do
    .ofExcept (checkUserKeyType crypto .xAes256Gcm userKey)
    let privateKey ← .ofExcept ((crypto.unwrapPrivateKey userKey privateKey).mapError
      fun _ => AccountCryptographyInitializationError.wrongUserKey)
    let signingKey ← .ofExcept ((crypto.unwrapSigningKey userKey signingKey).mapError
      fun _ => AccountCryptographyInitializationError.wrongUserKey)
    .ofExcept (ensure (crypto.verifiesPublicKey signingKey signedPublicKey = true) .tamperedData)
    let securityState ← .require .tamperedData (crypto.verifySecurityState signingKey securityState)
    persistPrivateKey privateKey
    persistSigningKey signingKey
    setSymmetricKey .user (some userKey)
    setSecurityState crypto securityState

def upgradeUserKey (upgradeToken : Option (V2UpgradeToken T.EncString)) (userKey : T.SymmetricKey) :
    Except EncryptionSettingsError T.SymmetricKey :=
  match crypto.algorithm userKey, upgradeToken with
  | .ok .aes256CbcHmac, some token =>
    (token.unwrapV2 crypto.toKeyReader userKey).mapError fun _ => .invalidUpgradeToken
  | _, _ => .ok userKey

def ClientKeys.hasUserKeys (keys : ClientKeys T) : Bool :=
  (keys.symmetricKeys .user).isSome || keys.userPrivateKey.isSome || keys.userSigningKey.isSome

def initializeUserCryptoDecryptedKey (userKey : T.SymmetricKey)
    (accountCryptoState : WrappedAccountCryptographicState T)
    (upgradeToken : Option (V2UpgradeToken T.EncString)) :
    Stateful (Client T) EncryptionSettingsError Unit := do
  let userKey ← .ofExcept (upgradeUserKey crypto upgradeToken userKey)
  let client ← get
  .ofExcept (ensure (client.toClientKeys.hasUserKeys = false) .cryptoInitialization)
  (setToContext crypto accountCryptoState userKey).mapError fun _ => .cryptoInitialization

/-! ## Methods -/

abbrev UnlockM (T : CryptoTypes) := Stateful (Client T) (Stop EncryptionSettingsError)

/-- The bridge. Using it panics if none is registered. -/
def registeredBridge : UnlockM T (StateBridge T) := do
  .require .panicked (← get).bridge

/-- The key of the envelope is put into the slot of the user. -/
def PinLockSystem.unlock (bridge : StateBridge T) (pin : String) :
    Stateful (Client T) UnlockError Unit := do
  let envelope ← .require .noPinSet (getActivePinEnvelope bridge)
  match crypto.unsealPin envelope pin with
  | .error .wrongPassword => throw .pinWrong
  | .error .other => throw .internalError
  | .ok key => setSymmetricKey .user (some key)

def pinUnlockError : UnlockError → Stop EncryptionSettingsError
  | .pinWrong => .failed .wrongPin
  | .noPinSet => .failed .pinUnlockNotAvailable
  | .internalError => .failed .cryptoInitialization

/-- The key is set to the slot of the user, read from there and dropped again. -/
def pinStateUserKey (pin : String) : UnlockM T T.SymmetricKey := do
  let bridge ← registeredBridge
  (PinLockSystem.unlock crypto bridge pin).mapError pinUnlockError
  let userKey ← .require (.failed (.crypto (.missingKeyId "User"))) ((← get).symmetricKeys .user)
  setSymmetricKey .user none
  return userKey

def decryptedUserKey (userKey : Except CryptoError T.SymmetricKey) : UnlockM T T.SymmetricKey :=
  .ofExcept (userKey.mapError fun error => .failed (.crypto error))

def userKeyFor (method : InitUserCryptoMethod T) : UnlockM T T.SymmetricKey :=
  match method with
  | .masterPasswordUnlock userKey => decryptedUserKey userKey
  | .clientManagedState => do
    .require (.failed .userKeyStateRetrievalFailed) (← registeredBridge).userKey
  | .decryptedKey userKey => decryptedUserKey userKey
  | .pin userKey => decryptedUserKey userKey
  | .pinState pin => pinStateUserKey crypto pin
  | .pinEnvelope pin envelope =>
    .ofExcept ((crypto.unsealPin envelope pin).mapError fun _ => .failed .wrongPin)
  | .authRequest userKey => decryptedUserKey userKey
  | .deviceKey userKey => decryptedUserKey userKey
  | .keyConnector userKey => decryptedUserKey userKey
  | .keyConnectorUrl none => throw (.failed .keyConnectorRetrievalFailed)
  | .keyConnectorUrl (some userKey) => decryptedUserKey userKey

def InitUserCryptoMethod.copiesUserKey : InitUserCryptoMethod T → Bool
  | .masterPasswordUnlock _ | .decryptedKey _ | .pinEnvelope _ _ | .pinState _
  | .keyConnectorUrl _ | .authRequest _ | .clientManagedState => true
  | .pin _ | .deviceKey _ | .keyConnector _ => false

/-! ## After the keys are installed -/

/-- The bridge has the key of the user afterwards, if it is registered. -/
def copyUserKeyToState : Stateful (Client T) EncryptionSettingsError Unit := do
  let userKey ← .require .userKeyStateUpdateFailed ((← get).symmetricKeys .user)
  modify fun client =>
    { client with
      bridge := client.bridge.map fun bridge => { bridge with userKey := some userKey } }

def Client.onUnlockPin (client : Client T) : Client T :=
  match client.bridge with
  | none => client
  | some bridge =>
    let store := PinLockSystem.onUnlock crypto.toPinCrypto (client.symmetricKeys .user)
      ⟨bridge, client.random⟩
    { client with bridge := some store.bridge, random := store.random }

def onUnlockHandler (access : LocalUserDataAccess) :
    Stateful (Client T) EncryptionSettingsError Unit := do
  initializeUserLocalDataKey crypto.toWrappingCrypto access
  modify (Client.onUnlockPin crypto)

def initUserId (userId : UserId) : Stateful (Client T) EncryptionSettingsError Unit := do
  let client ← get
  match client.userId with
  | none => modify fun client => { client with userId := some userId }
  | some existing => .ofExcept (ensure (existing = userId) .userIdAlreadySet)

def initRequestUserId (userId : Option UserId) : Stateful (Client T) EncryptionSettingsError Unit :=
  match userId with
  | none => return
  | some userId => initUserId userId

variable (environment : UnlockEnvironment)

/-- The key of the user is copied to the bridge in the browser. -/
def copyIfNeeded (method : InitUserCryptoMethod T) :
    Stateful (Client T) EncryptionSettingsError Unit :=
  if environment.wasm && method.copiesUserKey then copyUserKeyToState else return

def initializeUserCrypto (req : InitUserCryptoRequest T) :
    UnlockM T Unit := do
  (initRequestUserId req.userId).mapError .failed
  let userKey ← userKeyFor crypto req.method
  (initializeUserCryptoDecryptedKey crypto userKey req.accountCryptographicState
    req.upgradeToken).mapError .failed
  (copyIfNeeded environment req.method).mapError .failed
  (onUnlockHandler crypto environment.access).mapError .failed

/-! ## Session keys -/

/-- The keys of other organizations are dropped. -/
def ClientKeys.retainNonOrganization (keys : ClientKeys T) : ClientKeys T :=
  { keys with
    symmetricKeys := fun slot =>
      match slot with
      | .organization _ => none
      | slot => keys.symmetricKeys slot }

def setEachOrgKey (privateKey : T.PrivateKey) :
    List (OrganizationId × T.SharedKey) → Stateful (Client T) EncryptionSettingsError Unit
  | [] => return
  | (orgId, orgEncKey) :: rest => do
    let key ← .ofExcept ((crypto.decapsulate privateKey orgEncKey).mapError .crypto)
    setSymmetricKey (.organization orgId) (some key)
    setEachOrgKey privateKey rest

def setOrgKeys (orgEncKeys : List (OrganizationId × T.SharedKey)) :
    Stateful (Client T) EncryptionSettingsError Unit :=
  if orgEncKeys.isEmpty then return
  else do
    let privateKey ← .require .missingPrivateKey (← get).userPrivateKey
    modify fun client => client.withKeys client.toClientKeys.retainNonOrganization
    setEachOrgKey crypto privateKey orgEncKeys

namespace UnlockClient

inductive UnlockError where
  | alreadyUnlocked
  | unknown
  | encryptionSettings (error : EncryptionSettingsError)

/-- What the state registry answers. An answer is absent if a handle or a read fails, or if nothing
is stored. -/
structure SessionState (T : CryptoTypes) where
  sessionProtectedUserKey : Option T.SymmetricKeyEnvelope
  accountCryptoState : Option (WrappedAccountCryptographicState T)
  organizationKeys : Option (List (OrganizationId × T.SharedKey))

def unlockWithSessionKey (state : SessionState T) (sessionKey : T.SymmetricKey) :
    Stateful (Client T) UnlockError Unit := do
  let sessionProtectedUserKey ← .require .unknown state.sessionProtectedUserKey
  let accountCryptoState ← .require .unknown state.accountCryptoState
  let decryptedKey ← .require .unknown
    (crypto.unsealWithSessionKey sessionKey sessionProtectedUserKey)
  (initializeUserCryptoDecryptedKey crypto decryptedKey accountCryptoState none).mapError
    fun _ => .unknown
  let orgKeys ← .require .unknown state.organizationKeys
  (setOrgKeys crypto orgKeys).mapError fun _ => .unknown

/-- `unlock` with a session key. -/
def unlock (state : SessionState T) (sessionKey : T.SymmetricKey) :
    Stateful (Client T) UnlockError Unit := do
  let client ← get
  .ofExcept (ensure ((client.symmetricKeys .user).isSome = false) .alreadyUnlocked)
  unlockWithSessionKey crypto state sessionKey

end UnlockClient

end

end SdkInternal.KeyManagement
