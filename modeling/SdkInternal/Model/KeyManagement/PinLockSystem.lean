import SdkInternal.Model.KeyManagement.LocalUserDataKey

/-! # Unlocking with a PIN

The PIN is stored under the key of the user, and this key in envelopes under the PIN: one in memory,
and one on disk if the PIN unlocks a client that was just started. -/

namespace SdkInternal.KeyManagement

open Crypto Shared

inductive PinLockType where
  | beforeFirstUnlock
  | afterFirstUnlock
  deriving DecidableEq

inductive PasswordProtectedKeyEnvelopeError where
  | wrongPassword
  | other

inductive MigrationFailed where
  | locked
  | unrecoverablePinKey
  | unsupportedPinEncryption
  | missingV2UpgradeToken
  | missingEncryptedPin
  | pinDecryption
  | reenrollment

inductive PinMigrationAction where
  | upToDate
  | migrateV1ToV2
  | failed (error : MigrationFailed)

inductive UnlockError where
  | noPinSet
  | pinWrong
  | internalError

structure PinCrypto (T : CryptoTypes) extends WrappingCrypto T where
  keyId : T.SymmetricKey → Option KeyId
  encAlgorithm : T.EncString → Option SymmetricKeyAlgorithm
  encKeyId : T.EncString → Option KeyId
  encryptText : T.SymmetricKey → String → StateT T.Random (Except CryptoError) T.EncString
  decryptText : T.SymmetricKey → T.EncString → Except CryptoError String
  sealPin : T.SymmetricKey → String →
    StateT T.Random (Except PasswordProtectedKeyEnvelopeError) T.PinEnvelope
  unsealPin : T.PinEnvelope → String → Except PasswordProtectedKeyEnvelopeError T.SymmetricKey
  containedKeyId : T.PinEnvelope → Except PasswordProtectedKeyEnvelopeError (Option KeyId)

/-- What to do with an encrypted PIN, from its algorithm and key and those of the user. -/
def classifyEncryptedPin (pinAlgorithm : Option SymmetricKeyAlgorithm) (pinKeyId : Option KeyId)
    (userKeyAlgorithm : SymmetricKeyAlgorithm) (userKeyId : KeyId) : PinMigrationAction :=
  match pinAlgorithm with
  | none => .failed .unsupportedPinEncryption
  | some pinAlgorithm =>
    if pinAlgorithm = .aes256CbcHmac ∧ userKeyAlgorithm ≠ .aes256CbcHmac then .migrateV1ToV2
    else
      match pinKeyId with
      | some pinKeyId =>
        if pinKeyId = userKeyId then .upToDate else .failed .unrecoverablePinKey
      | none =>
        if pinAlgorithm = .aes256CbcHmac then .upToDate else .failed .unrecoverablePinKey

structure PinStore (T : CryptoTypes) where
  bridge : StateBridge T
  random : T.Random

namespace PinLockSystem

variable {T : CryptoTypes} (bridge : StateBridge T)

def getPinLockType : Option PinLockType :=
  if bridge.persistentPinEnvelope.isSome then some .beforeFirstUnlock
  else if bridge.encryptedPin.isSome then some .afterFirstUnlock
  else none

/-- The envelope in memory is preferred. -/
def getActivePinEnvelope : Option T.PinEnvelope :=
  bridge.ephemeralPinEnvelope.or bridge.persistentPinEnvelope

def clearPin : StateBridge T :=
  { bridge with
    persistentPinEnvelope := none, ephemeralPinEnvelope := none, encryptedPin := none }

def unsetPin (store : PinStore T) : PinStore T :=
  { store with bridge := clearPin store.bridge }

def drawPin {ε α : Type} (m : StateT T.Random (Except ε) α) : Stateful (PinStore T) ε α :=
  .zoom (·.random) (fun random store => { store with random }) m

section

variable (crypto : PinCrypto T) (userKey : Option T.SymmetricKey) (pin : String)

def sealUserKey : StateT T.Random (Except Unit) T.PinEnvelope :=
  match userKey with
  | none => throw ()
  | some key => translateError (fun _ => ()) (crypto.sealPin key pin)

def encryptPin : StateT T.Random (Except Unit) T.EncString :=
  match userKey with
  | none => throw ()
  | some key => translateError (fun _ => ()) (crypto.encryptText key pin)

variable (lockType : PinLockType)

def storePin (envelope : T.PinEnvelope) (encryptedPin : T.EncString) (bridge : StateBridge T) :
    StateBridge T :=
  { bridge with
    encryptedPin := some encryptedPin
    ephemeralPinEnvelope := some envelope
    persistentPinEnvelope :=
      if lockType = .beforeFirstUnlock then some envelope else bridge.persistentPinEnvelope }

def setPin : Stateful (PinStore T) Unit Unit := do
  modify unsetPin
  let pinEnvelope ← drawPin (sealUserKey crypto userKey pin)
  let encryptedPin ← drawPin (encryptPin crypto userKey pin)
  modify fun store =>
    { store with bridge := storePin lockType pinEnvelope encryptedPin store.bridge }

variable (encryptedPin : T.EncString)

def migrationAction : Except MigrationFailed PinMigrationAction :=
  match userKey with
  | none => .error .locked
  | some key =>
    match crypto.keyId key, crypto.algorithm key with
    | some userKeyId, .ok userKeyAlgorithm =>
      .ok (classifyEncryptedPin (crypto.encAlgorithm encryptedPin)
        (crypto.encKeyId encryptedPin) userKeyAlgorithm userKeyId)
    | _, _ => .error .locked

/-- The PIN, decrypted with the key of the first version from the token. -/
def recoverPin (token : Option (V2UpgradeToken T.EncString)) (encryptedPin : T.EncString) :
    Except MigrationFailed String :=
  match token with
  | none => .error .missingV2UpgradeToken
  | some token =>
    match userKey.map (token.unwrapV1 crypto.toKeyReader) with
    | some (.ok v1Key) => (crypto.decryptText v1Key encryptedPin).mapError fun _ => .pinDecryption
    | _ => .error .pinDecryption

def migratePin :
    Stateful (PinStore T) MigrationFailed Unit := do
  match ← .ofExcept (migrationAction crypto userKey encryptedPin) with
  | .upToDate => return
  | .failed error => throw error
  | .migrateV1ToV2 =>
    let pin ← .ofExcept (recoverPin crypto userKey (← get).bridge.v2UpgradeToken encryptedPin)
    (setPin crypto userKey pin lockType).mapError fun _ => .reenrollment

def migratePinEnvelopeIfNeeded : Stateful (PinStore T) MigrationFailed Unit := do
  let store ← get
  match getPinLockType store.bridge with
  | none => return
  | some lockType =>
    let encryptedPin ← .require .missingEncryptedPin store.bridge.encryptedPin
    migratePin crypto userKey lockType encryptedPin

def holdsUserKey (envelope : Option T.PinEnvelope) : Bool :=
  match envelope with
  | none => false
  | some envelope =>
    let userKeyId := userKey.bind crypto.keyId
    userKeyId.isSome && (crypto.containedKeyId envelope).toOption.join == userKeyId

def resealPin : StateT T.Random (Except Unit) T.PinEnvelope :=
  match userKey with
  | none => throw ()
  | some key => do
    let pin ← (crypto.decryptText key encryptedPin).mapError fun _ => ()
    sealUserKey crypto userKey pin

def refreshEnvelope (store : PinStore T) : PinStore T :=
  match store.bridge.encryptedPin with
  | none => store
  | some encryptedPin =>
    if holdsUserKey crypto userKey store.bridge.ephemeralPinEnvelope then store
    else
      match resealPin crypto userKey encryptedPin store.random with
      | .error _ => store
      | .ok (envelope, random) =>
        { bridge := { store.bridge with ephemeralPinEnvelope := some envelope }, random }

def onUnlock (store : PinStore T) : PinStore T :=
  match migratePinEnvelopeIfNeeded crypto userKey store with
  | (.error _, store) => unsetPin store
  | (.ok _, store) => refreshEnvelope crypto userKey store

end

end PinLockSystem

end SdkInternal.KeyManagement
