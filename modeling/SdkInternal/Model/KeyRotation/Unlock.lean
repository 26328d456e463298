import SdkInternal.Model.KeyManagement.V2UpgradeToken
import SdkInternal.Model.KeyRotation.Data

/-! # Re-encryption of the unlock methods of a user

Devices and passkeys are keysets with a public key that is encrypted under the key of the user. A
rotation shares the new key with this public key, and encrypts the public key again. Memberships
come with public keys of the server. -/

namespace SdkInternal.KeyRotation

open Crypto Shared Vault Sends
open KeyManagement

/-! ## Contexts -/

structure SharingContext (SymmetricKey PublicKey PrivateKey SharedKey Random : Type) where
  publicKeyFromDer : List UInt8 → Except CryptoError PublicKey
  toPublicKey : PrivateKey → PublicKey
  encapsulate : SymmetricKey → PublicKey → StateT Random (Except CryptoError) SharedKey
  decapsulate : PrivateKey → SharedKey → Except CryptoError SymmetricKey
  printShared : SharedKey → String
  parseShared : String → Except CryptoError SharedKey

/-- A context of the key store, with what a rotation uses of the crypto crate besides. -/
structure UnlockContext (EncString SymmetricKey PublicKey PrivateKey SharedKey Random : Type)
    extends SendContext EncString SymmetricKey Random,
      SharingContext SymmetricKey PublicKey PrivateKey SharedKey Random where
  algorithm : SymmetricKey → Except CryptoError SymmetricKeyAlgorithm
  symmetricKeyId : SymmetricKey → Option String
  /-- A new key for `XAes256Gcm`. -/
  makeSymmetricKey : StateM Random SymmetricKey

variable {EncString SymmetricKey PublicKey PrivateKey SharedKey Random : Type}

def UnlockContext.keyWriter
    (ctx : UnlockContext EncString SymmetricKey PublicKey PrivateKey SharedKey Random) :
    KeyWriter EncString SymmetricKey Random where
  algorithm := ctx.algorithm
  decryptBytes := ctx.decryptBytes
  unwrapSymmetricKey := ctx.unwrapSymmetricKey
  wrapSymmetricKey := ctx.wrapSymmetricKey

/-! ## Records -/

structure PartialRotateableKeyset (EncString SharedKey : Type) where
  id : Uuid
  encryptedPublicKey : EncString
  encryptedUserKey : SharedKey

structure V1EmergencyAccessMembership (PublicKey : Type) where
  (id granteeId : Uuid)
  name : String
  publicKey : PublicKey

structure V1OrganizationMembership (PublicKey : Type) where
  organizationId : Uuid
  name : String
  publicKey : PublicKey

inductive ReencryptError where
  | masterPasswordDerivation
  | keysetUnlockDataReencryption
  | keySharingError
  | keyConnectorWrapping
  | upgradeTokenCreation

structure OtherDeviceKeysUpdateRequestModel where
  deviceId : Uuid
  (encryptedPublicKey encryptedUserKey : String)

structure WebAuthnLoginRotateKeyRequestModel where
  id : Uuid
  (encryptedPublicKey encryptedUserKey : String)

inductive EmergencyAccessType where
  | view
  | takeover
  | unknown (value : ℤ)

structure EmergencyAccessWithIdRequestModel where
  type : EmergencyAccessType
  waitTimeDays : ℕ
  id : Uuid
  keyEncrypted : Option String

structure OrganizationUserAccountRecoveryRequestModel where
  resetPasswordKey : Option String
  organizationId : Uuid

structure V2UpgradeTokenRequestModel where
  (wrappedUserKey1 wrappedUserKey2 : String)

structure CommonUnlockDataRequestModel where
  emergencyAccessUnlockData : Option (List EmergencyAccessWithIdRequestModel)
  organizationAccountRecoveryUnlockData : Option (List OrganizationUserAccountRecoveryRequestModel)
  passkeyUnlockData : Option (List WebAuthnLoginRotateKeyRequestModel)
  deviceKeyUnlockData : Option (List OtherDeviceKeysUpdateRequestModel)
  v2UpgradeToken : Option V2UpgradeTokenRequestModel

structure ReencryptCommonUnlockDataInput (EncString PublicKey SharedKey : Type) where
  (trustedDevices webauthnCredentials : List (PartialRotateableKeyset EncString SharedKey))
  trustedOrganizationKeys : List (V1OrganizationMembership PublicKey)
  trustedEmergencyAccessKeys : List (V1EmergencyAccessMembership PublicKey)

/-! ## Re-encryption -/

abbrev ReencryptUnlockM (Random : Type) := StateT Random (Except ReencryptError)

section

variable (ctx : UnlockContext EncString SymmetricKey PublicKey PrivateKey SharedKey Random)
  (wire : WireFormat EncString) (currentUserKey : KeySlot SymmetricKey) (newUserKey : SymmetricKey)

namespace PartialRotateableKeyset

variable (self : PartialRotateableKeyset EncString SharedKey)

def toOtherDeviceKeysUpdateRequestModel : OtherDeviceKeysUpdateRequestModel where
  deviceId := self.id
  encryptedPublicKey := wire.print self.encryptedPublicKey
  encryptedUserKey := ctx.printShared self.encryptedUserKey

def toWebAuthnLoginRotateKeyRequestModel : WebAuthnLoginRotateKeyRequestModel where
  id := self.id
  encryptedPublicKey := wire.print self.encryptedPublicKey
  encryptedUserKey := ctx.printShared self.encryptedUserKey

def rotateUserkey :
    StateT Random (Except CryptoError) (PartialRotateableKeyset EncString SharedKey) := do
  let pubkeyDer ← ctx.decryptBytesIn currentUserKey self.encryptedPublicKey
  let pubkey ← ctx.publicKeyFromDer pubkeyDer
  let reencryptedUserKey ← ctx.encapsulate newUserKey pubkey
  let reencryptedPublicKey ← ctx.encryptBytes newUserKey pubkeyDer
  return { id := self.id
           encryptedPublicKey := reencryptedPublicKey
           encryptedUserKey := reencryptedUserKey }

end PartialRotateableKeyset

def rotateKeyset (keyset : PartialRotateableKeyset EncString SharedKey) :
    ReencryptUnlockM Random (PartialRotateableKeyset EncString SharedKey) :=
  translateError (fun _ => .keysetUnlockDataReencryption)
    (keyset.rotateUserkey ctx currentUserKey newUserKey)

def reencryptTdeDevice (device : PartialRotateableKeyset EncString SharedKey) :
    ReencryptUnlockM Random OtherDeviceKeysUpdateRequestModel := do
  let rotated ← rotateKeyset ctx currentUserKey newUserKey device
  return rotated.toOtherDeviceKeysUpdateRequestModel ctx wire

def reencryptTdeDevices (trustedDevices : List (PartialRotateableKeyset EncString SharedKey)) :
    ReencryptUnlockM Random (List OtherDeviceKeysUpdateRequestModel) :=
  traverse (reencryptTdeDevice ctx wire currentUserKey newUserKey) trustedDevices

def reencryptPasskeyCredential (credential : PartialRotateableKeyset EncString SharedKey) :
    ReencryptUnlockM Random WebAuthnLoginRotateKeyRequestModel := do
  let rotated ← rotateKeyset ctx currentUserKey newUserKey credential
  return rotated.toWebAuthnLoginRotateKeyRequestModel ctx wire

def reencryptPasskeyCredentials
    (webauthnCredentials : List (PartialRotateableKeyset EncString SharedKey)) :
    ReencryptUnlockM Random (List WebAuthnLoginRotateKeyRequestModel) :=
  traverse (reencryptPasskeyCredential ctx wire currentUserKey newUserKey) webauthnCredentials

def shareUserKey (publicKey : PublicKey) : ReencryptUnlockM Random SharedKey :=
  translateError (fun _ => .keySharingError) (ctx.encapsulate newUserKey publicKey)

/-- The server ignores the type and the days of waiting. -/
def reencryptEmergencyAccessKey (ea : V1EmergencyAccessMembership PublicKey) :
    ReencryptUnlockM Random EmergencyAccessWithIdRequestModel := do
  let reencryptedKey ← shareUserKey ctx newUserKey ea.publicKey
  return { type := .takeover
           waitTimeDays := 1
           id := ea.id
           keyEncrypted := some (ctx.printShared reencryptedKey) }

def reencryptEmergencyAccessKeys
    (trustedEmergencyAccessKeys : List (V1EmergencyAccessMembership PublicKey)) :
    ReencryptUnlockM Random (List EmergencyAccessWithIdRequestModel) :=
  traverse (reencryptEmergencyAccessKey ctx newUserKey) trustedEmergencyAccessKeys

def reencryptOrganizationMembership (membership : V1OrganizationMembership PublicKey) :
    ReencryptUnlockM Random OrganizationUserAccountRecoveryRequestModel := do
  let reencryptedKey ← shareUserKey ctx newUserKey membership.publicKey
  return { resetPasswordKey := some (ctx.printShared reencryptedKey)
           organizationId := membership.organizationId }

def reencryptOrganizationMemberships
    (trustedOrganizationKeys : List (V1OrganizationMembership PublicKey)) :
    ReencryptUnlockM Random (List OrganizationUserAccountRecoveryRequestModel) :=
  traverse (reencryptOrganizationMembership ctx newUserKey) trustedOrganizationKeys

/-- The organizations are listed without keys, and keep those they hold. -/
def deferOrganizationAccountRecoveryToAdmins
    (organizationMemberships : List (V1OrganizationMembership PublicKey)) :
    List OrganizationUserAccountRecoveryRequestModel :=
  organizationMemberships.map fun membership =>
    { resetPasswordKey := none, organizationId := membership.organizationId }

variable (createsV2UpgradeToken : Bool)

def organizationUnlockData (memberships : List (V1OrganizationMembership PublicKey)) :
    ReencryptUnlockM Random (List OrganizationUserAccountRecoveryRequestModel) :=
  if createsV2UpgradeToken then pure (deferOrganizationAccountRecoveryToAdmins memberships)
  else reencryptOrganizationMemberships ctx newUserKey memberships

def V2UpgradeTokenRequestModel.ofToken (token : V2UpgradeToken EncString) :
    V2UpgradeTokenRequestModel where
  wrappedUserKey1 := wire.print token.wrappedUserKey1
  wrappedUserKey2 := wire.print token.wrappedUserKey2

def V2UpgradeTokenRequestModel.toToken (model : V2UpgradeTokenRequestModel) :
    Except CryptoError (V2UpgradeToken EncString) := do
  return { wrappedUserKey1 := ← wire.parse model.wrappedUserKey1
           wrappedUserKey2 := ← wire.parse model.wrappedUserKey2 }

def makeUpgradeTokenIfNeeded : ReencryptUnlockM Random (Option V2UpgradeTokenRequestModel) :=
  if createsV2UpgradeToken then do
    let token ← translateError (fun _ => ReencryptError.upgradeTokenCreation)
      (V2UpgradeToken.create ctx.keyWriter currentUserKey (.ok newUserKey))
    return some (.ofToken wire token)
  else pure none

def reencryptCommonUnlockData (input : ReencryptCommonUnlockDataInput EncString PublicKey SharedKey)
    (createsV2UpgradeToken : Bool) : ReencryptUnlockM Random CommonUnlockDataRequestModel := do
  let devices ← reencryptTdeDevices ctx wire currentUserKey newUserKey input.trustedDevices
  let passkeys ←
    reencryptPasskeyCredentials ctx wire currentUserKey newUserKey input.webauthnCredentials
  let emergencyAccesses ←
    reencryptEmergencyAccessKeys ctx newUserKey input.trustedEmergencyAccessKeys
  let organizations ←
    organizationUnlockData ctx newUserKey createsV2UpgradeToken input.trustedOrganizationKeys
  let token ← makeUpgradeTokenIfNeeded ctx wire currentUserKey newUserKey createsV2UpgradeToken
  return { emergencyAccessUnlockData := some emergencyAccesses
           organizationAccountRecoveryUnlockData := some organizations
           passkeyUnlockData := some passkeys
           deviceKeyUnlockData := some devices
           v2UpgradeToken := token }

end

end SdkInternal.KeyRotation
