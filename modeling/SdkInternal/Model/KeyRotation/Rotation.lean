import SdkInternal.Model.KeyRotation.Unlock

/-! # Rotation of the key of a user

Both rotations make a new key, collect the memberships that get a copy of it, and build the request
that is posted. The model ends at the request. -/

namespace SdkInternal.KeyRotation

open Crypto Shared Vault Sends
open KeyManagement

inductive RotateUserKeysError where
  | api
  | crypto
  | invalidPublicKey
  | keyConnectorApi
  | untrustedKey
  | oldAttachments

inductive KeyRotationMethod where
  | password (password : String)
  | keyConnector (keyConnectorUrl : String)
  | tde

inductive UpgradeTokenAction where
  | skip
  | createIfNeeded

/-- What a rotation uses of the cryptographic state of an account, of master passwords and of key
connectors. -/
structure AccountOperations (EncString SymmetricKey Random : Type) where
  AccountCryptographicState : Type
  WrappedAccountCryptographicStateRequestModel : Type
  AccountKeysRequestModel : Type
  Kdf : Type
  KeyConnectorKey : Type
  MasterPasswordUnlockData : Type
  MasterPasswordAuthenticationData : Type
  MasterPasswordUnlockDataRequestModel : Type
  MasterPasswordUnlockAndAuthenticationDataModel : Type
  rotateAccountCryptographicState : AccountCryptographicState → KeySlot SymmetricKey →
    SymmetricKey → StateT Random (Except CryptoError) AccountCryptographicState
  toWrappedModel : AccountCryptographicState → SymmetricKey →
    StateT Random (Except CryptoError) WrappedAccountCryptographicStateRequestModel
  rotateToRequestModel : AccountCryptographicState → KeySlot SymmetricKey → SymmetricKey →
    StateT Random (Except CryptoError) AccountKeysRequestModel
  deriveUnlockData : String → Kdf → String → SymmetricKey →
    StateT Random (Except CryptoError) MasterPasswordUnlockData
  deriveAuthenticationData : String → Kdf → String →
    Except CryptoError MasterPasswordAuthenticationData
  masterPasswordAuthenticationHash : MasterPasswordAuthenticationData → String
  toUnlockDataRequestModel : MasterPasswordUnlockData → MasterPasswordUnlockDataRequestModel
  toAuthenticationAndUnlockData : MasterPasswordUnlockData → MasterPasswordAuthenticationData →
    Option String → Except CryptoError MasterPasswordUnlockAndAuthenticationDataModel
  wrapUserKey : KeyConnectorKey → SymmetricKey → StateT Random (Except CryptoError) EncString

variable {EncString SymmetricKey PublicKey PrivateKey SharedKey Random : Type}

structure SyncedAccountData (EncString PublicKey SharedKey Kdf : Type) where
  folders : List (Folder EncString)
  ciphers : List (Cipher EncString)
  sends : List (Send EncString)
  emergencyAccessMemberships : List (V1EmergencyAccessMembership PublicKey)
  organizationMemberships : List (V1OrganizationMembership PublicKey)
  (trustedDevices passkeys : List (PartialRotateableKeyset EncString SharedKey))
  kdfAndSalt : Option (Kdf × String)

def checkForOldAttachments (ciphers : List (Cipher EncString)) : Except RotateUserKeysError Unit :=
  ensure
    (¬ ∃ cipher ∈ ciphers, cipher.organizationId = none ∧
      ∃ attachment ∈ cipher.attachments.getD [], attachment.key = none)
    .oldAttachments

/-! ## The context of a rotation -/

abbrev RotateM (Random : Type) := StateT Random (Except RotateUserKeysError)

structure RotationContext (SymmetricKey PublicKey : Type) where
  v1OrganizationMemberships : List (V1OrganizationMembership PublicKey)
  v1EmergencyAccessMemberships : List (V1EmergencyAccessMembership PublicKey)
  currentUserKey : KeySlot SymmetricKey
  newUserKey : SymmetricKey
  createsV2UpgradeToken : Bool

variable {Kdf : Type}

section

variable (ctx : UnlockContext EncString SymmetricKey PublicKey PrivateKey SharedKey Random)

def isV1SymmetricKey (slot : KeySlot SymmetricKey) : Except CryptoError Bool := do
  return (← ctx.algorithm (← slot)) == .aes256CbcHmac

variable (currentUserKey : KeySlot SymmetricKey)

def createsV2UpgradeToken (upgradeTokenAction : UpgradeTokenAction) : Bool :=
  match upgradeTokenAction with
  | .skip => false
  | .createIfNeeded => (isV1SymmetricKey ctx currentUserKey).toOption.getD false

variable [DecidableEq PublicKey]

def requireTrusted {Membership : Type} (publicKey : Membership → PublicKey)
    (trusted : List PublicKey) (membership : Membership) : Except RotateUserKeysError Membership :=
  if publicKey membership ∈ trusted then .ok membership else .error .untrustedKey

def filterTrustedOrganization (org : List (V1OrganizationMembership PublicKey))
    (trustedOrgs : List PublicKey) :
    Except RotateUserKeysError (List (V1OrganizationMembership PublicKey)) :=
  traverse (requireTrusted V1OrganizationMembership.publicKey trustedOrgs) org

def filterTrustedEmergencyAccess (ea : List (V1EmergencyAccessMembership PublicKey))
    (trustedEmergencyAccessUserPublicKeys : List PublicKey) :
    Except RotateUserKeysError (List (V1EmergencyAccessMembership PublicKey)) :=
  traverse (requireTrusted V1EmergencyAccessMembership.publicKey
    trustedEmergencyAccessUserPublicKeys) ea

/-- The organizations of a rotation that makes a token are not asked for trust. -/
def rotationOrganizations (creates : Bool) (org : List (V1OrganizationMembership PublicKey))
    (trustedOrgs : List PublicKey) :
    Except RotateUserKeysError (List (V1OrganizationMembership PublicKey)) :=
  if creates then .ok org else filterTrustedOrganization org trustedOrgs

def makeNewUserKey : RotateM Random SymmetricKey := fun random =>
  .ok (ctx.makeSymmetricKey random)

def makeRotationContext (sync : SyncedAccountData EncString PublicKey SharedKey Kdf)
    (trustedOrganizationPublicKeys trustedEmergencyAccessPublicKeys : List PublicKey)
    (upgradeTokenAction : UpgradeTokenAction) :
    RotateM Random (RotationContext SymmetricKey PublicKey) := do
  let newUserKey ← makeNewUserKey ctx
  let creates := createsV2UpgradeToken ctx currentUserKey upgradeTokenAction
  let v1OrganizationMemberships ← rotationOrganizations creates sync.organizationMemberships
    trustedOrganizationPublicKeys
  let v1EmergencyAccessMemberships ← filterTrustedEmergencyAccess sync.emergencyAccessMemberships
    trustedEmergencyAccessPublicKeys
  return { v1OrganizationMemberships, v1EmergencyAccessMemberships, currentUserKey, newUserKey
           createsV2UpgradeToken := creates }

end

/-! ## Requests -/

inductive UnlockMethod where
  | masterPassword
  | keyConnector
  | tde

section Requests

variable (ops : AccountOperations EncString SymmetricKey Random)

structure UnlockMethodRequestModel where
  unlockMethod : UnlockMethod
  masterPasswordUnlockData : Option ops.MasterPasswordUnlockDataRequestModel
  keyConnectorKeyWrappedUserKey : Option String

structure RotateUserKeysRequestModel where
  wrappedAccountCryptographicState : ops.WrappedAccountCryptographicStateRequestModel
  accountData : AccountDataRequestModel
  unlockData : CommonUnlockDataRequestModel
  unlockMethodData : UnlockMethodRequestModel ops
  newUserKeyId : Option String

structure UnlockDataRequestModel where
  masterPasswordUnlockData : ops.MasterPasswordUnlockAndAuthenticationDataModel
  emergencyAccessUnlockData : Option (List EmergencyAccessWithIdRequestModel)
  organizationAccountRecoveryUnlockData : Option (List OrganizationUserAccountRecoveryRequestModel)
  passkeyUnlockData : Option (List WebAuthnLoginRotateKeyRequestModel)
  deviceKeyUnlockData : Option (List OtherDeviceKeysUpdateRequestModel)
  v2UpgradeToken : Option V2UpgradeTokenRequestModel

structure RotateUserAccountKeysAndDataRequestModel where
  oldMasterKeyAuthenticationHash : Option String
  accountKeys : ops.AccountKeysRequestModel
  accountData : AccountDataRequestModel
  accountUnlockData : UnlockDataRequestModel ops
  newUserKeyId : Option String

/-- What is written to the local state after the request was posted. -/
structure StateUpdate where
  userKey : SymmetricKey
  accountCryptographicState : ops.AccountCryptographicState
  upgradeToken : Option (V2UpgradeToken EncString)

structure RotateUserKeysRequest (PublicKey : Type) where
  keyRotationMethod : KeyRotationMethod
  (trustedEmergencyAccessPublicKeys trustedOrganizationPublicKeys : List PublicKey)
  upgradeTokenAction : UpgradeTokenAction

structure PasswordChangeAndRotateUserKeysRequest (PublicKey : Type) where
  (oldPassword password : String)
  hint : Option String
  (trustedEmergencyAccessPublicKeys trustedOrganizationPublicKeys : List PublicKey)

inductive PrimaryUnlockMethod where
  | password (password : String) (kdf : ops.Kdf) (salt : String)
  | keyConnector (keyConnectorKey : ops.KeyConnectorKey)
  | tde

end Requests

section Rotations

variable (ctx : UnlockContext EncString SymmetricKey PublicKey PrivateKey SharedKey Random)
  (wire : WireFormat EncString) (ops : AccountOperations EncString SymmetricKey Random)

def PrimaryUnlockMethod.fromKeyRotationMethod (method : KeyRotationMethod)
    (syncedAccountData : SyncedAccountData EncString PublicKey SharedKey ops.Kdf)
    (keyConnectorKey : Option ops.KeyConnectorKey) :
    Except RotateUserKeysError (PrimaryUnlockMethod ops) :=
  match method with
  | .password masterPassword =>
    match syncedAccountData.kdfAndSalt with
    | some (kdf, salt) => .ok (.password masterPassword kdf salt)
    | none => .error .api
  | .keyConnector _ =>
    match keyConnectorKey with
    | some key => .ok (.keyConnector key)
    | none => .error .keyConnectorApi
  | .tde => .ok .tde

def reencryptUnlockMethodData (input : PrimaryUnlockMethod ops) (newUserKey : SymmetricKey) :
    ReencryptUnlockM Random (UnlockMethodRequestModel ops) :=
  match input with
  | .password password kdf salt => do
    let unlockData ← translateError (fun _ => .masterPasswordDerivation)
      (ops.deriveUnlockData password kdf salt newUserKey)
    return { unlockMethod := .masterPassword
             masterPasswordUnlockData := some (ops.toUnlockDataRequestModel unlockData)
             keyConnectorKeyWrappedUserKey := none }
  | .keyConnector keyConnectorKey => do
    let wrappedUserKey ← translateError (fun _ => .keyConnectorWrapping)
      (ops.wrapUserKey keyConnectorKey newUserKey)
    return { unlockMethod := .keyConnector
             masterPasswordUnlockData := none
             keyConnectorKeyWrappedUserKey := some (wire.print wrappedUserKey) }
  | .tde =>
    return { unlockMethod := .tde
             masterPasswordUnlockData := none
             keyConnectorKeyWrappedUserKey := none }

def reencryptUserkeyForMasterpasswordUnlock (password : String) (hint : Option String)
    (kdf : ops.Kdf) (salt : String) (newUserKey : SymmetricKey) :
    ReencryptUnlockM Random ops.MasterPasswordUnlockAndAuthenticationDataModel :=
  translateError (fun _ => .masterPasswordDerivation) do
    let unlockData ← ops.deriveUnlockData password kdf salt newUserKey
    let authenticationData ← ops.deriveAuthenticationData password kdf salt
    ops.toAuthenticationAndUnlockData unlockData authenticationData hint

/-- No token is made, since a change of the password logs other sessions out. -/
def reencryptMasterPasswordChangeUnlockData (password : String) (hint : Option String)
    (kdf : ops.Kdf) (salt : String)
    (commonUnlockData : ReencryptCommonUnlockDataInput EncString PublicKey SharedKey)
    (currentUserKey : KeySlot SymmetricKey) (newUserKey : SymmetricKey) :
    ReencryptUnlockM Random (UnlockDataRequestModel ops) := do
  let masterPasswordUnlockData ←
    reencryptUserkeyForMasterpasswordUnlock ops password hint kdf salt newUserKey
  let common ← reencryptCommonUnlockData ctx wire currentUserKey newUserKey commonUnlockData false
  return { masterPasswordUnlockData
           emergencyAccessUnlockData := common.emergencyAccessUnlockData
           organizationAccountRecoveryUnlockData := common.organizationAccountRecoveryUnlockData
           passkeyUnlockData := common.passkeyUnlockData
           deviceKeyUnlockData := common.deviceKeyUnlockData
           v2UpgradeToken := none }

variable (sync : SyncedAccountData EncString PublicKey SharedKey Kdf)

def rotateData (currentUserKey : KeySlot SymmetricKey) (newUserKey : SymmetricKey) :
    RotateM Random (Option AccountDataRequestModel) :=
  translateError (fun _ => .crypto)
    (reencryptData ctx.toSendContext currentUserKey (.ok newUserKey) wire
      (fun slot => slot.toOption.bind ctx.symmetricKeyId) sync.folders sync.ciphers sync.sends)

def requestKeyConnectorKey (method : KeyRotationMethod)
    (keyConnectorKey : Except RotateUserKeysError ops.KeyConnectorKey) :
    Except RotateUserKeysError (Option ops.KeyConnectorKey) :=
  match method with
  | .keyConnector _ => keyConnectorKey.map some
  | _ => .ok none

def commonUnlockDataInput (rotation : RotationContext SymmetricKey PublicKey) :
    ReencryptCommonUnlockDataInput EncString PublicKey SharedKey where
  trustedOrganizationKeys := rotation.v1OrganizationMemberships
  trustedEmergencyAccessKeys := rotation.v1EmergencyAccessMemberships
  webauthnCredentials := sync.passkeys
  trustedDevices := sync.trustedDevices

/-- The token of a request, read back for the local state. -/
def readUpgradeToken (model : Option V2UpgradeTokenRequestModel) :
    Except RotateUserKeysError (Option (V2UpgradeToken EncString)) :=
  (traverse (V2UpgradeTokenRequestModel.toToken wire) model).mapError fun _ => .crypto

def requireKdfAndSalt : Except RotateUserKeysError (Kdf × String) :=
  match sync.kdfAndSalt with
  | some found => .ok found
  | none => .error .api

variable [DecidableEq PublicKey] (userKey : KeySlot SymmetricKey)

/-- The request of a rotation without a change of the password, and the update of the local state.
`userKey` is the slot of the user and `keyConnectorKey` what fetching the key of the key connector
gives. -/
def internalRotateUserKeys (keyConnectorKey : Except RotateUserKeysError ops.KeyConnectorKey)
    (request : RotateUserKeysRequest PublicKey)
    (wrappedAccountCryptographicState : ops.AccountCryptographicState)
    (sync : SyncedAccountData EncString PublicKey SharedKey ops.Kdf) :
    RotateM Random (Option (RotateUserKeysRequestModel ops × StateUpdate ops)) := do
  checkForOldAttachments sync.ciphers
  let keyConnectorKey ← requestKeyConnectorKey ops request.keyRotationMethod keyConnectorKey
  let rotation ← makeRotationContext ctx userKey sync request.trustedOrganizationPublicKeys
    request.trustedEmergencyAccessPublicKeys request.upgradeTokenAction
  let rotatedState ← translateError (fun _ => RotateUserKeysError.crypto)
    (ops.rotateAccountCryptographicState wrappedAccountCryptographicState rotation.currentUserKey
      rotation.newUserKey)
  let stateModel ← translateError (fun _ => RotateUserKeysError.crypto)
    (ops.toWrappedModel rotatedState rotation.newUserKey)
  let accountData ← rotateData ctx wire sync rotation.currentUserKey rotation.newUserKey
  let unlockMethodInput ← PrimaryUnlockMethod.fromKeyRotationMethod ops request.keyRotationMethod
    sync keyConnectorKey
  let unlockMethodData ← translateError (fun _ => RotateUserKeysError.crypto)
    (reencryptUnlockMethodData wire ops unlockMethodInput rotation.newUserKey)
  let commonUnlockData ← translateError (fun _ => RotateUserKeysError.crypto)
    (reencryptCommonUnlockData ctx wire rotation.currentUserKey rotation.newUserKey
      (commonUnlockDataInput sync rotation) rotation.createsV2UpgradeToken)
  let upgradeToken ← readUpgradeToken wire commonUnlockData.v2UpgradeToken
  return accountData.map fun data =>
    ({ wrappedAccountCryptographicState := stateModel
       accountData := data
       unlockData := commonUnlockData
       unlockMethodData
       newUserKeyId := ctx.symmetricKeyId rotation.newUserKey },
     { userKey := rotation.newUserKey
       accountCryptographicState := rotatedState
       upgradeToken })

def internalPasswordChangeAndRotateUserKeys
    (request : PasswordChangeAndRotateUserKeysRequest PublicKey)
    (wrappedAccountCryptographicState : ops.AccountCryptographicState)
    (sync : SyncedAccountData EncString PublicKey SharedKey ops.Kdf) :
    RotateM Random (Option (RotateUserAccountKeysAndDataRequestModel ops)) := do
  checkForOldAttachments sync.ciphers
  let rotation ← makeRotationContext ctx userKey sync request.trustedOrganizationPublicKeys
    request.trustedEmergencyAccessPublicKeys .skip
  let accountKeys ← translateError (fun _ => RotateUserKeysError.crypto)
    (ops.rotateToRequestModel wrappedAccountCryptographicState rotation.currentUserKey
      rotation.newUserKey)
  let accountData ← rotateData ctx wire sync rotation.currentUserKey rotation.newUserKey
  let (kdf, salt) ← requireKdfAndSalt sync
  let accountUnlockData ← translateError (fun _ => RotateUserKeysError.crypto)
    (reencryptMasterPasswordChangeUnlockData ctx wire ops request.password request.hint kdf salt
      (commonUnlockDataInput sync rotation) rotation.currentUserKey rotation.newUserKey)
  let oldAuthenticationData ←
    (ops.deriveAuthenticationData request.oldPassword kdf salt).mapError
      fun _ => RotateUserKeysError.crypto
  return accountData.map fun data =>
    { oldMasterKeyAuthenticationHash :=
        some (ops.masterPasswordAuthenticationHash oldAuthenticationData)
      accountKeys
      accountData := data
      accountUnlockData
      newUserKeyId := ctx.symmetricKeyId rotation.newUserKey }

end Rotations

end SdkInternal.KeyRotation
