import SdkInternal.Verification.KeyRotation.UnlockData
import SdkInternal.Verification.Send.RoundTrip
import SdkInternal.Verification.Vault.PasswordRotation

/-! # Who gets the new key of a user

A rotation shares the new key with public keys that the user confirmed, and with those that are
encrypted under the current key. The organizations of a rotation that makes a token are not
confirmed, and get no key. -/

namespace SdkInternal.KeyRotation

open Crypto Shared Vault Sends
open KeyManagement

variable {EncString SymmetricKey PublicKey PrivateKey SharedKey Random : Type}

section

variable (ctx : UnlockContext EncString SymmetricKey PublicKey PrivateKey SharedKey Random)
  (userKey : KeySlot SymmetricKey) (newUserKey : SymmetricKey)

def SharedWith (allowed : PublicKey → Prop) (text : String) : Prop :=
  ∃ publicKey shared, allowed publicKey ∧ Encapsulates ctx newUserKey publicKey shared ∧
    text = ctx.printShared shared

def EncryptedIn (keysets : List (PartialRotateableKeyset EncString SharedKey))
    (publicKey : PublicKey) : Prop :=
  ∃ keyset ∈ keysets, ∃ der, StoredPublicKey ctx userKey keyset der publicKey

/-- Every shared key of the data is for a public key that the user vouches for. -/
structure SharedWithTrusted {Kdf : Type}
    (sync : SyncedAccountData EncString PublicKey SharedKey Kdf)
    (trustedOrganizations trustedEmergencyAccesses : List PublicKey)
    (data : CommonUnlockDataRequestModel) : Prop where
  devices : ∀ entry ∈ data.deviceKeyUnlockData.getD [],
    SharedWith ctx newUserKey (EncryptedIn ctx userKey sync.trustedDevices) entry.encryptedUserKey
  passkeys : ∀ entry ∈ data.passkeyUnlockData.getD [],
    SharedWith ctx newUserKey (EncryptedIn ctx userKey sync.passkeys) entry.encryptedUserKey
  emergencyAccesses : ∀ entry ∈ data.emergencyAccessUnlockData.getD [],
    ∀ text ∈ entry.keyEncrypted, SharedWith ctx newUserKey (· ∈ trustedEmergencyAccesses) text
  organizations : ∀ entry ∈ data.organizationAccountRecoveryUnlockData.getD [],
    ∀ text ∈ entry.resetPasswordKey, SharedWith ctx newUserKey (· ∈ trustedOrganizations) text
  noKeyWithToken : data.v2UpgradeToken.isSome →
    ∀ entry ∈ data.organizationAccountRecoveryUnlockData.getD [], entry.resetPasswordKey = none

end

section

variable {ctx : UnlockContext EncString SymmetricKey PublicKey PrivateKey SharedKey Random}
  {wire : WireFormat EncString} {userKey : KeySlot SymmetricKey} {newUserKey : SymmetricKey}

variable {keysets : List (PartialRotateableKeyset EncString SharedKey)}

theorem keysetEntry_sharedWith {Entry : Type}
    {toModel : PartialRotateableKeyset EncString SharedKey → Entry} {entries : List Entry}
    (h : List.Forall₂ (KeysetEntry ctx userKey newUserKey toModel) keysets entries) {entry : Entry}
    (hentry : entry ∈ entries) :
    ∃ rotated, entry = toModel rotated ∧ SharedWith ctx newUserKey
      (EncryptedIn ctx userKey keysets) (ctx.printShared rotated.encryptedUserKey) := by
  obtain ⟨keyset, hkeyset, rotated, der, publicKey, hrotated, rfl⟩ :=
    exists_mem_of_forall₂ h.flip hentry
  exact ⟨rotated, rfl, publicKey, rotated.encryptedUserKey,
    ⟨keyset, hkeyset, der, hrotated.stored⟩, hrotated.shared, rfl⟩

theorem membership_sharedWith {Membership : Type} {publicKey : Membership → PublicKey}
    {memberships : List Membership} {trusted : List PublicKey} {Entry : Type}
    {key : Entry → Option String} {entries : List Entry}
    (htrusted : ∀ membership ∈ memberships, publicKey membership ∈ trusted)
    (h : List.Forall₂ (fun membership entry => ∃ shared,
        Encapsulates ctx newUserKey (publicKey membership) shared ∧
          key entry = some (ctx.printShared shared)) memberships entries)
    {entry : Entry} (hentry : entry ∈ entries) :
    ∀ text ∈ key entry, SharedWith ctx newUserKey (· ∈ trusted) text := by
  obtain ⟨membership, hmembership, shared, hshared, hkey⟩ := exists_mem_of_forall₂ h.flip hentry
  intro text htext
  rw [hkey] at htext
  cases htext
  exact ⟨publicKey membership, shared, htrusted membership hmembership, hshared, rfl⟩

theorem resetPasswordKey_of_mem_defer {memberships : List (V1OrganizationMembership PublicKey)}
    {entry : OrganizationUserAccountRecoveryRequestModel}
    (h : entry ∈ deferOrganizationAccountRecoveryToAdmins memberships) :
    entry.resetPasswordKey = none := by
  obtain ⟨membership, -, rfl⟩ := List.mem_map.mp h
  rfl

end

/-- For every account that a server may send, the new key goes only to public keys that the user
confirmed, or that are encrypted under the current key. -/
theorem rotation_sharedWithTrusted [DecidableEq PublicKey]
    (ctx : UnlockContext EncString SymmetricKey PublicKey PrivateKey SharedKey Random)
    (wire : WireFormat EncString) (ops : AccountOperations EncString SymmetricKey Random)
    (userKey : KeySlot SymmetricKey) (flow : RotationFlow PublicKey ops)
    (state : ops.AccountCryptographicState)
    (sync : SyncedAccountData EncString PublicKey SharedKey ops.Kdf) (random random' : Random)
    (data : CommonUnlockDataRequestModel)
    (hposted : flow.postedUnlockData ctx wire userKey state sync random =
      .ok (some data, random')) :
    SharedWithTrusted ctx userKey (ctx.makeSymmetricKey random).1 sync
      flow.trustedOrganizationPublicKeys flow.trustedEmergencyAccessPublicKeys data := by
  obtain ⟨rotation, hcontext, ⟨devices, hdevices, hdeviceEntries⟩,
    ⟨passkeys, hpasskeys, hpasskeyEntries⟩, ⟨emergencyAccesses, hemergency, hemergencyEntries⟩,
    organizations, horganizations, hrecovery⟩ := exists_rotationContext_of_posted hposted
  refine
    { devices := ?_, passkeys := ?_, emergencyAccesses := ?_, organizations := ?_
      noKeyWithToken := ?_ }
  · rw [hdevices]
    intro entry hentry
    obtain ⟨rotated, rfl, hshared⟩ := keysetEntry_sharedWith hdeviceEntries hentry
    exact hshared
  · rw [hpasskeys]
    intro entry hentry
    obtain ⟨rotated, rfl, hshared⟩ := keysetEntry_sharedWith hpasskeyEntries hentry
    exact hshared
  · rw [hemergency]
    intro entry hentry
    exact membership_sharedWith hcontext.trustedEmergencyAccesses
      (hemergencyEntries.imp fun _ _ hrow => hrow.shared) hentry
  · rw [horganizations]
    intro entry hentry
    cases hcreates : rotation.createsV2UpgradeToken with
    | true =>
      rw [hcreates] at hrecovery
      obtain ⟨rfl, -⟩ := hrecovery
      intro text htext
      rw [resetPasswordKey_of_mem_defer hentry] at htext
      cases htext
    | false =>
      rw [hcreates] at hrecovery
      exact membership_sharedWith (hcontext.trustedOrganizations hcreates)
        (hrecovery.1.imp fun _ _ hrow => hrow.shared) hentry
  · rw [horganizations]
    intro htoken entry hentry
    cases hcreates : rotation.createsV2UpgradeToken with
    | true =>
      rw [hcreates] at hrecovery
      obtain ⟨rfl, -⟩ := hrecovery
      exact resetPasswordKey_of_mem_defer hentry
    | false =>
      rw [hcreates] at hrecovery
      rw [hrecovery.2] at htoken
      cases htoken

/-! ## A rotation that makes a token -/

def bytesText (bytes : List UInt8) : String :=
  String.ofList (Base64.encodeUrl bytes)

def keyByte (key : Bool) : UInt8 :=
  if key then 1 else 0

/-- There are two keys, the second one for `XAes256Gcm`. Values are their texts, and a private key
is its public key. -/
def openUnlockContext : UnlockContext String Bool (List UInt8) (List UInt8) (Bool × List UInt8) Unit
    where
  toLibraries := openContext.toLibraries
  decrypt _ text := .ok text
  unwrapSymmetricKey _ text := (parseSendKey text).map (· == [1])
  unsealWithWrappingKey _ _ _ := none
  fromOpaqueString _ := none
  parseRestricted _ := none
  securityStateVersion := 2
  encrypt _ text := pure text
  wrapSymmetricKey _ key := pure (bytesText [keyByte key])
  generateSymmetricKey := pure true
  sealWithWrappingKey _ _ _ := none
  toOpaqueString _ := ""
  decryptBytes _ text := parseSendKey text
  encryptBytes _ bytes := pure (bytesText bytes)
  generateRandomBytes count := pure (List.replicate count 0)
  deriveShareableKey _ _ _ := true
  pbkdf2 _ _ _ := []
  publicKeyFromDer der := .ok der
  toPublicKey key := key
  encapsulate key publicKey := pure (key, publicKey)
  decapsulate privateKey shared :=
    if shared.2 = privateKey then .ok shared.1 else .error .decrypt
  printShared shared := bytesText (keyByte shared.1 :: shared.2)
  parseShared text := (parseSendKey text).map fun bytes => (bytes.head? == some 1, bytes.tail)
  algorithm key := .ok (if key then .xAes256Gcm else .aes256CbcHmac)
  symmetricKeyId key := if key then some "id" else none
  makeSymmetricKey := pure true

def openAccount : AccountOperations String Bool Unit where
  AccountCryptographicState := Unit
  WrappedAccountCryptographicStateRequestModel := Unit
  AccountKeysRequestModel := Unit
  Kdf := Unit
  KeyConnectorKey := Unit
  MasterPasswordUnlockData := Unit
  MasterPasswordAuthenticationData := Unit
  MasterPasswordUnlockDataRequestModel := Unit
  MasterPasswordUnlockAndAuthenticationDataModel := Unit
  rotateAccountCryptographicState _ _ _ := pure ()
  toWrappedModel _ _ := pure ()
  rotateToRequestModel _ _ _ := pure ()
  deriveUnlockData _ _ _ _ := pure ()
  deriveAuthenticationData _ _ _ := .ok ()
  masterPasswordAuthenticationHash _ := "hash"
  toUnlockDataRequestModel _ := ()
  toAuthenticationAndUnlockData _ _ _ := .ok ()
  wrapUserKey _ key := pure (bytesText [keyByte key])

def keysetOf (id : Uuid) (publicKey : List UInt8) :
    PartialRotateableKeyset String (Bool × List UInt8) where
  id := id
  encryptedPublicKey := bytesText publicKey
  encryptedUserKey := (false, publicKey)

def syncedAccount : SyncedAccountData String (List UInt8) (Bool × List UInt8) Unit where
  folders := []
  ciphers := []
  sends := []
  emergencyAccessMemberships := [⟨3, 4, "grantee", [6]⟩]
  organizationMemberships := [⟨5, "organization", [7]⟩]
  trustedDevices := [keysetOf 1 [4]]
  passkeys := [keysetOf 2 [5]]
  kdfAndSalt := none

def upgradingFlow : RotationFlow (List UInt8) openAccount :=
  .rotate (.error .keyConnectorApi)
    { keyRotationMethod := .tde
      trustedEmergencyAccessPublicKeys := [[6]]
      trustedOrganizationPublicKeys := []
      upgradeTokenAction := .createIfNeeded }

def upgradingUnlockData : CommonUnlockDataRequestModel where
  emergencyAccessUnlockData := some [⟨.takeover, 1, 3, some (bytesText [1, 6])⟩]
  organizationAccountRecoveryUnlockData := some [⟨none, 5⟩]
  passkeyUnlockData := some [⟨2, bytesText [5], bytesText [1, 5]⟩]
  deviceKeyUnlockData := some [⟨1, bytesText [4], bytesText [1, 4]⟩]
  v2UpgradeToken := some ⟨bytesText [0], bytesText [1]⟩

theorem upgradingFlow_posted :
    upgradingFlow.postedUnlockData openUnlockContext openWire (.ok false) () syncedAccount () =
      .ok (some upgradingUnlockData, ()) := by
  rfl

theorem upgradingFlow_sharedWithTrusted :
    upgradingUnlockData.v2UpgradeToken.isSome ∧
      SharedWithTrusted openUnlockContext (.ok false) true syncedAccount [] [[6]]
        upgradingUnlockData :=
  ⟨rfl, rotation_sharedWithTrusted openUnlockContext openWire openAccount (.ok false) upgradingFlow
    () syncedAccount () () upgradingUnlockData upgradingFlow_posted⟩

end SdkInternal.KeyRotation
