import SdkInternal.Model.KeyRotation.Rotation

/-! # The unlock data of a rotation

Every entry of the posted unlock data belongs to one entry of the synced account, in the same order.
The decision to make a token is taken once, for the filter of the organizations and for the entries
they get. -/

namespace SdkInternal.KeyRotation

open Crypto Shared Vault Sends
open KeyManagement

variable {EncString SymmetricKey PublicKey PrivateKey SharedKey Random : Type}
  (ctx : UnlockContext EncString SymmetricKey PublicKey PrivateKey SharedKey Random)
  (wire : WireFormat EncString) (currentUserKey : KeySlot SymmetricKey) (newUserKey : SymmetricKey)

/-! ## Entries -/

def Encapsulates (key : SymmetricKey) (publicKey : PublicKey) (shared : SharedKey) : Prop :=
  ∃ random random', ctx.encapsulate key publicKey random = .ok (shared, random')

def StoredPublicKey (keyset : PartialRotateableKeyset EncString SharedKey) (der : List UInt8)
    (publicKey : PublicKey) : Prop :=
  ∃ userKey, currentUserKey = .ok userKey ∧
    ctx.decryptBytes userKey keyset.encryptedPublicKey = .ok der ∧
    ctx.publicKeyFromDer der = .ok publicKey

structure KeysetRotated (keyset rotated : PartialRotateableKeyset EncString SharedKey)
    (der : List UInt8) (publicKey : PublicKey) : Prop where
  id : rotated.id = keyset.id
  stored : StoredPublicKey ctx currentUserKey keyset der publicKey
  shared : Encapsulates ctx newUserKey publicKey rotated.encryptedUserKey
  encrypted : ∃ random random',
    ctx.encryptBytes newUserKey der random = .ok (rotated.encryptedPublicKey, random')

def KeysetEntry {Entry : Type} (toModel : PartialRotateableKeyset EncString SharedKey → Entry)
    (keyset : PartialRotateableKeyset EncString SharedKey) (entry : Entry) : Prop :=
  ∃ rotated der publicKey,
    KeysetRotated ctx currentUserKey newUserKey keyset rotated der publicKey ∧
    entry = toModel rotated

def DeviceEntry := KeysetEntry ctx currentUserKey newUserKey
  fun rotated => rotated.toOtherDeviceKeysUpdateRequestModel ctx wire

def PasskeyEntry := KeysetEntry ctx currentUserKey newUserKey
  fun rotated => rotated.toWebAuthnLoginRotateKeyRequestModel ctx wire

structure EmergencyAccessEntry (membership : V1EmergencyAccessMembership PublicKey)
    (entry : EmergencyAccessWithIdRequestModel) : Prop where
  id : entry.id = membership.id
  shared : ∃ shared, Encapsulates ctx newUserKey membership.publicKey shared ∧
    entry.keyEncrypted = some (ctx.printShared shared)

structure OrganizationEntry (membership : V1OrganizationMembership PublicKey)
    (entry : OrganizationUserAccountRecoveryRequestModel) : Prop where
  id : entry.organizationId = membership.organizationId
  shared : ∃ shared, Encapsulates ctx newUserKey membership.publicKey shared ∧
    entry.resetPasswordKey = some (ctx.printShared shared)

def TokenMade (token : V2UpgradeToken EncString) : Prop :=
  ∃ random random',
    V2UpgradeToken.create ctx.keyWriter currentUserKey (.ok newUserKey) random =
      .ok (token, random')

variable {entries : List OrganizationUserAccountRecoveryRequestModel}
  {memberships : List (V1OrganizationMembership PublicKey)}

section

variable {ctx wire currentUserKey newUserKey} {random random' : Random}

theorem exists_keysetRotated {keyset rotated : PartialRotateableKeyset EncString SharedKey}
    (h : rotateKeyset ctx currentUserKey newUserKey keyset random = .ok (rotated, random')) :
    ∃ der publicKey, KeysetRotated ctx currentUserKey newUserKey keyset rotated der publicKey := by
  simp only [rotateKeyset, run_translateError_eq_ok_iff, PartialRotateableKeyset.rotateUserkey,
    run_bind_eq_ok_iff, run_lift_eq_ok_iff, run_pure_eq_ok_iff, SendContext.decryptBytesIn,
    bind_eq_ok_iff] at h
  obtain ⟨der, _, ⟨⟨userKey, huser, hder⟩, rfl⟩, publicKey, _, ⟨hpublic, rfl⟩, shared, _, hshared,
    encrypted, _, hencrypted, rfl, rfl⟩ := h
  exact ⟨der, publicKey, rfl, ⟨userKey, huser, hder, hpublic⟩, ⟨_, _, hshared⟩, _, _, hencrypted⟩

theorem forall₂_keysetEntry {Entry : Type}
    {toModel : PartialRotateableKeyset EncString SharedKey → Entry}
    {keysets : List (PartialRotateableKeyset EncString SharedKey)} {entries : List Entry}
    (h : (traverse (fun keyset => do
        return toModel (← rotateKeyset ctx currentUserKey newUserKey keyset)) keysets :
          ReencryptUnlockM Random (List Entry)) random = .ok (entries, random')) :
    List.Forall₂ (KeysetEntry ctx currentUserKey newUserKey toModel) keysets entries := by
  apply (forall₂_of_run_traverse h).imp
  rintro keyset entry ⟨_, _, hentry⟩
  simp only [run_bind_eq_ok_iff, run_pure_eq_ok_iff] at hentry
  obtain ⟨rotated, _, hrotated, rfl, -⟩ := hentry
  obtain ⟨der, publicKey, hkeyset⟩ := exists_keysetRotated hrotated
  exact ⟨rotated, der, publicKey, hkeyset, rfl⟩

theorem forall₂_reencryptEmergencyAccessKeys
    {memberships : List (V1EmergencyAccessMembership PublicKey)}
    {entries : List EmergencyAccessWithIdRequestModel}
    (h : reencryptEmergencyAccessKeys ctx newUserKey memberships random =
      .ok (entries, random')) :
    List.Forall₂ (EmergencyAccessEntry ctx newUserKey) memberships entries := by
  apply (forall₂_of_run_traverse h).imp
  rintro membership entry ⟨_, _, hentry⟩
  simp only [reencryptEmergencyAccessKey, shareUserKey, run_bind_eq_ok_iff,
    run_translateError_eq_ok_iff, run_pure_eq_ok_iff] at hentry
  obtain ⟨shared, _, hshared, rfl, -⟩ := hentry
  exact ⟨rfl, shared, ⟨_, _, hshared⟩, rfl⟩

theorem forall₂_reencryptOrganizationMemberships
    (h : reencryptOrganizationMemberships ctx newUserKey memberships random =
      .ok (entries, random')) :
    List.Forall₂ (OrganizationEntry ctx newUserKey) memberships entries := by
  apply (forall₂_of_run_traverse h).imp
  rintro membership entry ⟨_, _, hentry⟩
  simp only [reencryptOrganizationMembership, shareUserKey, run_bind_eq_ok_iff,
    run_translateError_eq_ok_iff, run_pure_eq_ok_iff] at hentry
  obtain ⟨shared, _, hshared, rfl, -⟩ := hentry
  exact ⟨rfl, shared, ⟨_, _, hshared⟩, rfl⟩

end

/-! ## The data of both rotations -/

def RecoveryData (creates : Bool) (memberships : List (V1OrganizationMembership PublicKey))
    (entries : List OrganizationUserAccountRecoveryRequestModel)
    (token : Option V2UpgradeTokenRequestModel) : Prop :=
  match creates with
  | true => entries = deferOrganizationAccountRecoveryToAdmins memberships ∧
      ∃ made, TokenMade ctx currentUserKey newUserKey made ∧ token = some (.ofToken wire made)
  | false => List.Forall₂ (OrganizationEntry ctx newUserKey) memberships entries ∧ token = none

/-- Unlock data that was built for the new key. -/
structure UnlockDataFor (input : ReencryptCommonUnlockDataInput EncString PublicKey SharedKey)
    (creates : Bool) (data : CommonUnlockDataRequestModel) : Prop where
  devices : ∃ entries, data.deviceKeyUnlockData = some entries ∧
    List.Forall₂ (DeviceEntry ctx wire currentUserKey newUserKey) input.trustedDevices entries
  passkeys : ∃ entries, data.passkeyUnlockData = some entries ∧
    List.Forall₂ (PasskeyEntry ctx wire currentUserKey newUserKey) input.webauthnCredentials entries
  emergencyAccesses : ∃ entries, data.emergencyAccessUnlockData = some entries ∧
    List.Forall₂ (EmergencyAccessEntry ctx newUserKey) input.trustedEmergencyAccessKeys entries
  organizations : ∃ entries, data.organizationAccountRecoveryUnlockData = some entries ∧
    RecoveryData ctx wire currentUserKey newUserKey creates input.trustedOrganizationKeys entries
      data.v2UpgradeToken

variable {data : CommonUnlockDataRequestModel}

section

variable {ctx wire currentUserKey newUserKey} {random random' : Random}

theorem recoveryData_of_run {creates : Bool} {token : Option V2UpgradeTokenRequestModel}
    {mid : Random}
    (hentries : organizationUnlockData ctx newUserKey creates memberships random =
      .ok (entries, mid))
    (htoken : makeUpgradeTokenIfNeeded ctx wire currentUserKey newUserKey creates mid =
      .ok (token, random')) :
    RecoveryData ctx wire currentUserKey newUserKey creates memberships entries token := by
  cases creates with
  | true =>
    simp only [organizationUnlockData, makeUpgradeTokenIfNeeded, if_true, run_pure_eq_ok_iff,
      run_bind_eq_ok_iff, run_translateError_eq_ok_iff] at hentries htoken
    obtain ⟨rfl, -⟩ := hentries
    obtain ⟨made, _, hmade, rfl, -⟩ := htoken
    exact ⟨rfl, made, ⟨_, _, hmade⟩, rfl⟩
  | false =>
    simp only [organizationUnlockData, makeUpgradeTokenIfNeeded, Bool.false_eq_true, if_false,
      run_pure_eq_ok_iff] at hentries htoken
    exact ⟨forall₂_reencryptOrganizationMemberships hentries, htoken.1.symm⟩

theorem unlockDataFor_of_run
    {input : ReencryptCommonUnlockDataInput EncString PublicKey SharedKey} {creates : Bool}
    (h : reencryptCommonUnlockData ctx wire currentUserKey newUserKey input creates random =
      .ok (data, random')) :
    UnlockDataFor ctx wire currentUserKey newUserKey input creates data := by
  simp only [reencryptCommonUnlockData, run_bind_eq_ok_iff, run_pure_eq_ok_iff] at h
  obtain ⟨devices, _, hdevices, passkeys, _, hpasskeys, emergencyAccesses, _, hemergency,
    organizations, _, horganizations, token, _, htoken, rfl, -⟩ := h
  exact
    { devices := ⟨devices, rfl, forall₂_keysetEntry hdevices⟩
      passkeys := ⟨passkeys, rfl, forall₂_keysetEntry hpasskeys⟩
      emergencyAccesses :=
        ⟨emergencyAccesses, rfl, forall₂_reencryptEmergencyAccessKeys hemergency⟩
      organizations := ⟨organizations, rfl, recoveryData_of_run horganizations htoken⟩ }

end

/-! ## Both rotations -/

inductive RotationFlow (PublicKey : Type) (ops : AccountOperations EncString SymmetricKey Random)
    where
  | rotate (keyConnectorKey : Except RotateUserKeysError ops.KeyConnectorKey)
      (request : RotateUserKeysRequest PublicKey)
  | passwordChange (request : PasswordChangeAndRotateUserKeysRequest PublicKey)

namespace RotationFlow

variable {ops : AccountOperations EncString SymmetricKey Random}

def trustedOrganizationPublicKeys : RotationFlow PublicKey ops → List PublicKey
  | .rotate _ request | .passwordChange request => request.trustedOrganizationPublicKeys

def trustedEmergencyAccessPublicKeys : RotationFlow PublicKey ops → List PublicKey
  | .rotate _ request | .passwordChange request => request.trustedEmergencyAccessPublicKeys

def upgradeTokenAction : RotationFlow PublicKey ops → UpgradeTokenAction
  | .rotate _ request => request.upgradeTokenAction
  | .passwordChange _ => .skip

end RotationFlow

variable {ops : AccountOperations EncString SymmetricKey Random}

def UnlockDataRequestModel.common (model : UnlockDataRequestModel ops) :
    CommonUnlockDataRequestModel where
  emergencyAccessUnlockData := model.emergencyAccessUnlockData
  organizationAccountRecoveryUnlockData := model.organizationAccountRecoveryUnlockData
  passkeyUnlockData := model.passkeyUnlockData
  deviceKeyUnlockData := model.deviceKeyUnlockData
  v2UpgradeToken := model.v2UpgradeToken

def RotationFlow.postedUnlockData [DecidableEq PublicKey] (flow : RotationFlow PublicKey ops)
    (userKey : KeySlot SymmetricKey) (state : ops.AccountCryptographicState)
    (sync : SyncedAccountData EncString PublicKey SharedKey ops.Kdf) :
    RotateM Random (Option CommonUnlockDataRequestModel) :=
  match flow with
  | .rotate keyConnectorKey request =>
    Option.map (fun posted => posted.1.unlockData) <$>
      internalRotateUserKeys ctx wire ops userKey keyConnectorKey request state sync
  | .passwordChange request =>
    Option.map (fun posted => posted.accountUnlockData.common) <$>
      internalPasswordChangeAndRotateUserKeys ctx wire ops userKey request state sync

section Flows

variable {ctx wire} [DecidableEq PublicKey] {random random' : Random}
  {userKey : KeySlot SymmetricKey}

theorem trusted_of_traverse {Membership : Type} {publicKey : Membership → PublicKey}
    {trusted : List PublicKey} {memberships kept : List Membership}
    (h : traverse (requireTrusted publicKey trusted) memberships = .ok kept) :
    kept = memberships ∧ ∀ membership ∈ memberships, publicKey membership ∈ trusted := by
  induction memberships generalizing kept with
  | nil =>
    cases h
    simp
  | cons membership memberships ih =>
    obtain ⟨first, rest, hfirst, hrest, rfl⟩ := traverse_cons_eq_ok_iff.mp h
    obtain ⟨rfl, htrusted⟩ := ih hrest
    unfold requireTrusted at hfirst
    split at hfirst
    next hmem =>
      cases hfirst
      exact ⟨rfl, List.forall_mem_cons.mpr ⟨hmem, htrusted⟩⟩
    next => cases hfirst

/-- The context of a rotation has all memberships. Those of a list that is filtered are trusted. -/
structure RotationContextFor {Kdf : Type} (ctx : UnlockContext EncString SymmetricKey PublicKey
      PrivateKey SharedKey Random) (userKey : KeySlot SymmetricKey)
    (sync : SyncedAccountData EncString PublicKey SharedKey Kdf)
    (trustedOrganizations trustedEmergencyAccesses : List PublicKey) (action : UpgradeTokenAction)
    (random : Random) (rotation : RotationContext SymmetricKey PublicKey) : Prop where
  currentUserKey : rotation.currentUserKey = userKey
  newUserKey : rotation.newUserKey = (ctx.makeSymmetricKey random).1
  creates : rotation.createsV2UpgradeToken = createsV2UpgradeToken ctx userKey action
  organizations : rotation.v1OrganizationMemberships = sync.organizationMemberships
  emergencyAccesses : rotation.v1EmergencyAccessMemberships = sync.emergencyAccessMemberships
  trustedOrganizations : rotation.createsV2UpgradeToken = false →
    ∀ membership ∈ sync.organizationMemberships, membership.publicKey ∈ trustedOrganizations
  trustedEmergencyAccesses :
    ∀ membership ∈ sync.emergencyAccessMemberships, membership.publicKey ∈ trustedEmergencyAccesses

theorem rotationContextFor_of_run {Kdf : Type}
    {sync : SyncedAccountData EncString PublicKey SharedKey Kdf}
    {trustedOrganizations trustedEmergencyAccesses : List PublicKey} {action : UpgradeTokenAction}
    {rotation : RotationContext SymmetricKey PublicKey}
    (h : makeRotationContext ctx userKey sync trustedOrganizations trustedEmergencyAccesses action
      random = .ok (rotation, random')) :
    RotationContextFor ctx userKey sync trustedOrganizations trustedEmergencyAccesses action random
      rotation := by
  simp only [makeRotationContext, makeNewUserKey, run_bind_eq_ok_iff, run_lift_eq_ok_iff,
    run_pure_eq_ok_iff, Except.ok.injEq] at h
  obtain ⟨newKey, _, hnew, organizations, _, ⟨horganizations, -⟩, emergencyAccesses, _,
    ⟨hemergency, -⟩, rfl, -⟩ := h
  obtain ⟨hkept, htrusted⟩ := trusted_of_traverse hemergency
  have hfiltered : organizations = sync.organizationMemberships ∧
      (createsV2UpgradeToken ctx userKey action = false →
        ∀ membership ∈ sync.organizationMemberships,
          membership.publicKey ∈ trustedOrganizations) := by
    unfold rotationOrganizations at horganizations
    split at horganizations
    next hcreates =>
      cases horganizations
      simp [hcreates]
    next =>
      obtain ⟨rfl, htrustedOrganizations⟩ := trusted_of_traverse horganizations
      exact ⟨rfl, fun _ => htrustedOrganizations⟩
  exact
    { currentUserKey := rfl
      newUserKey := by rw [hnew]
      creates := rfl
      organizations := hfiltered.1
      emergencyAccesses := hkept
      trustedOrganizations := hfiltered.2
      trustedEmergencyAccesses := htrusted }

omit [DecidableEq PublicKey] in
theorem RotationContextFor.unlockDataFor {Kdf : Type}
    {sync : SyncedAccountData EncString PublicKey SharedKey Kdf}
    {trustedOrganizations trustedEmergencyAccesses : List PublicKey} {action : UpgradeTokenAction}
    {rotation : RotationContext SymmetricKey PublicKey} {creates : Bool} {mid : Random}
    (h : RotationContextFor ctx userKey sync trustedOrganizations trustedEmergencyAccesses action
      random rotation)
    (hcommon : reencryptCommonUnlockData ctx wire rotation.currentUserKey rotation.newUserKey
      (commonUnlockDataInput sync rotation) creates mid = .ok (data, random')) :
    UnlockDataFor ctx wire userKey (ctx.makeSymmetricKey random).1
      ⟨sync.trustedDevices, sync.passkeys, sync.organizationMemberships,
        sync.emergencyAccessMemberships⟩ creates data := by
  rw [commonUnlockDataInput, h.currentUserKey, h.newUserKey, h.organizations,
    h.emergencyAccesses] at hcommon
  exact unlockDataFor_of_run hcommon

/-- Both rotations build their unlock data from one context, and agree with it on the token. -/
theorem exists_rotationContext_of_posted {flow : RotationFlow PublicKey ops}
    {state : ops.AccountCryptographicState}
    {sync : SyncedAccountData EncString PublicKey SharedKey ops.Kdf}
    (h : flow.postedUnlockData ctx wire userKey state sync random = .ok (some data, random')) :
    ∃ rotation, RotationContextFor ctx userKey sync flow.trustedOrganizationPublicKeys
        flow.trustedEmergencyAccessPublicKeys flow.upgradeTokenAction random rotation ∧
      UnlockDataFor ctx wire userKey (ctx.makeSymmetricKey random).1
        ⟨sync.trustedDevices, sync.passkeys, sync.organizationMemberships,
          sync.emergencyAccessMemberships⟩ rotation.createsV2UpgradeToken data := by
  cases flow with
  | rotate keyConnectorKey request =>
    simp only [RotationFlow.postedUnlockData, internalRotateUserKeys, run_map_eq_ok_iff,
      run_bind_eq_ok_iff, run_lift_eq_ok_iff, run_translateError_eq_ok_iff, run_pure_eq_ok_iff]
      at h
    obtain ⟨posted, ⟨_, _, ⟨-, rfl⟩, _, _, ⟨-, rfl⟩, rotation, _, hrotation, _, _, -, _, _, -,
      accountData, _, -, _, _, -, _, _, -, common, _, hcommon, _, _, -, rfl, -⟩, hposted⟩ := h
    have hcontext := rotationContextFor_of_run hrotation
    obtain ⟨_, hrequest, rfl⟩ := Option.map_eq_some_iff.mp hposted
    obtain ⟨_, -, rfl⟩ := Option.map_eq_some_iff.mp hrequest
    exact ⟨rotation, hcontext, hcontext.unlockDataFor hcommon⟩
  | passwordChange request =>
    simp only [RotationFlow.postedUnlockData, internalPasswordChangeAndRotateUserKeys,
      run_map_eq_ok_iff, run_bind_eq_ok_iff, run_lift_eq_ok_iff, run_translateError_eq_ok_iff,
      run_pure_eq_ok_iff] at h
    obtain ⟨posted, ⟨_, _, ⟨-, rfl⟩, rotation, _, hrotation, _, _, -, accountData, _, -, _, _, -,
      unlockData, _, hunlock, _, _, -, rfl, -⟩, hposted⟩ := h
    have hcontext := rotationContextFor_of_run hrotation
    obtain ⟨_, hrequest, rfl⟩ := Option.map_eq_some_iff.mp hposted
    obtain ⟨_, -, rfl⟩ := Option.map_eq_some_iff.mp hrequest
    simp only [reencryptMasterPasswordChangeUnlockData, run_bind_eq_ok_iff,
      run_pure_eq_ok_iff] at hunlock
    obtain ⟨_, _, -, common, _, hcommon, rfl, -⟩ := hunlock
    have hcreates : rotation.createsV2UpgradeToken = false := hcontext.creates
    refine ⟨rotation, hcontext, ?_⟩
    rw [hcreates]
    -- The password change drops the token of the common data, which has none.
    have hfor := hcontext.unlockDataFor hcommon
    obtain ⟨entries, hentries, hrecovery⟩ := hfor.organizations
    exact ⟨hfor.devices, hfor.passkeys, hfor.emergencyAccesses, entries, hentries,
      hrecovery.1, rfl⟩

end Flows

end SdkInternal.KeyRotation
