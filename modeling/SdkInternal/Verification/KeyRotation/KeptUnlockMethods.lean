import SdkInternal.Verification.KeyManagement.TokenBinding
import SdkInternal.Verification.KeyRotation.TrustedHolders

/-! # Unlock methods after a rotation

The posted data has one entry for each unlock method of the account. Its holder opens the entry to
the new key. Organizations without a key follow the token from the current key to the new one. -/

namespace SdkInternal.KeyRotation

open Crypto Shared Vault Sends V2UpgradeTokenRequestModel
open KeyManagement V2UpgradeToken

variable {EncString SymmetricKey PublicKey PrivateKey SharedKey Random : Type}

structure UnlockContext.Lawful
    (ctx : UnlockContext EncString SymmetricKey PublicKey PrivateKey SharedKey Random) : Prop
    extends toSendLawful : ctx.toSendContext.Lawful where
  decapsulate_encapsulate : ∀ {key privateKey random shared random'},
    ctx.encapsulate key (ctx.toPublicKey privateKey) random = .ok (shared, random') →
    ctx.decapsulate privateKey shared = .ok key
  parseShared_printShared : ∀ shared, ctx.parseShared (ctx.printShared shared) = .ok shared
  algorithm_makeSymmetricKey : ∀ random,
    ctx.algorithm (ctx.makeSymmetricKey random).1 = .ok .xAes256Gcm
  decryptBytes_wrap : ∀ {wrappingKey key random enc random'},
    ctx.wrapSymmetricKey wrappingKey key random = .ok (enc, random') →
    ∃ bytes, ctx.decryptBytes wrappingKey enc = .ok bytes

/-! ## Kept methods -/

section

variable (ctx : UnlockContext EncString SymmetricKey PublicKey PrivateKey SharedKey Random)
  (wire : WireFormat EncString) (userKey : KeySlot SymmetricKey) (newUserKey : SymmetricKey)

def OpensFor (publicKey : PublicKey) (text : String) : Prop :=
  ∃ shared, ctx.parseShared text = .ok shared ∧
    ∀ privateKey, ctx.toPublicKey privateKey = publicKey →
      ctx.decapsulate privateKey shared = .ok newUserKey

structure KeysetKept (keyset : PartialRotateableKeyset EncString SharedKey) (id : Uuid)
    (encryptedPublicKey encryptedUserKey : String) : Prop where
  sameId : id = keyset.id
  opens : ∃ der publicKey encrypted, StoredPublicKey ctx userKey keyset der publicKey ∧
    wire.parse encryptedPublicKey = .ok encrypted ∧
    ctx.decryptBytes newUserKey encrypted = .ok der ∧
    OpensFor ctx newUserKey publicKey encryptedUserKey

structure EmergencyAccessKept (membership : V1EmergencyAccessMembership PublicKey)
    (entry : EmergencyAccessWithIdRequestModel) : Prop where
  sameId : entry.id = membership.id
  opens : ∃ text, entry.keyEncrypted = some text ∧ OpensFor ctx newUserKey membership.publicKey text

def LeadsToNewKey (model : V2UpgradeTokenRequestModel) : Prop :=
  ∃ token currentKey, model.toToken wire = .ok token ∧ userKey = .ok currentKey ∧
    token.unwrapV2 ctx.keyWriter.toKeyReader currentKey = .ok newUserKey

structure OrganizationKept (token : Option V2UpgradeTokenRequestModel)
    (membership : V1OrganizationMembership PublicKey)
    (entry : OrganizationUserAccountRecoveryRequestModel) : Prop where
  sameId : entry.organizationId = membership.organizationId
  opens : token = none →
    ∃ text, entry.resetPasswordKey = some text ∧ OpensFor ctx newUserKey membership.publicKey text
  follows : ∀ model ∈ token,
    entry.resetPasswordKey = none ∧ LeadsToNewKey ctx wire userKey newUserKey model

/-- Every unlock method of the account has its one entry. -/
structure UnlockMethodsKept {Kdf : Type}
    (sync : SyncedAccountData EncString PublicKey SharedKey Kdf)
    (data : CommonUnlockDataRequestModel) : Prop where
  devices : ∃ entries, data.deviceKeyUnlockData = some entries ∧
    List.Forall₂ (fun keyset entry => KeysetKept ctx wire userKey newUserKey keyset entry.deviceId
      entry.encryptedPublicKey entry.encryptedUserKey) sync.trustedDevices entries
  passkeys : ∃ entries, data.passkeyUnlockData = some entries ∧
    List.Forall₂ (fun keyset entry => KeysetKept ctx wire userKey newUserKey keyset entry.id
      entry.encryptedPublicKey entry.encryptedUserKey) sync.passkeys entries
  emergencyAccesses : ∃ entries, data.emergencyAccessUnlockData = some entries ∧
    List.Forall₂ (EmergencyAccessKept ctx newUserKey) sync.emergencyAccessMemberships entries
  organizations : ∃ entries, data.organizationAccountRecoveryUnlockData = some entries ∧
    List.Forall₂ (OrganizationKept ctx wire userKey newUserKey data.v2UpgradeToken)
      sync.organizationMemberships entries

end

section

variable {ctx : UnlockContext EncString SymmetricKey PublicKey PrivateKey SharedKey Random}
  {wire : WireFormat EncString} {userKey : KeySlot SymmetricKey} {newUserKey : SymmetricKey}
  {publicKey : PublicKey}

theorem UnlockContext.Lawful.opensFor (hctx : ctx.Lawful) {shared : SharedKey}
    (h : Encapsulates ctx newUserKey publicKey shared) :
    OpensFor ctx newUserKey publicKey (ctx.printShared shared) := by
  obtain ⟨random, random', hshared⟩ := h
  refine ⟨shared, hctx.parseShared_printShared shared, ?_⟩
  rintro privateKey rfl
  exact hctx.decapsulate_encapsulate hshared

theorem KeysetRotated.kept (hctx : ctx.Lawful)
    (hwire : ∀ value, wire.parse (wire.print value) = .ok value)
    {keyset rotated : PartialRotateableKeyset EncString SharedKey} {der : List UInt8}
    (h : KeysetRotated ctx userKey newUserKey keyset rotated der publicKey) :
    KeysetKept ctx wire userKey newUserKey keyset rotated.id (wire.print rotated.encryptedPublicKey)
      (ctx.printShared rotated.encryptedUserKey) := by
  obtain ⟨random, random', hencrypted⟩ := h.encrypted
  exact ⟨h.id, der, publicKey, rotated.encryptedPublicKey, h.stored, hwire _,
    hctx.decryptBytes_encryptBytes hencrypted, hctx.opensFor h.shared⟩

theorem EmergencyAccessEntry.kept (hctx : ctx.Lawful)
    {membership : V1EmergencyAccessMembership PublicKey}
    {entry : EmergencyAccessWithIdRequestModel}
    (h : EmergencyAccessEntry ctx newUserKey membership entry) :
    EmergencyAccessKept ctx newUserKey membership entry := by
  obtain ⟨shared, hshared, hkey⟩ := h.shared
  exact ⟨h.id, ctx.printShared shared, hkey, hctx.opensFor hshared⟩

theorem checkAlgorithm_eq_ok_iff {reader : KeyReader EncString SymmetricKey}
    {expected : SymmetricKeyAlgorithm} {slot : KeySlot SymmetricKey} {key : SymmetricKey} :
    checkAlgorithm reader expected slot = .ok key ↔
      slot = .ok key ∧ reader.algorithm key = .ok expected := by
  unfold checkAlgorithm
  cases slot with
  | error e => simp
  | ok k =>
    simp only [Except.ok.injEq]
    cases halgorithm : reader.algorithm k with
    | error e =>
      simp only [reduceCtorEq, false_iff, not_and]
      rintro rfl
      simp [halgorithm]
    | ok algorithm =>
      by_cases hexpected : algorithm = expected
      · simp only [hexpected, ne_eq, not_true_eq_false, if_false, Except.ok.injEq]
        constructor
        · rintro rfl
          exact ⟨rfl, by rw [halgorithm, hexpected]⟩
        · exact And.left
      · simp only [hexpected, ne_eq, not_false_eq_true, if_true, reduceCtorEq, false_iff, not_and]
        rintro rfl h
        rw [halgorithm] at h
        exact hexpected (Except.ok.inj h)

theorem TokenMade.leadsToNewKey (hctx : ctx.Lawful)
    (hwire : ∀ value, wire.parse (wire.print value) = .ok value)
    (halgorithm : ctx.algorithm newUserKey = .ok .xAes256Gcm)
    {token : V2UpgradeToken EncString} (h : TokenMade ctx userKey newUserKey token) :
    LeadsToNewKey ctx wire userKey newUserKey (.ofToken wire token) := by
  obtain ⟨random, random', hmade⟩ := h
  simp only [create, wrapHalf, run_bind_eq_ok_iff, run_lift_eq_ok_iff, run_pure_eq_ok_iff,
    checkAlgorithm_eq_ok_iff, mapError_eq_ok_iff, Except.ok.injEq] at hmade
  obtain ⟨currentKey, _, ⟨⟨huser, -⟩, rfl⟩, _, _, ⟨⟨rfl, -⟩, rfl⟩, half1, _, hhalf1, half2, _,
    hhalf2, rfl, -⟩ := hmade
  have hread : (ofToken wire ⟨half1, half2⟩).toToken wire =
      .ok ⟨half1, half2⟩ := by
    simp only [toToken, ofToken, hwire]
    rfl
  refine ⟨⟨half1, half2⟩, currentKey, hread, huser, ?_⟩
  exact unwrapV2_eq_ok_iff.mpr
    ⟨hctx.unwrap_wrap hhalf2, halgorithm, hctx.decryptBytes_wrap hhalf1⟩

theorem token_roundTrip (hctx : ctx.Lawful) {slot newSlot : KeySlot SymmetricKey}
    {token : V2UpgradeToken EncString} {random random' : Random}
    (h : create ctx.keyWriter slot newSlot random = .ok (token, random')) :
    ∃ key newKey, slot = .ok key ∧ newSlot = .ok newKey ∧
      token.unwrapV2 ctx.keyWriter.toKeyReader key = .ok newKey ∧
      token.unwrapV1 ctx.keyWriter.toKeyReader newKey = .ok key := by
  simp only [create, wrapHalf, run_bind_eq_ok_iff,
    run_lift_eq_ok_iff, run_pure_eq_ok_iff, checkAlgorithm_eq_ok_iff, mapError_eq_ok_iff] at h
  obtain ⟨key, _, ⟨⟨hkey, -⟩, rfl⟩, newKey, _, ⟨⟨hnew, halgorithm⟩, rfl⟩, half1, _, hhalf1, half2,
    _, hhalf2, rfl, -⟩ := h
  refine ⟨key, newKey, hkey, hnew, unwrapV2_eq_ok_iff.mpr ?_, unwrapV1_eq_ok_iff.mpr ?_⟩
  · exact ⟨hctx.unwrap_wrap hhalf2, halgorithm, hctx.decryptBytes_wrap hhalf1⟩
  · exact ⟨hctx.unwrap_wrap hhalf1, hctx.decryptBytes_wrap hhalf2⟩

theorem organizationKept_of_recoveryData (hctx : ctx.Lawful)
    (hwire : ∀ value, wire.parse (wire.print value) = .ok value)
    (halgorithm : ctx.algorithm newUserKey = .ok .xAes256Gcm) {creates : Bool}
    {memberships : List (V1OrganizationMembership PublicKey)}
    {entries : List OrganizationUserAccountRecoveryRequestModel}
    {token : Option V2UpgradeTokenRequestModel}
    (h : RecoveryData ctx wire userKey newUserKey creates memberships entries token) :
    List.Forall₂ (OrganizationKept ctx wire userKey newUserKey token) memberships entries := by
  cases creates with
  | true =>
    obtain ⟨rfl, made, hmade, rfl⟩ := h
    have hleads := hmade.leadsToNewKey hctx hwire halgorithm
    rw [deferOrganizationAccountRecoveryToAdmins, List.forall₂_map_right_iff, List.forall₂_same]
    intro membership _
    refine ⟨rfl, nofun, ?_⟩
    rintro _ ⟨⟩
    exact ⟨rfl, hleads⟩
  | false =>
    obtain ⟨hentries, rfl⟩ := h
    apply hentries.imp
    intro membership entry hentry
    obtain ⟨shared, hshared, hkey⟩ := hentry.shared
    refine ⟨hentry.id, ?_, nofun⟩
    intro _
    exact ⟨ctx.printShared shared, hkey, hctx.opensFor hshared⟩

end

/-- Every unlock method of an account leads to the new key after a rotation. -/
theorem rotation_unlockMethodsKept [DecidableEq PublicKey]
    (ctx : UnlockContext EncString SymmetricKey PublicKey PrivateKey SharedKey Random)
    (hctx : ctx.Lawful) (wire : WireFormat EncString)
    (hwire : ∀ value, wire.parse (wire.print value) = .ok value)
    (ops : AccountOperations EncString SymmetricKey Random) (userKey : KeySlot SymmetricKey)
    (flow : RotationFlow PublicKey ops) (state : ops.AccountCryptographicState)
    (sync : SyncedAccountData EncString PublicKey SharedKey ops.Kdf) (random random' : Random)
    (data : CommonUnlockDataRequestModel)
    (hposted : flow.postedUnlockData ctx wire userKey state sync random =
      .ok (some data, random')) :
    UnlockMethodsKept ctx wire userKey (ctx.makeSymmetricKey random).1 sync data := by
  obtain ⟨rotation, -, ⟨devices, hdevices, hdeviceEntries⟩, ⟨passkeys, hpasskeys, hpasskeyEntries⟩,
    ⟨emergencyAccesses, hemergency, hemergencyEntries⟩, organizations, horganizations,
    hrecovery⟩ := exists_rotationContext_of_posted hposted
  refine
    { devices := ⟨devices, hdevices, hdeviceEntries.imp ?_⟩
      passkeys := ⟨passkeys, hpasskeys, hpasskeyEntries.imp ?_⟩
      emergencyAccesses := ⟨emergencyAccesses, hemergency, hemergencyEntries.imp ?_⟩
      organizations := ⟨organizations, horganizations, ?_⟩ }
  · rintro keyset entry ⟨rotated, der, publicKey, hrotated, rfl⟩
    exact hrotated.kept hctx hwire
  · rintro keyset entry ⟨rotated, der, publicKey, hrotated, rfl⟩
    exact hrotated.kept hctx hwire
  · intro membership entry hentry
    exact hentry.kept hctx
  · exact organizationKept_of_recoveryData hctx hwire (hctx.algorithm_makeSymmetricKey random)
      hrecovery

/-! ## The rotation that makes a token -/

theorem parseSendKey_bytesText (bytes : List UInt8) : parseSendKey (bytesText bytes) = .ok bytes :=
  parseSendKey_encodeUrl bytes

section OpenContext

variable {wrappingKey key : Bool} {random random' : Unit} {enc : String}

theorem eq_of_openWrap
    (h : openUnlockContext.wrapSymmetricKey wrappingKey key random = .ok (enc, random')) :
    enc = bytesText [keyByte key] := by
  have hrun : openUnlockContext.wrapSymmetricKey wrappingKey key random =
      .ok (bytesText [keyByte key], random) := rfl
  exact (Prod.mk.inj (Except.ok.inj h)).1.symm

theorem eq_of_openEncryptBytes {bytes : List UInt8}
    (h : openUnlockContext.encryptBytes key bytes random = .ok (enc, random')) :
    enc = bytesText bytes := by
  have hrun : openUnlockContext.encryptBytes key bytes random = .ok (bytesText bytes, random) := rfl
  exact (Prod.mk.inj (Except.ok.inj h)).1.symm

theorem openUnwrap_bytesText :
    openUnlockContext.unwrapSymmetricKey wrappingKey (bytesText [keyByte key]) = .ok key := by
  cases key <;> rfl

theorem openDecryptBytes_bytesText (bytes : List UInt8) :
    openUnlockContext.decryptBytes key (bytesText bytes) = .ok bytes :=
  parseSendKey_bytesText bytes

theorem openParseShared_eq (text : String) :
    openUnlockContext.parseShared text =
      (parseSendKey text).map fun bytes => (bytes.head? == some 1, bytes.tail) :=
  rfl

variable (shared : Bool × List UInt8)

theorem openPrintShared_eq :
    openUnlockContext.printShared shared = bytesText (keyByte shared.1 :: shared.2) :=
  rfl

theorem openParseShared_printShared :
    openUnlockContext.parseShared (openUnlockContext.printShared shared) = .ok shared := by
  rw [openPrintShared_eq, openParseShared_eq, parseSendKey_bytesText]
  obtain ⟨key, publicKey⟩ := shared
  cases key <;> rfl

end OpenContext

theorem openUnlockContext_lawful : openUnlockContext.Lawful where
  decrypt_encrypt := by
    intro key text random enc random' h
    cases h
    rfl
  unwrap_wrap := by
    intro wrappingKey key random enc random' h
    rw [eq_of_openWrap h]
    exact openUnwrap_bytesText
  unseal_seal := by
    intro key blob random envelope cek random' h
    cases h
  fromOpaqueString_toOpaqueString := by
    intro key blob random envelope cek random' h
    cases h
  parseDate_formatDate := openContext_lawful.parseDate_formatDate
  decryptBytes_encryptBytes := by
    intro key bytes random enc random' h
    rw [eq_of_openEncryptBytes h]
    exact openDecryptBytes_bytesText bytes
  decapsulate_encapsulate := by
    intro key privateKey random shared random' h
    cases h
    exact if_pos rfl
  parseShared_printShared := openParseShared_printShared
  algorithm_makeSymmetricKey := fun _ => rfl
  decryptBytes_wrap := by
    intro wrappingKey key random enc random' h
    rw [eq_of_openWrap h]
    exact ⟨[keyByte key], openDecryptBytes_bytesText [keyByte key]⟩

theorem openToken_roundTrip :
    ∃ token, create openUnlockContext.keyWriter (.ok false) (.ok true) () = .ok (token, ()) ∧
      token.unwrapV1 openUnlockContext.keyWriter.toKeyReader true = .ok false := by
  refine ⟨_, rfl, ?_⟩
  obtain ⟨_, _, ⟨⟩, ⟨⟩, -, hunwrap⟩ := token_roundTrip openUnlockContext_lawful
    (rfl : create _ (.ok false) (.ok true) () = _)
  exact hunwrap

theorem upgradingFlow_unlockMethodsKept :
    UnlockMethodsKept openUnlockContext openWire (.ok false) true syncedAccount
      upgradingUnlockData :=
  rotation_unlockMethodsKept openUnlockContext openUnlockContext_lawful openWire (fun _ => rfl)
    openAccount (.ok false) upgradingFlow () syncedAccount () () upgradingUnlockData
    upgradingFlow_posted

end SdkInternal.KeyRotation
