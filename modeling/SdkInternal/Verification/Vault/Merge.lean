import SdkInternal.Model.Vault.Response
import SdkInternal.Verification.Vault.StrictDecryption

/-! # Merging a response with the local copy of an item

The merged item has the contents of the response, and values of the local copy only where the
response has none. One of the four merges takes the sealed data from the local copy. -/

namespace SdkInternal.Vault

open Crypto Shared CipherView PartialCipher CipherMiniResponseModel

/-! ## Decryption and the metadata of an item -/

section

variable {EncString SymmetricKey : Type} (ctx : DecryptContext EncString SymmetricKey)
  (key : KeySlot SymmetricKey) (metadata : CipherMetadata)

def Cipher.withMetadata (cipher : Cipher EncString) : Cipher EncString :=
  { cipher with toCipherMetadata := metadata }

def CipherView.withMetadata (view : CipherView SymmetricKey) : CipherView SymmetricKey :=
  { view with toCipherMetadata := metadata }

theorem enforceChecksums_withMetadata (hasKey : Bool) (metadata : CipherMetadata)
    (view : CipherView SymmetricKey) :
    enforceChecksums ctx hasKey (view.withMetadata metadata) =
      (enforceChecksums ctx hasKey view).withMetadata metadata := by
  unfold enforceChecksums
  split <;> rfl

variable (metadata : CipherMetadata) (cipher : Cipher EncString)

theorem strictDecryptCipherView_withMetadata :
    strictDecryptCipherView ctx key (cipher.withMetadata metadata) =
      withMetadata metadata <$> strictDecryptCipherView ctx key cipher := by
  simp only [strictDecryptCipherView, map_bind, map_pure, ← enforceChecksums_withMetadata]
  rfl

theorem lenientDecryptCipherView_withMetadata :
    lenientDecryptCipherView ctx key (cipher.withMetadata metadata) =
      withMetadata metadata <$> lenientDecryptCipherView ctx key cipher := by
  simp only [lenientDecryptCipherView, map_bind, map_pure, ← enforceChecksums_withMetadata]
  rfl

theorem applyToCipherView_withMetadata (libs : Libraries) (blob : CipherBlobV1)
    (metadata : CipherMetadata) (view : CipherView SymmetricKey) :
    blob.applyToCipherView libs (view.withMetadata metadata) =
      (blob.applyToCipherView libs view).withMetadata metadata := by
  obtain ⟨name, notes, typeData, fields, history⟩ := blob
  cases typeData <;> rfl

theorem decryptBlobCipher_withMetadata (sealedBlob : SealedCipherBlob EncString) :
    decryptBlobCipher ctx key (cipher.withMetadata metadata) sealedBlob =
      withMetadata metadata <$> decryptBlobCipher ctx key cipher sealedBlob := by
  simp only [decryptBlobCipher, map_bind, map_pure, ← applyToCipherView_withMetadata]
  rfl

theorem decryptRestrictedCipherView_withMetadata (raw : String) (strict : Bool) :
    decryptRestrictedCipherView ctx key (cipher.withMetadata metadata) raw strict =
      withMetadata metadata <$>
        decryptRestrictedCipherView ctx key cipher raw strict := by
  simp only [decryptRestrictedCipherView, map_bind, map_pure, ← enforceChecksums_withMetadata]
  rfl

/-- The metadata are only copied into the view, apart from the organization, which a restricted
item must have. -/
theorem decryptWith_withMetadata {metadata : CipherMetadata} {cipher : Cipher EncString}
    (horganization : metadata.organizationId = cipher.organizationId) (strict : Bool) :
    (cipher.withMetadata metadata).decryptWith ctx key strict =
      withMetadata metadata <$> cipher.decryptWith ctx key strict := by
  have hrestricted' : (cipher.withMetadata metadata).partialData = cipher.partialData := rfl
  have hblob' : tryParseBlob ctx (cipher.withMetadata metadata) = tryParseBlob ctx cipher := rfl
  have hid : (cipher.withMetadata metadata).organizationId = cipher.organizationId := horganization
  unfold Cipher.decryptWith
  rw [hrestricted', hblob', hid]
  cases cipher.partialData with
  | some raw =>
    simp only
    split
    · rfl
    · rw [decryptRestrictedCipherView_withMetadata]
  | none =>
    cases tryParseBlob ctx cipher with
    | some sealedBlob => exact decryptBlobCipher_withMetadata ctx key metadata cipher sealedBlob
    | none =>
      cases strict with
      | true => exact strictDecryptCipherView_withMetadata ctx key metadata cipher
      | false => exact lenientDecryptCipherView_withMetadata ctx key metadata cipher

end

/-! ## The contents of a response -/

section

variable {EncString : Type} (wire : WireFormat EncString) (response : CipherMiniResponseModel)

/-- The item has the encrypted contents of the response. -/
structure HasContentsOf (cipher : Cipher EncString) : Prop where
  key : tryFromOptional wire response.key = .ok cipher.key
  data : cipher.data = response.data
  partialData : cipher.partialData = response.partialData
  name : tryFromOptional wire response.name = .ok cipher.name
  notes : tryFromOptional wire response.notes = .ok cipher.notes
  type : response.type = some (.known cipher.type)
  login : traverse (CipherLoginModel.tryInto wire) response.login = .ok cipher.login
  identity : traverse (tryIntoRecord wire) response.identity = .ok cipher.identity
  card : traverse (tryIntoRecord wire) response.card = .ok cipher.card
  secureNote : traverse CipherSecureNoteModel.tryInto response.secureNote = .ok cipher.secureNote
  sshKey : traverse (CipherSshKeyModel.tryInto wire) response.sshKey = .ok cipher.sshKey
  bankAccount : traverse (tryIntoRecord wire) response.bankAccount = .ok cipher.bankAccount
  driversLicense : traverse (tryIntoRecord wire) response.driversLicense = .ok cipher.driversLicense
  passport : traverse (tryIntoRecord wire) response.passport = .ok cipher.passport
  attachments : traverse (traverse (AttachmentResponseModel.tryInto wire)) response.attachments =
    .ok cipher.attachments
  fields : traverse (traverse (CipherFieldModel.tryInto wire)) response.fields = .ok cipher.fields
  passwordHistory : traverse (traverse (CipherPasswordHistoryModel.tryInto wire))
    response.passwordHistory = .ok cipher.passwordHistory

structure HasMetadataOf (totpDefault : Bool) (cipher : Cipher EncString) : Prop where
  id : cipher.id = response.id
  organizationId : cipher.organizationId = response.organizationId
  reprompt : ∃ reprompt, traverse (ApiEnum.tryInto · "reprompt") response.reprompt =
    .ok reprompt ∧ cipher.reprompt = reprompt.getD .none
  organizationUseTotp : cipher.organizationUseTotp = response.organizationUseTotp.getD totpDefault
  creationDate : ∃ text, response.creationDate = some text ∧
    parseDateTime wire text = .ok cipher.creationDate
  deletedDate : traverse (parseDateTime wire) response.deletedDate = .ok cipher.deletedDate
  revisionDate : ∃ text, response.revisionDate = some text ∧
    parseDateTime wire text = .ok cipher.revisionDate

structure HasUserMetadataOf (response : CipherResponseModel) (editDefault : Bool)
    (cipher : Cipher EncString) : Prop where
  folderId : cipher.folderId = response.folderId
  favorite : cipher.favorite = response.favorite.getD false
  edit : cipher.edit = response.edit.getD editDefault
  permissions :
    traverse CipherPermissionsResponseModel.tryInto response.permissions = .ok cipher.permissions
  viewPassword : cipher.viewPassword = response.viewPassword.getD true
  archivedDate : traverse (parseDateTime wire) response.archivedDate = .ok cipher.archivedDate

/-- All metadata that the kind of response has are those of the response. -/
def PartialCipher.HasCarriedMetadata (response : PartialCipher) (cipher : Cipher EncString) :
    Prop :=
  match response with
  | .details model =>
    HasMetadataOf wire model.toCipherMiniResponseModel true cipher ∧
    HasUserMetadataOf wire model.toCipherResponseModel true cipher ∧
    cipher.collectionIds = model.collectionIds.getD []
  | .response model =>
    HasMetadataOf wire model.toCipherMiniResponseModel false cipher ∧
    HasUserMetadataOf wire model false cipher
  | .mini model => HasMetadataOf wire model true cipher
  | .miniDetails model =>
    HasMetadataOf wire model.toCipherMiniResponseModel true cipher ∧
    cipher.collectionIds = model.collectionIds.getD []

variable {wire}

variable {response : CipherMiniResponseModel}

theorem HasContentsOf.withMetadata_eq {first second : Cipher EncString}
    (hfirst : HasContentsOf wire response first) (hsecond : HasContentsOf wire response second) :
    first.withMetadata second.toCipherMetadata = second := by
  have hok {α : Type} {m : Except VaultParseError α} {a b : α} (ha : m = .ok a) (hb : m = .ok b) :
      a = b := Except.ok.inj (ha.symm.trans hb)
  have htype : first.type = second.type := by
    have htypes := hfirst.type.symm.trans hsecond.type
    simpa using htypes
  have hdata := hfirst.data.trans hsecond.data.symm
  have hrestricted := hfirst.partialData.trans hsecond.partialData.symm
  unfold Cipher.withMetadata
  rw [htype, hdata, hrestricted, hok hfirst.key hsecond.key, hok hfirst.name hsecond.name, hok
    hfirst.notes hsecond.notes, hok hfirst.login hsecond.login, hok hfirst.identity
    hsecond.identity, hok hfirst.card hsecond.card, hok hfirst.secureNote hsecond.secureNote, hok
    hfirst.sshKey hsecond.sshKey, hok hfirst.bankAccount hsecond.bankAccount, hok
    hfirst.driversLicense hsecond.driversLicense, hok hfirst.passport hsecond.passport, hok
    hfirst.attachments hsecond.attachments, hok hfirst.fields hsecond.fields, hok
    hfirst.passwordHistory hsecond.passwordHistory]

/-! ### What is parsed -/

theorem requireValue_eq_ok_iff {α : Type} {value : Option α} {field : String} {a : α} :
    requireValue value field = .ok a ↔ value = some a := by
  cases value <;> simp [requireValue]

theorem tryInto_eq_ok_iff {α : Type} {value : ApiEnum α} {field : String} {a : α} :
    value.tryInto field = .ok a ↔ value = .known a := by
  cases value <;> simp [ApiEnum.tryInto]

variable {payloads : ParsedPayloads EncString} {records : ParsedRecords EncString}
  {metadata : CipherMetadata} {key : Option EncString} {variableName : String}

/-- An item that is assembled from the parsed values of a response has its contents, with the data
apart. -/
theorem hasContentsOf_assembleCipher_iff {data : Option String}
    (hkey : tryFromOptional wire response.key = .ok key)
    (hpayloads : response.parsePayloads wire variableName = .ok payloads)
    (hrecords : response.parseRecords wire variableName = .ok records) :
    HasContentsOf wire response
      (assembleCipher metadata key payloads records data response.partialData) ↔
    response.data = data := by
  simp only [parsePayloads, bind_eq_ok_iff, pure_eq_ok_iff,
    requireValue_eq_ok_iff, tryInto_eq_ok_iff] at hpayloads
  obtain ⟨name, hname, notes, hnotes, type, ⟨_, htype, rfl⟩, login, hlogin, identity, hidentity,
    card, hcard, secureNote, hsecureNote, sshKey, hsshKey, bankAccount, hbankAccount,
    driversLicense, hdriversLicense, passport, hpassport, reprompt, -, rfl⟩ := hpayloads
  simp only [parseRecords, bind_eq_ok_iff, pure_eq_ok_iff] at hrecords
  obtain ⟨attachments, hattachments, fields, hfields, passwordHistory, hhistory, _, -, _, -, _, -,
    rfl⟩ := hrecords
  constructor
  · intro hcontents
    exact hcontents.data.symm
  · rintro rfl
    exact ⟨hkey, rfl, rfl, hname, hnotes, htype, hlogin, hidentity, hcard, hsecureNote, hsshKey,
      hbankAccount, hdriversLicense, hpassport, hattachments, hfields, hhistory⟩

theorem hasMetadataOf_assembleCipher {data partialData : Option String} {totpDefault : Bool}
    (hpayloads : response.parsePayloads wire variableName = .ok payloads)
    (hrecords : response.parseRecords wire variableName = .ok records)
    (hid : metadata.id = response.id)
    (horganizationId : metadata.organizationId = response.organizationId)
    (hreprompt : metadata.reprompt = payloads.reprompt)
    (htotp : metadata.organizationUseTotp = response.organizationUseTotp.getD totpDefault)
    (hcreation : metadata.creationDate = records.creationDate)
    (hdeleted : metadata.deletedDate = records.deletedDate)
    (hrevision : metadata.revisionDate = records.revisionDate) :
    HasMetadataOf wire response totpDefault
      (assembleCipher metadata key payloads records data partialData) := by
  simp only [parsePayloads, bind_eq_ok_iff, pure_eq_ok_iff] at hpayloads
  obtain ⟨_, -, _, -, _, -, _, -, _, -, _, -, _, -, _, -, _, -, _, -, _, -, reprompt, hparsed,
    rfl⟩ := hpayloads
  simp only [parseRecords, bind_eq_ok_iff, pure_eq_ok_iff, requireValue_eq_ok_iff] at hrecords
  obtain ⟨_, -, _, -, _, -, creation, hcreationDate, deleted, hdeletedDate, revision,
    hrevisionDate, rfl⟩ := hrecords
  refine ⟨hid, horganizationId, ⟨reprompt, hparsed, hreprompt⟩, htotp, ?_, ?_, ?_⟩
  · simpa [assembleCipher, hcreation] using hcreationDate
  · simpa [assembleCipher, hdeleted] using hdeletedDate
  · simpa [assembleCipher, hrevision] using hrevisionDate

end

/-! ## Merged items -/

section

variable {EncString : Type} {wire : WireFormat EncString}

/-- The merged item keeps what the server holds: its contents and metadata are those of the
response, and it decrypts as any item with these contents, up to the metadata. -/
structure KeepsServerContents (wire : WireFormat EncString) (response : PartialCipher)
    (merged : Cipher EncString) : Prop where
  contents : HasContentsOf wire response.common merged
  metadata : response.HasCarriedMetadata wire merged
  decrypts : ∀ held, HasContentsOf wire response.common held →
    held.organizationId = merged.organizationId →
    ∀ {SymmetricKey : Type} (ctx : DecryptContext EncString SymmetricKey)
      (key : KeySlot SymmetricKey) (strict : Bool),
      merged.decryptWith ctx key strict =
        CipherView.withMetadata merged.toCipherMetadata <$> held.decryptWith ctx key strict

variable {merged : Cipher EncString} {response : PartialCipher}

theorem keepsServerContents_iff :
    KeepsServerContents wire response merged ↔
      HasContentsOf wire response.common merged ∧ response.HasCarriedMetadata wire merged := by
  constructor
  · intro h
    exact ⟨h.contents, h.metadata⟩
  · rintro ⟨hcontents, hmetadata⟩
    refine ⟨hcontents, hmetadata, ?_⟩
    intro held hheld horganization SymmetricKey ctx key strict
    rw [← decryptWith_withMetadata ctx key horganization.symm strict,
      hheld.withMetadata_eq hcontents]

theorem PartialCipher.mergeWithCipher_spec {stored : Option (Cipher EncString)}
    (h : response.mergeWithCipher wire stored = .ok merged) :
    response.HasCarriedMetadata wire merged ∧
      (HasContentsOf wire response.common merged ↔
        ∀ model, response = .miniDetails model → model.data = stored.bind (·.data)) := by
  cases response with
  | details model =>
    obtain ⟨cipher, hcipher, hmerged⟩ := bind_eq_ok_iff.mp h
    cases hmerged
    simp only [CipherDetailsResponseModel.tryInto, bind_eq_ok_iff, pure_eq_ok_iff] at hcipher
    obtain ⟨payloads, hpayloads, permissions, hpermissions, records, hrecords, key, hkey,
      archivedDate, harchived, rfl⟩ := hcipher
    refine ⟨⟨?_, ?_, rfl⟩, ?_⟩
    · exact hasMetadataOf_assembleCipher hpayloads hrecords rfl rfl rfl rfl rfl rfl rfl
    · exact ⟨rfl, rfl, rfl, hpermissions, rfl, harchived⟩
    · refine iff_of_true ?_ (by simp)
      exact (hasContentsOf_assembleCipher_iff hkey hpayloads hrecords).mpr rfl
  | response model =>
    simp only [mergeWithCipher, CipherResponseModel.mergeWithCipher, bind_eq_ok_iff,
      pure_eq_ok_iff] at h
    obtain ⟨payloads, hpayloads, permissions, hpermissions, records, hrecords, key, hkey,
      archivedDate, harchived, rfl⟩ := h
    refine ⟨⟨?_, ?_⟩, ?_⟩
    · exact hasMetadataOf_assembleCipher hpayloads hrecords rfl rfl rfl rfl rfl rfl rfl
    · exact ⟨rfl, rfl, rfl, hpermissions, rfl, harchived⟩
    · refine iff_of_true ?_ (by simp)
      exact (hasContentsOf_assembleCipher_iff hkey hpayloads hrecords).mpr rfl
  | mini model =>
    simp only [mergeWithCipher, CipherMiniResponseModel.mergeWithCipher,
      bind_eq_ok_iff, pure_eq_ok_iff] at h
    obtain ⟨key, hkey, payloads, hpayloads, records, hrecords, rfl⟩ := h
    refine ⟨?_, ?_⟩
    · exact hasMetadataOf_assembleCipher hpayloads hrecords rfl rfl rfl rfl rfl rfl rfl
    · refine iff_of_true ?_ (by simp)
      exact (hasContentsOf_assembleCipher_iff hkey hpayloads hrecords).mpr rfl
  | miniDetails model =>
    simp only [mergeWithCipher, CipherMiniDetailsResponseModel.mergeWithCipher,
      bind_eq_ok_iff, pure_eq_ok_iff] at h
    obtain ⟨key, hkey, payloads, hpayloads, records, hrecords, rfl⟩ := h
    refine ⟨⟨?_, rfl⟩, ?_⟩
    · exact hasMetadataOf_assembleCipher hpayloads hrecords rfl rfl rfl rfl rfl rfl rfl
    · -- Here the data come from the local copy.
      refine (hasContentsOf_assembleCipher_iff hkey hpayloads hrecords).trans ?_
      simp

/-- A merged item keeps what the server holds, whatever the local copy is, if and only if the
response is not the one whose data are ignored, or its data are those of the local copy. -/
theorem mergeWithCipher_keepsServerContents_iff (wire : WireFormat EncString)
    {response : PartialCipher} {stored : Option (Cipher EncString)} {merged : Cipher EncString}
    (h : response.mergeWithCipher wire stored = .ok merged) :
    KeepsServerContents wire response merged ↔
      ∀ model, response = .miniDetails model → model.data = stored.bind (·.data) := by
  obtain ⟨hmetadata, hcontents⟩ := mergeWithCipher_spec h
  rw [keepsServerContents_iff, ← hcontents]
  exact and_iff_left hmetadata

end

/-! ## Data that are lost -/

/-- Encrypted values are their texts, and there is one date. -/
def plainWire : WireFormat String where
  parse text := .ok text
  print text := text
  parseDateTime _ := some 0
  toRfc3339 _ := "1970-01-01T00:00:00+00:00"
  toRfc3339Millis _ := "1970-01-01T00:00:00.000Z"
  toRfc3339Secs _ := "1970-01-01T00:00:00Z"

/-- A sealed item of an organization, with or without its data. -/
def sealedItem (data : Option String) : CipherMiniDetailsResponseModel where
  id := some 1
  organizationId := some 2
  type := some (.known .login)
  data
  partialData := none
  name := none
  notes := none
  login := none
  card := none
  identity := none
  secureNote := none
  sshKey := none
  bankAccount := none
  driversLicense := none
  passport := none
  fields := none
  passwordHistory := none
  attachments := none
  organizationUseTotp := some true
  revisionDate := some "1970-01-01T00:00:00Z"
  creationDate := some "1970-01-01T00:00:00Z"
  deletedDate := none
  reprompt := none
  key := some "wrapped"
  collectionIds := some [3]

def storedItem (data : Option String) : Cipher String :=
  { bareItem with key := some "wrapped", data }

theorem miniDetailsResponse_keepsEqualData :
    ∃ merged, (miniDetails (sealedItem (some "blob"))).mergeWithCipher plainWire
        (some (storedItem (some "blob"))) = .ok merged ∧
      KeepsServerContents plainWire (.miniDetails (sealedItem (some "blob"))) merged := by
  have hmerged : (miniDetails (sealedItem (some "blob"))).mergeWithCipher plainWire
      (some (storedItem (some "blob"))) = .ok _ := rfl
  refine ⟨_, hmerged, (mergeWithCipher_keepsServerContents_iff plainWire hmerged).mpr ?_⟩
  intro model hmodel
  cases hmodel
  rfl

theorem miniDetailsResponse_losesData :
    ∃ merged, (miniDetails (sealedItem (some "blob"))).mergeWithCipher plainWire
        none = .ok merged ∧
      merged.data = none ∧
      ¬KeepsServerContents plainWire (.miniDetails (sealedItem (some "blob"))) merged := by
  refine ⟨_, rfl, rfl, ?_⟩
  intro hkeeps
  cases hkeeps.contents.data

end SdkInternal.Vault
